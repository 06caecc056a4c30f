import Mathlib.Data.List.Infix
import RequestFlow.Hook.Parser

/-!
# RequestFlow.Proofs.Hook.Reading

The tokens that count. A separator inside an open bracket is dropped, and a parser that looks
for its next token passes over just the separators that are dropped.

* `flatten` — a list of tokens without the separators inside brackets.
* `Reads`   — from one place to another certain tokens that count have been read.
-/

namespace RequestFlow.Hook

/-- How many brackets are open after a token. -/
def after (depth : Nat) : Tok → Nat
  | .lparen | .lbracket => depth + 1
  | .rparen | .rbracket => depth - 1
  | _ => depth

/-- The tokens from a place on where `depth` brackets are open, without the separators inside
brackets. -/
def flatten (depth : Nat) : List Token → List Token
  | [] => []
  | t :: ts =>
    if 0 < depth ∧ t.tok = .separator then flatten depth ts
    else t :: flatten (after depth t.tok) ts

theorem flatten_separator {depth : Nat} {t : Token} (hd : 0 < depth) (ht : t.tok = .separator)
    (ts : List Token) : flatten depth (t :: ts) = flatten depth ts := by
  simp [flatten, hd, ht]

theorem flatten_token {depth : Nat} {t : Token} (ht : 0 < depth → t.tok ≠ .separator)
    (ts : List Token) : flatten depth (t :: ts) = t :: flatten (after depth t.tok) ts := by
  rw [flatten, if_neg fun ⟨hd, htok⟩ => ht hd htok]

/-- From `ts`, where `d` brackets are open, to `rest`, where `d'` are open, the tokens `used`
have been read. -/
structure Reads (d : Nat) (ts used : List Token) (d' : Nat) (rest : List Token) : Prop where
  flat : flatten d ts = used ++ flatten d' rest
  /-- Outside of brackets nothing is passed over after the last token read. -/
  raw : ∃ front, ts = front ++ rest ∧ (d' = 0 → front.getLast? = used.getLast?)

namespace Reads

variable {d d₁ d₂ d₃ : Nat} {ts rest ts₁ ts₂ ts₃ used u v : List Token} {t : Token}

theorem refl (d : Nat) (ts : List Token) : Reads d ts [] d ts :=
  ⟨rfl, [], rfl, fun _ => rfl⟩

/-- Two readings, of which the second one leaves the depth alone or reads a token. -/
theorem trans (h₁ : Reads d₁ ts₁ u d₂ ts₂) (h₂ : Reads d₂ ts₂ v d₃ ts₃) (hv : d₂ = d₃ ∨ v ≠ []) :
    Reads d₁ ts₁ (u ++ v) d₃ ts₃ := by
  obtain ⟨hflat₁, front₁, hraw₁, hlast₁⟩ := h₁
  obtain ⟨hflat₂, front₂, hraw₂, hlast₂⟩ := h₂
  refine ⟨by rw [hflat₁, hflat₂, List.append_assoc], front₁ ++ front₂,
    by rw [hraw₁, hraw₂, List.append_assoc], fun hd => ?_⟩
  rw [List.getLast?_append, List.getLast?_append, hlast₂ hd]
  cases hlast : v.getLast? with
  | some t => rfl
  | none =>
    rcases hv with rfl | hv
    · rw [hlast₁ hd]
    · exact absurd (List.getLast?_eq_none_iff.mp hlast) hv

theorem length_le (h : Reads d ts used d₁ rest) : rest.length ≤ ts.length := by
  obtain ⟨_, front, rfl, _⟩ := h
  simp

/-- What is left counts as what was to come. -/
theorem flatten_rest (h : Reads d ts used d₁ rest) {more : List Token}
    (hflat : flatten d ts = used ++ more) : flatten d₁ rest = more :=
  List.append_cancel_left (h.flat.symm.trans hflat)

theorem ends (h : Reads 0 ts used 0 rest) :
    ∃ front, ts = front ++ rest ∧ front.head? = used.head? ∧ front.getLast? = used.getLast? := by
  obtain ⟨hflat, front, rfl, hlast⟩ := h
  refine ⟨front, rfl, ?_, hlast rfl⟩
  cases front with
  | nil => rw [List.getLast?_eq_none_iff.mp (hlast rfl).symm]
  | cons t front =>
    cases used with
    | nil => simp at hlast
    | cons u used =>
      rw [List.cons_append, flatten_token (by simp)] at hflat
      rw [List.head?_cons, List.head?_cons, (List.cons.inj hflat).1]

theorem excerpt_eq (h : Reads 0 ts used 0 rest) (source : List Char) :
    excerpt source (ts.take (ts.length - rest.length)) = excerpt source used := by
  obtain ⟨front, rfl, hhead, hlast⟩ := h.ends
  have htake : (front ++ rest).take ((front ++ rest).length - rest.length) = front := by simp
  rw [htake, excerpt, excerpt, hhead, hlast]

theorem skip (d : Nat) (ts : List Token) : Reads d ts [] d (Hook.skip (0 < d) ts) := by
  cases d with
  | zero => exact .refl 0 ts
  | succ d =>
    refine ⟨?_, ts.takeWhile (·.tok == .separator), ?_, fun h => by cases h⟩
    · simp only [Hook.skip, Nat.zero_lt_succ, decide_true, if_true, List.nil_append]
      induction ts with
      | nil => rfl
      | cons t ts ih =>
        by_cases ht : t.tok = .separator
        · rw [flatten_separator (Nat.zero_lt_succ d) ht, ih]
          simp [ht]
        · simp [ht]
    · simp [Hook.skip]

theorem head (ht : 0 < d → t.tok ≠ .separator) (rest : List Token) :
    Reads d (t :: rest) [t] (after d t.tok) rest :=
  ⟨flatten_token ht rest, [t], rfl, fun _ => rfl⟩

theorem token (h : Hook.skip (0 < d) ts = t :: rest) : Reads d ts [t] (after d t.tok) rest := by
  have hskip := Reads.skip d ts
  rw [h] at hskip
  refine hskip.trans (.head (fun hd ht => ?_) rest) (.inr (by simp))
  have hcounts := List.head?_dropWhile_not (fun t : Token => t.tok == .separator) ts
  rw [Hook.skip, if_pos (by simpa using hd)] at h
  rw [h] at hcounts
  simp [ht] at hcounts

theorem skip_inside (d : Nat) (ts : List Token) :
    Reads (d + 1) ts [] (d + 1) (Hook.skip true ts) := by
  simpa using Reads.skip (d + 1) ts

theorem token_inside (h : Hook.skip true ts = t :: rest) :
    Reads (d + 1) ts [t] (after (d + 1) t.tok) rest :=
  Reads.token (by simpa using h)

end Reads

theorem length_skip_lt {nested : Bool} {ts rest : List Token} {t : Token}
    (h : skip nested ts = t :: rest) : rest.length < ts.length := by
  have hle : (skip nested ts).length ≤ ts.length := by
    simp only [skip]
    split
    · exact (List.dropWhile_suffix _).length_le
    · exact Nat.le_refl _
  rw [h, List.length_cons] at hle
  omega

theorem flatten_of_skip_nil {d : Nat} {ts : List Token} (h : skip (0 < d) ts = []) :
    flatten d ts = [] := by
  have hflat := (Reads.skip d ts).flat
  rw [h] at hflat
  exact hflat

theorem read_next {d d' : Nat} {ts more : List Token} {t : Token} {x : Tok}
    (h : flatten d ts = t :: more) (ht : t.tok = x) (hd : after d x = d') :
    ∃ rest, skip (0 < d) ts = t :: rest ∧ Reads d ts [t] d' rest ∧ flatten d' rest = more := by
  subst ht hd
  cases hskip : skip (0 < d) ts with
  | nil =>
    rw [flatten_of_skip_nil hskip] at h
    cases h
  | cons t' rest =>
    have htoken := Reads.token hskip
    have hflat := htoken.flat
    rw [h] at hflat
    obtain ⟨rfl, hmore⟩ := List.cons.inj hflat
    exact ⟨rest, rfl, htoken, hmore.symm⟩

theorem head_of_skip {d : Nat} {ts rest : List Token} {t : Token}
    (h : skip (0 < d) ts = t :: rest) : t ∈ (flatten d ts).head? := by
  rw [(Reads.token h).flat]
  rfl

/-! ## Outside of brackets -/

theorem Reads.outside (t : Token) (ts : List Token) (hd : after 0 t.tok = 0) :
    Reads 0 (t :: ts) [t] 0 ts := by
  have hhead := Reads.head (d := 0) (t := t) (fun h => absurd h (Nat.lt_irrefl 0)) ts
  rwa [hd] at hhead

theorem Reads.length_lt {ts used rest : List Token} (h : Reads 0 ts used 0 rest) (hne : used ≠ []) :
    rest.length < ts.length := by
  obtain ⟨_, front, rfl, hlast⟩ := h
  cases front with
  | nil => exact absurd (List.getLast?_eq_none_iff.mp (hlast rfl).symm) hne
  | cons t front =>
    rw [List.length_append, List.length_cons]
    omega

theorem head_flatten (ts : List Token) : (flatten 0 ts).head? = ts.head? := by
  cases ts with
  | nil => rfl
  | cons t ts => rw [flatten_token (fun h => absurd h (Nat.lt_irrefl 0))]; rfl

end RequestFlow.Hook
