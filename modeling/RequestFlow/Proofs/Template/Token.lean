import Mathlib.Data.List.Basic
import RequestFlow.Template.Token

/-!
# RequestFlow.Proofs.Template.Token

Where tokens stand in a text.

* `tokenAt?_eq_some` — a token starts a text just if the text starts with it.
* `mem_tokens`       — the scan finds every name whose token occurs anywhere.
* `tokens_apart`     — two tokens in a text are the same one, or one ends before the other.
* `scan_induction`   — a text goes on with a token or with a character that starts none.
* `substitute_token`, `substitute_token_of_ne`, `substitute_other` — how a text is substituted from
  left to right.
-/

namespace RequestFlow
namespace Template

/-- A name that a token can have: not empty and free of braces. -/
structure IsName (name : List Char) : Prop where
  ne_nil : name ≠ []
  free : ∀ c ∈ name, isBrace c = false

def Occurs (name s : List Char) : Prop :=
  IsName name ∧ tokenText name <:+: s

/-! ## Tokens at the start of a text -/

theorem takeName_append {name : List Char} (h : ∀ c ∈ name, isBrace c = false) {b : Char}
    (hb : isBrace b = true) (rest : List Char) :
    takeName (name ++ b :: rest) = (name, b :: rest) := by
  induction name with
  | nil => simp [takeName, hb]
  | cons c name ih =>
    rw [List.forall_mem_cons] at h
    simp [takeName, h.1, ih h.2]

theorem takeName_spec (s : List Char) :
    s = (takeName s).1 ++ (takeName s).2 ∧ ∀ c ∈ (takeName s).1, isBrace c = false := by
  induction s with
  | nil => simp [takeName]
  | cons c s ih =>
    simp only [takeName]
    split
    · simp
    · rename_i hc
      refine ⟨congrArg (c :: ·) ih.1, List.forall_mem_cons.mpr ⟨by simpa using hc, ih.2⟩⟩

theorem tokenAt?_tokenText {name : List Char} (h : IsName name) (post : List Char) :
    tokenAt? (tokenText name ++ post) = some name := by
  have htake := takeName_append h.free (b := '}') rfl post
  cases name with
  | nil => exact absurd rfl h.ne_nil
  | cons c name =>
    simp only [tokenText, List.cons_append, List.append_assoc] at htake ⊢
    simp [tokenAt?, htake]

theorem tokenAt?_eq_some {s name : List Char} :
    tokenAt? s = some name ↔ IsName name ∧ ∃ post, s = tokenText name ++ post := by
  constructor
  · intro h
    unfold tokenAt? at h
    split at h
    · rename_i rest
      obtain ⟨hrest, hfree⟩ := takeName_spec rest
      split at h
      · cases h
      · rename_i name' post hne heq
        cases h
        rw [heq] at hrest hfree
        exact ⟨⟨fun h => hne h, hfree⟩, post, by simp [tokenText, hrest]⟩
      · cases h
    · cases h
  · rintro ⟨hname, post, rfl⟩
    exact tokenAt?_tokenText hname post

theorem tokenAt?_eq_none {s : List Char} :
    tokenAt? s = none ↔ ∀ name post, IsName name → s ≠ tokenText name ++ post := by
  rw [Option.eq_none_iff_forall_ne_some]
  constructor
  · exact fun h name post hname hs => h name (tokenAt?_eq_some.mpr ⟨hname, post, hs⟩)
  · intro h name hat
    obtain ⟨hname, post, hs⟩ := tokenAt?_eq_some.mp hat
    exact h name post hname hs

theorem tokenText_inj {name name' post post' : List Char} (h : IsName name) (h' : IsName name')
    (heq : tokenText name ++ post = tokenText name' ++ post') : name = name' ∧ post = post' := by
  have hat := tokenAt?_tokenText h post
  rw [heq, tokenAt?_tokenText h'] at hat
  cases hat
  exact ⟨rfl, List.append_cancel_left heq⟩

/-! ## Tokens anywhere in a text -/

theorem occurs_cons {name : List Char} {c : Char} {s : List Char} :
    Occurs name (c :: s) ↔ tokenAt? (c :: s) = some name ∨ Occurs name s := by
  rw [tokenAt?_eq_some]
  simp only [Occurs, List.infix_cons_iff, List.IsPrefix, and_or_left]
  simp only [eq_comm]

theorem not_occurs_nil (name : List Char) : ¬ Occurs name [] := by
  rintro ⟨_, h⟩
  have := List.infix_nil.mp h
  simp [tokenText] at this

/-- A scan over all places of a text finds the tokens that occur in it. -/
theorem mem_tokens {name s : List Char} : name ∈ tokens s ↔ Occurs name s := by
  induction s with
  | nil => simp [tokens, not_occurs_nil]
  | cons c s ih =>
    rw [occurs_cons, ← ih]
    simp only [tokens]
    split
    · rename_i name' heq
      rw [heq, List.mem_cons, Option.some.injEq, eq_comm]
    · rename_i heq
      simp [heq]

/-- No token starts inside another: its brace would be part of the other one's name. -/
theorem not_starts_inside {name k m : List Char} (h : IsName name)
    (heq : tokenText name = m ++ k) (hm : m ≠ []) (hk : k ≠ []) {rest rest' : List Char}
    (hstart : k ++ rest = '$' :: '{' :: rest') : False := by
  cases k with
  | nil => exact hk rfl
  | cons c k =>
    obtain rfl := (List.cons.inj hstart).1
    -- The `$` stands in the name, since the token's own is in `m`.
    have hname : ∃ m', name ++ ['}'] = m' ++ '$' :: k := by
      match m, hm with
      | [c], _ => simp [tokenText] at heq
      | c :: c' :: m', _ =>
        simp only [tokenText, List.cons_append, List.cons.injEq] at heq
        exact ⟨m', heq.2.2⟩
    obtain ⟨m', hname⟩ := hname
    cases k with
    | nil =>
      have := congrArg List.getLast? hname
      simp at this
    | cons c k =>
      obtain rfl : c = '{' := (List.cons.inj (List.cons.inj hstart).2).1
      have hmem : '{' ∈ name ++ ['}'] := by simp [hname]
      have hfree := h.free '{' (by simpa using hmem)
      simp [isBrace] at hfree

theorem not_tokenAt?_within {name m k : List Char} (hname : IsName name) (hm : m ≠ [])
    (hk : k ≠ []) (h : tokenText name = m ++ k) (rest : List Char) :
    tokenAt? (k ++ rest) = none :=
  tokenAt?_eq_none.mpr fun _ _ _ hstart => not_starts_inside hname h hm hk hstart

/-- Of two tokens in a text, the one that starts later starts after the end of the other. -/
theorem starts_after {name name' post post' m : List Char} (h : IsName name) (h' : IsName name')
    (heq : tokenText name ++ post = m ++ (tokenText name' ++ post')) :
    (m = [] ∧ name = name' ∧ post = post') ∨
      ∃ mid, m = tokenText name ++ mid ∧ post = mid ++ (tokenText name' ++ post') := by
  by_cases hm : m = []
  · subst hm
    exact .inl ⟨rfl, tokenText_inj h h' heq⟩
  · rcases List.append_eq_append_iff.mp heq with ⟨mid, hmid, hpost⟩ | ⟨k, htoken, hk⟩
    · exact .inr ⟨mid, hmid, hpost⟩
    · by_cases hnil : k = []
      · subst hnil
        exact .inr ⟨[], by simpa using htoken.symm, by simpa using hk.symm⟩
      · exact absurd hk.symm fun hstart => not_starts_inside h htoken hm hnil hstart

theorem tokens_apart {pre pre' name name' post post' : List Char} (h : IsName name)
    (h' : IsName name')
    (heq : pre ++ (tokenText name ++ post) = pre' ++ (tokenText name' ++ post')) :
    (pre = pre' ∧ name = name' ∧ post = post') ∨
      (∃ mid, pre' = pre ++ (tokenText name ++ mid) ∧ post = mid ++ (tokenText name' ++ post')) ∨
      ∃ mid, pre = pre' ++ (tokenText name' ++ mid) ∧ post' = mid ++ (tokenText name ++ post) := by
  rcases List.append_eq_append_iff.mp heq with ⟨m, rfl, hm⟩ | ⟨m, rfl, hm⟩
  · rcases starts_after h h' hm with ⟨rfl, rfl, rfl⟩ | ⟨mid, rfl, rfl⟩
    · exact .inl ⟨by simp, rfl, rfl⟩
    · exact .inr (.inl ⟨mid, rfl, rfl⟩)
  · rcases starts_after h' h hm with ⟨rfl, rfl, rfl⟩ | ⟨mid, rfl, rfl⟩
    · exact .inl ⟨by simp, rfl, rfl⟩
    · exact .inr (.inr ⟨mid, rfl, rfl⟩)

/-! ## Scans -/

/-- A text is scanned token by token and, where none starts, character by character. -/
@[elab_as_elim]
theorem scan_induction {motive : List Char → Prop} (nil : motive [])
    (token : ∀ name post, IsName name → motive post → motive (tokenText name ++ post))
    (char : ∀ c rest, tokenAt? (c :: rest) = none → motive rest → motive (c :: rest))
    (s : List Char) : motive s := by
  induction hlen : s.length using Nat.strongRecOn generalizing s with
  | ind len ih =>
    cases s with
    | nil => exact nil
    | cons c rest =>
      cases hat : tokenAt? (c :: rest) with
      | none => exact char c rest hat (ih rest.length (by simp [← hlen]) rest rfl)
      | some name =>
        obtain ⟨hname, post, hpost⟩ := tokenAt?_eq_some.mp hat
        have hshorter : post.length < len := by
          rw [← hlen, hpost]
          simp only [tokenText, List.length_append, List.length_cons]
          omega
        rw [hpost]
        exact token name post hname (ih _ hshorter post rfl)

theorem tokens_append {k rest : List Char}
    (h : ∀ i j, k = i ++ j → j ≠ [] → tokenAt? (j ++ rest) = none) :
    tokens (k ++ rest) = tokens rest := by
  induction k with
  | nil => rfl
  | cons c k ih =>
    have hat : tokenAt? (c :: (k ++ rest)) = none := h [] (c :: k) rfl (by simp)
    rw [List.cons_append, tokens, hat]
    exact ih fun i j hk => h (c :: i) j (by rw [hk, List.cons_append])

theorem tokens_token {name : List Char} (hname : IsName name) (rest : List Char) :
    tokens (tokenText name ++ rest) = name :: tokens rest := by
  have hat := tokenAt?_tokenText hname rest
  have hinside : tokens (('{' :: (name ++ ['}'])) ++ rest) = tokens rest :=
    tokens_append fun i j hij hj =>
      not_tokenAt?_within hname (m := '$' :: i) (by simp) hj (by simp [tokenText, ← hij]) rest
  rw [show tokenText name ++ rest = '$' :: (('{' :: (name ++ ['}'])) ++ rest) by
    simp [tokenText]] at hat ⊢
  rw [tokens, hat, hinside]

/-! ## Substitution -/

theorem substituteAfter_skip (name value s rest : List Char) :
    substituteAfter name value s.length (s ++ rest) = substitute name value rest := by
  induction s with
  | nil => rfl
  | cons c s ih => exact ih

theorem substitute_token {name : List Char} (h : IsName name) (value post : List Char) :
    substitute name value (tokenText name ++ post) = value ++ substitute name value post := by
  have hat := tokenAt?_tokenText h post
  have hskip := substituteAfter_skip name value ('{' :: (name ++ ['}'])) post
  simp only [tokenText, List.cons_append] at hat hskip ⊢
  rw [substitute, substituteAfter, if_pos hat, ← hskip]
  simp

theorem substitute_other {name s : List Char} {c : Char} (h : tokenAt? (c :: s) ≠ some name)
    (value : List Char) :
    substitute name value (c :: s) = c :: substitute name value s := by
  rw [substitute, substituteAfter, if_neg h, substitute]

theorem substitute_append {name k rest : List Char} (value : List Char)
    (h : ∀ i j, k = i ++ j → j ≠ [] → tokenAt? (j ++ rest) ≠ some name) :
    substitute name value (k ++ rest) = k ++ substitute name value rest := by
  induction k with
  | nil => rfl
  | cons c k ih =>
    have hat : tokenAt? (c :: (k ++ rest)) ≠ some name := h [] (c :: k) rfl (by simp)
    rw [List.cons_append, substitute_other hat, ih, List.cons_append]
    exact fun i j hk => h (c :: i) j (by rw [hk, List.cons_append])

theorem substitute_token_of_ne {name name' : List Char} (hname' : IsName name')
    (hne : name' ≠ name) (value rest : List Char) :
    substitute name value (tokenText name' ++ rest) =
      tokenText name' ++ substitute name value rest := by
  refine substitute_append value fun i j hij hj => ?_
  cases i with
  | nil =>
    obtain rfl : tokenText name' = j := hij
    rw [tokenAt?_tokenText hname']
    simpa using hne
  | cons c i =>
    rw [not_tokenAt?_within hname' (by simp) hj hij]
    simp

end Template
end RequestFlow
