import RequestFlow.Proofs.Template.Token
import RequestFlow.Template.Expand

/-!
# RequestFlow.Proofs.Template.Rewriting

Expansion as rewriting. A text is rewritten by replacing one occurrence of one token at a time,
in any order.

* `Replaces`          — one occurrence of a token is replaced by the text bound to its name.
* `Replaces.diamond`  — two replacements in one text do not get in each other's way.
* `Rewrites.remainder` — once a text can be rewritten to one without such tokens, every way of
  rewriting it takes the same number of replacements and leads there.
* `expand_normalizes` — the result of an expansion is what every way of rewriting leads to.
-/

namespace RequestFlow
namespace Template

/-- One occurrence of a token is replaced by the text that its name is bound to. -/
inductive Replaces (vars : Vars) : List Char → List Char → Prop where
  | intro {name : List Char} {value : String} (pre post : List Char) :
      IsName name → vars.get? (String.ofList name) = some (.str value) →
      Replaces vars (pre ++ (tokenText name ++ post)) (pre ++ (value.toList ++ post))

inductive Rewrites (vars : Vars) : Nat → List Char → List Char → Prop where
  | refl (s : List Char) : Rewrites vars 0 s s
  | step {n : Nat} {s t u : List Char} :
      Replaces vars s t → Rewrites vars n t u → Rewrites vars (n + 1) s u

def Irreducible (vars : Vars) (s : List Char) : Prop :=
  ∀ t, ¬ Replaces vars s t

variable {vars : Vars} {r s t u : List Char} {k n : Nat}

theorem Replaces.occurs (h : Replaces vars s t) :
    ∃ name value, Occurs name s ∧ vars.get? (String.ofList name) = some (.str value) := by
  obtain ⟨pre, post, hname, hvalue⟩ := h
  exact ⟨_, _, ⟨hname, pre, post, by simp⟩, hvalue⟩

theorem irreducible_of_unbound
    (hs : ∀ name, Occurs name s → vars.get? (String.ofList name) = none) : Irreducible vars s := by
  intro t ht
  obtain ⟨name, value, ho, hvalue⟩ := ht.occurs
  rw [hs name ho] at hvalue
  cases hvalue

/-! ## Order does not matter -/

theorem replaces_apart {name name' : List Char} {value value' : String} (pre mid post : List Char)
    (hname : IsName name) (hvalue : vars.get? (String.ofList name) = some (.str value))
    (hname' : IsName name') (hvalue' : vars.get? (String.ofList name') = some (.str value')) :
    ∃ v, Replaces vars (pre ++ (value.toList ++ (mid ++ (tokenText name' ++ post)))) v ∧
      Replaces vars (pre ++ (tokenText name ++ mid) ++ (value'.toList ++ post)) v := by
  refine ⟨pre ++ (value.toList ++ (mid ++ (value'.toList ++ post))), ?_, ?_⟩
  · simpa using Replaces.intro (pre ++ (value.toList ++ mid)) post hname' hvalue'
  · simpa using Replaces.intro pre (mid ++ (value'.toList ++ post)) hname hvalue

/-- The tokens of two different replacements stand apart, so neither undoes the other. -/
theorem Replaces.diamond (ht : Replaces vars s t) (hu : Replaces vars s u) :
    t = u ∨ ∃ v, Replaces vars t v ∧ Replaces vars u v := by
  obtain ⟨pre, post, hname, hvalue⟩ := ht
  generalize hs : pre ++ (tokenText _ ++ post) = s at hu
  obtain ⟨pre', post', hname', hvalue'⟩ := hu
  rcases tokens_apart hname hname' hs with ⟨rfl, rfl, rfl⟩ | ⟨mid, rfl, rfl⟩ | ⟨mid, rfl, rfl⟩
  · rw [hvalue] at hvalue'
    cases hvalue'
    exact .inl rfl
  · exact .inr (replaces_apart pre mid post' hname hvalue hname' hvalue')
  · obtain ⟨v, hu, ht⟩ := replaces_apart pre' mid post hname' hvalue' hname hvalue
    exact .inr ⟨v, ht, hu⟩

theorem Rewrites.after_step (h : Rewrites vars n s r) (hr : Irreducible vars r)
    (ht : Replaces vars s t) : ∃ m, n = m + 1 ∧ Rewrites vars m t r := by
  induction h generalizing t with
  | refl s => exact absurd ht (hr t)
  | @step n s s' r hs hrest ih =>
    rcases hs.diamond ht with rfl | ⟨v, hv, htv⟩
    · exact ⟨n, rfl, hrest⟩
    · obtain ⟨m, rfl, hm⟩ := ih hr hv
      exact ⟨m + 1, rfl, .step htv hm⟩

/-- However a text was rewritten so far, what remains is the same number of replacements as on
any other way, and it leads to the same end. -/
theorem Rewrites.remainder (h : Rewrites vars n s r) (hr : Irreducible vars r)
    (ht : Rewrites vars k s t) : ∃ m, n = k + m ∧ Rewrites vars m t r := by
  induction ht generalizing n with
  | refl s => exact ⟨n, by omega, h⟩
  | step hs _ ih =>
    obtain ⟨m, rfl, hm⟩ := h.after_step hr hs
    obtain ⟨m', rfl, hm'⟩ := ih hm
    exact ⟨m', by omega, hm'⟩

/-! ## Passes -/

theorem Rewrites.trans (h : Rewrites vars n s t) (h' : Rewrites vars k t u) :
    ∃ m, Rewrites vars m s u := by
  induction h with
  | refl s => exact ⟨k, h'⟩
  | step hs _ ih =>
    obtain ⟨m, hm⟩ := ih h'
    exact ⟨m + 1, .step hs hm⟩

theorem substitute_rewrites {name : List Char} {value : String}
    (hvalue : vars.get? (String.ofList name) = some (.str value)) (s : List Char) :
    ∀ pre, ∃ n, Rewrites vars n (pre ++ s) (pre ++ substitute name value.toList s) := by
  -- What is done moves into `pre`: a value put in is not looked at again in this pass.
  induction s using scan_induction with
  | nil => exact fun pre => ⟨0, .refl _⟩
  | token name' post hname' ih =>
    intro pre
    by_cases hsame : name' = name
    · subst hsame
      obtain ⟨n, hn⟩ := ih (pre ++ value.toList)
      rw [substitute_token hname']
      rw [List.append_assoc, List.append_assoc] at hn
      exact ⟨n + 1, .step (.intro pre post hname' hvalue) hn⟩
    · obtain ⟨n, hn⟩ := ih (pre ++ tokenText name')
      rw [substitute_token_of_ne hname' hsame]
      exact ⟨n, by simpa using hn⟩
  | char c rest hat ih =>
    intro pre
    obtain ⟨n, hn⟩ := ih (pre ++ [c])
    rw [substitute_other (by simp [hat])]
    exact ⟨n, by simpa using hn⟩

/-- Passes replace tokens until all that are left are unbound, and passed over. -/
theorem expandFrom_rewrites {mode : Mode} {source : String} {passes : Nat} :
    ∀ {skipped : List (List Char)} {text : List Char},
      expandFrom vars mode source passes skipped text = .ok r →
      (∀ name ∈ skipped, vars.get? (String.ofList name) = none ∧ mode = .lenient) →
      (∃ n, Rewrites vars n text r) ∧
        ∀ name, Occurs name r → vars.get? (String.ofList name) = none ∧ mode = .lenient := by
  induction passes with
  | zero => intro skipped text h; cases h
  | succ passes ih =>
    intro skipped text h hskipped
    simp only [expandFrom] at h
    split at h
    · rename_i hnone
      cases h
      refine ⟨⟨0, .refl _⟩, fun name hname => hskipped name ?_⟩
      have := List.find?_eq_none.mp hnone name (mem_tokens.mpr hname)
      simpa using this
    · split at h
      · rename_i name _ hmissing
        split at h
        · cases h
        · exact ih h (List.forall_mem_cons.mpr ⟨⟨hmissing, rfl⟩, hskipped⟩)
      · rename_i name _ value hvalue
        obtain ⟨⟨n, hn⟩, hrest⟩ := ih h hskipped
        obtain ⟨k, hk⟩ := substitute_rewrites hvalue text []
        exact ⟨hk.trans hn, hrest⟩
      · cases h

/-! ## Expansion -/

structure Expansion (vars : Vars) (mode : Mode) (s r : List Char) : Prop where
  /-- No token of a bound name is left. -/
  unbound : ∀ name, Occurs name r → vars.get? (String.ofList name) = none
  strict : mode = .strict → ∀ name, ¬ Occurs name r
  reached : ∃ n, Rewrites vars n s r
  /-- In whatever order tokens are replaced, it comes to an end. -/
  terminates : ∃ bound, ∀ n t, Rewrites vars n s t → n ≤ bound
  /-- In whatever order tokens are replaced, it ends in `r`. -/
  unique : ∀ n t, Rewrites vars n s t → Irreducible vars t → t = r

/-- The result of an expansion does not depend on the order in which tokens are replaced. -/
theorem expand_normalizes {mode : Mode} {s r : String} (h : expand vars mode s = .ok r) :
    Expansion vars mode s.toList r.toList := by
  simp only [expand] at h
  split at h
  · cases h
  · rename_i text htext
    cases h
    rw [String.toList_ofList]
    obtain ⟨⟨n, hn⟩, hleft⟩ := expandFrom_rewrites htext (by simp)
    have hirreducible : Irreducible vars text :=
      irreducible_of_unbound fun name hname => (hleft name hname).1
    refine {
      unbound := fun name hname => (hleft name hname).1
      strict := ?_
      reached := ⟨n, hn⟩
      terminates := ⟨n, fun k t ht => ?_⟩
      unique := fun k t ht hirr => ?_ }
    · rintro rfl name hname
      cases (hleft name hname).2
    · obtain ⟨m, rfl, _⟩ := hn.remainder hirreducible ht
      omega
    · obtain ⟨m, _, hm⟩ := hn.remainder hirreducible ht
      cases hm with
      | refl => rfl
      | step hs _ => exact absurd hs (hirr _)

theorem expand_normalizes_nested :
    expand [("a", .str "1"), ("b", .str "!"), ("x1", .str "${b}${b}")] .lenient "${x${a}}${c}" =
        .ok "!!${c}" ∧
      Expansion [("a", .str "1"), ("b", .str "!"), ("x1", .str "${b}${b}")] .lenient
        "${x${a}}${c}".toList "!!${c}".toList :=
  ⟨rfl, expand_normalizes rfl⟩

end Template
end RequestFlow
