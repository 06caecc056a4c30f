import Mathlib.Data.List.Perm.Subperm
import RequestFlow.Proofs.Template.Scopes

/-!
# RequestFlow.Proofs.Template.Modes

The two modes of expansion compared, and expansion of what was expanded before.

* `expandFrom_strict_iff` — as long as no token is passed over, the modes go the same way; one that
  is passed over is still there at the end.
* `expandFrom_leaves`     — an expansion that succeeds leaves tokens of fewer names than it had
  passes.
* `expandFrom_settled`    — a second expansion only passes over these, so its passes suffice.
* `expand_modes`          — the strict results are the lenient ones without tokens, and in each mode
  a result expands to itself.
-/

namespace RequestFlow
namespace Template

variable {vars : Vars} {mode : Mode} {source : String} {passes : Nat} {r : List Char}

theorem containsTokens_eq_false {s : String} :
    containsTokens s = false ↔ ∀ name, ¬ Occurs name s.toList := by
  simp only [containsTokens, Bool.not_eq_eq_eq_not, Bool.not_false, List.isEmpty_iff,
    List.eq_nil_iff_forall_not_mem, mem_tokens]

theorem expand_eq_ok {s r : String} :
    expand vars mode s = .ok r ↔
      expandFrom vars mode s passLimit [] s.toList = .ok r.toList := by
  simp only [expand]
  split
  · rename_i heq
    simp [heq]
  · rename_i text heq
    rw [heq, Except.ok.injEq, Except.ok.injEq]
    constructor
    · rintro rfl
      rw [String.toList_ofList]
    · rintro rfl
      rw [String.ofList_toList]

/-! ## Two modes -/

theorem expandFrom_strict_iff :
    ∀ {text : List Char}, expandFrom vars .strict source passes [] text = .ok r ↔
      expandFrom vars .lenient source passes [] text = .ok r ∧ ∀ name, ¬ Occurs name r := by
  induction passes with
  | zero => intro text; simp [expandFrom]
  | succ passes ih =>
    intro text
    simp only [expandFrom]
    cases hfirst : (tokens text).find? (!List.contains [] ·) with
    | none =>
      simp only
      have hnone : ∀ name, ¬ Occurs name text := fun name ho => by
        simpa using List.find?_eq_none.mp hfirst name (mem_tokens.mpr ho)
      constructor
      · rintro ⟨⟩
        exact ⟨rfl, hnone⟩
      · exact fun h => h.1
    | some name =>
      have ho : Occurs name text := mem_tokens.mp (List.mem_of_find?_eq_some hfirst)
      cases hvalue : vars.get? (String.ofList name) with
      | none =>
        -- The token that strict mode refuses is passed over in lenient mode, and stays.
        simp only [hvalue]
        constructor
        · intro h
          cases h
        · rintro ⟨h, hnone⟩
          obtain ⟨⟨n, hn⟩, _⟩ := expandFrom_rewrites h (by simp [hvalue])
          exact absurd (hn.keeps (by simp [hvalue]) ho) (hnone name)
      | some v =>
        cases v with
        | str value =>
          simp only [hvalue]
          exact ih
        | _ => simp [hvalue]

/-! ## Twice -/

theorem expandFrom_leaves :
    ∀ {skipped : List (List Char)} {text : List Char},
      expandFrom vars mode source passes skipped text = .ok r →
      ∃ names : List (List Char), (∀ name, Occurs name r → name ∈ names) ∧
        names.length < passes + skipped.length := by
  induction passes with
  | zero => intro skipped text h; cases h
  | succ passes ih =>
    intro skipped text h
    simp only [expandFrom] at h
    split at h
    · rename_i hfirst
      cases h
      refine ⟨skipped, fun name ho => ?_, by omega⟩
      simpa using List.find?_eq_none.mp hfirst name (mem_tokens.mpr ho)
    · split at h
      · split at h
        · cases h
        · obtain ⟨names, hnames, hlt⟩ := ih h
          rw [List.length_cons] at hlt
          exact ⟨names, hnames, by omega⟩
      · obtain ⟨names, hnames, hlt⟩ := ih h
        exact ⟨names, hnames, by omega⟩
      · cases h

/-- Tokens without a value are passed over, each name once. -/
theorem expandFrom_settled {names : List (List Char)}
    (hleft : ∀ name, Occurs name r → vars.get? (String.ofList name) = none ∧ mode = .lenient)
    (hnames : ∀ name, Occurs name r → name ∈ names) :
    ∀ {skipped : List (List Char)}, skipped.Nodup → skipped ⊆ names →
      names.length < passes + skipped.length →
      expandFrom vars mode source passes skipped r = .ok r := by
  induction passes with
  | zero =>
    intro skipped hnodup hsub hlt
    have := (hnodup.subperm hsub).length_le
    omega
  | succ passes ih =>
    intro skipped hnodup hsub hlt
    simp only [expandFrom]
    cases hfirst : (tokens r).find? (!skipped.contains ·) with
    | none => rfl
    | some name =>
      have ho : Occurs name r := mem_tokens.mp (List.mem_of_find?_eq_some hfirst)
      have hnew : name ∉ skipped := by simpa using List.find?_some hfirst
      obtain ⟨hmissing, rfl⟩ := hleft name ho
      simp only [hmissing]
      refine ih (List.nodup_cons.mpr ⟨hnew, hnodup⟩) (List.cons_subset.mpr ⟨hnames name ho, hsub⟩) ?_
      rw [List.length_cons]
      omega

/-- Strict expansion is lenient expansion that leaves no token, and expansion of a result, in the
mode in which it was reached, changes nothing. -/
theorem expand_modes (vars : Vars) (s r : String) :
    (expand vars .strict s = .ok r ↔
      expand vars .lenient s = .ok r ∧ containsTokens r = false) ∧
      ∀ mode, expand vars mode s = .ok r → expand vars mode r = .ok r := by
  constructor
  · rw [containsTokens_eq_false, expand_eq_ok, expand_eq_ok]
    exact expandFrom_strict_iff
  · intro mode h
    obtain ⟨_, hleft⟩ := expand_ok h
    obtain ⟨names, hnames, hlt⟩ := expandFrom_leaves (expand_eq_ok.mp h)
    exact expand_eq_ok.mpr (expandFrom_settled hleft hnames List.nodup_nil (by simp) hlt)

theorem expand_modes_leftover :
    expand [("a", .str "1")] .lenient "${x${a}}${c}${c}" = .ok "${x1}${c}${c}" ∧
      expand [("a", .str "1")] .lenient "${x1}${c}${c}" = .ok "${x1}${c}${c}" ∧
      expand [("a", .str "1")] .strict "${x${a}}${c}${c}" ≠ .ok "${x1}${c}${c}" := by
  have h := expand_modes [("a", .str "1")] "${x${a}}${c}${c}" "${x1}${c}${c}"
  refine ⟨rfl, h.2 .lenient rfl, fun hs => ?_⟩
  have : containsTokens "${x1}${c}${c}" = false := (h.1.mp hs).2
  exact absurd this (by decide)

end Template
end RequestFlow
