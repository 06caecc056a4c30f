import RequestFlow.Proofs.Template.Scopes

/-!
# RequestFlow.Proofs.Template.Failures

Expansions that fail over a token which no replacement removes.

* `Arises`          — a token stands in a text, or comes up as other tokens are replaced.
* `Arises.survives` — one that cannot be replaced is still there when an expansion succeeds.
* `expand_fails`    — so a token without a string makes expansion fail wherever it comes up, and the
  errors that name a token name one that came up.
-/

namespace RequestFlow
namespace Template

/-- The token of `name` stands in `s`, or in a text that comes of `s` as tokens are replaced. -/
def Arises (vars : Vars) (name s : String) : Prop :=
  ∃ n t, Rewrites vars n s.toList t ∧ Occurs name.toList t

def NoString (vars : Vars) (name : String) : Prop :=
  ∃ v, vars.get? name = some v ∧ ∀ value, v ≠ .str value

variable {vars : Vars} {mode : Mode} {name s r : String} {e : TemplateError}

theorem NoString.ne_str (h : NoString vars name) (value : String) :
    vars.get? name ≠ some (.str value) := by
  obtain ⟨v, hv, hstr⟩ := h
  rw [hv]
  exact fun heq => hstr value (Option.some.inj heq)

/-- The way on which the token came up can be completed to the result, and nothing on it takes the
token away. -/
theorem Arises.survives (h : Arises vars name s)
    (hname : ∀ value, vars.get? name ≠ some (.str value)) (hok : expand vars mode s = .ok r) :
    Occurs name.toList r.toList := by
  obtain ⟨n, t, ht, ho⟩ := h
  obtain ⟨⟨k, hk⟩, hleft⟩ := expand_ok hok
  have hirreducible : Irreducible vars r.toList :=
    irreducible_of_unbound fun name ho => (hleft name ho).1
  obtain ⟨m, _, hm⟩ := hk.remainder hirreducible ht
  refine hm.keeps ?_ ho
  simpa using hname

/-- The token is left over by a result, so it has no value and was passed over. -/
theorem Arises.passed_over (h : Arises vars name s)
    (hname : ∀ value, vars.get? name ≠ some (.str value)) (hok : expand vars mode s = .ok r) :
    vars.get? name = none ∧ mode = .lenient := by
  obtain ⟨_, hleft⟩ := expand_ok hok
  simpa using hleft _ (h.survives hname hok)

theorem error_of_not_ok (h : ∀ r, expand vars mode s ≠ .ok r) :
    ∃ e, expand vars mode s = .error e := by
  cases hexpand : expand vars mode s with
  | ok r => exact absurd hexpand (h r)
  | error e => exact ⟨e, rfl⟩

theorem stuck_of_error (h : expand vars mode s = .error e) (he : e ≠ .expansionLimit s) :
    ∃ n t, Rewrites vars n s.toList t ∧ Stuck vars mode t e := by
  rcases expand_error h with rfl | hstuck
  · exact absurd rfl he
  · exact hstuck

theorem missing_arises (h : expand vars mode s = .error (.missingValue name)) :
    mode = .strict ∧ vars.get? name = none ∧ Arises vars name s := by
  obtain ⟨n, t, ht, hstuck⟩ := stuck_of_error h (by simp)
  cases hstuck with
  | missing ho hnone hmode => exact ⟨hmode, hnone, n, t, ht, by simpa using ho⟩

theorem illTyped_arises {found : String}
    (h : expand vars mode s = .error (.invalidType name found)) :
    NoString vars name ∧ (∀ v, vars.get? name = some v → found = v.kind) ∧ Arises vars name s := by
  obtain ⟨n, t, ht, hstuck⟩ := stuck_of_error h (by simp)
  cases hstuck with
  | illTyped ho hv hstr =>
    refine ⟨⟨_, hv, hstr⟩, fun v hv' => ?_, n, t, ht, by simpa using ho⟩
    rw [hv] at hv'
    cases hv'
    rfl

/-- A token that is bound to no string makes expansion fail, at once or after replacements, in
whatever text it comes up; one that is not bound does so in strict mode. The other way round, an
error over a token names one that came up, and tells what is wrong with its value. -/
theorem expand_fails (vars : Vars) (s : String) :
    (∀ name, Arises vars name s → NoString vars name →
      ∀ mode, ∃ e, expand vars mode s = .error e) ∧
    (∀ name, Arises vars name s → vars.get? name = none →
      ∃ e, expand vars .strict s = .error e) ∧
    (∀ mode name, expand vars mode s = .error (.missingValue name) →
      mode = .strict ∧ vars.get? name = none ∧ Arises vars name s) ∧
    ∀ mode name found, expand vars mode s = .error (.invalidType name found) →
      NoString vars name ∧ (∀ v, vars.get? name = some v → found = v.kind) ∧
        Arises vars name s := by
  refine ⟨fun name h hname mode => ?_, fun name h hname => ?_, fun mode name => missing_arises,
    fun mode name found => illTyped_arises⟩
  · refine error_of_not_ok fun r hok => ?_
    have hnone := (h.passed_over hname.ne_str hok).1
    obtain ⟨v, hv, _⟩ := hname
    rw [hv] at hnone
    cases hnone
  · refine error_of_not_ok fun r hok => ?_
    have hlenient := (h.passed_over (by simp [hname]) hok).2
    cases hlenient

def madeUp : Vars :=
  [("a", .str "n"), ("n", .null)]

theorem expand_fails_madeUp :
    expand madeUp .strict "${x${a}}${${a}}" = .error (.missingValue "xn") ∧
      Arises madeUp "xn" "${x${a}}${${a}}" ∧
      expand madeUp .lenient "${x${a}}${${a}}" = .error (.invalidType "n" "null") ∧
      Arises madeUp "n" "${x${a}}${${a}}" ∧ NoString madeUp "n" ∧
      ∀ mode, ∃ e, expand madeUp mode "${x${a}}${${a}}" = .error e := by
  obtain ⟨hfails, -, hmissing, hillTyped⟩ := expand_fails madeUp "${x${a}}${${a}}"
  obtain ⟨-, -, hx⟩ := hmissing .strict "xn" rfl
  obtain ⟨hstring, -, hn⟩ := hillTyped .lenient "n" "null" rfl
  exact ⟨rfl, hx, rfl, hn, hstring, hfails "n" hn hstring⟩

end Template
end RequestFlow
