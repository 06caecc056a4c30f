import RequestFlow.Proofs.Template.Rewriting

/-!
# RequestFlow.Proofs.Template.Scopes

Expansion in two phases, leniently with one scope and then strictly with another, compared with
one expansion with the bindings of both.

* `Dict.union`       — the bindings of two scopes.
* `Rewrites.keeps`   — a token that is not bound to a string survives every way of rewriting.
* `Stuck`            — a text on which an expansion fails: `expandFrom_error` says that one can be
  rewritten to such a text, unless the passes are used up.
* `expand_two_scopes` — one expansion comes to the same text as the two phases, or uses up its
  passes.
-/

namespace RequestFlow

namespace Dict

variable {α : Type}

/-- The bindings of both, those of the first before those of the second. -/
def union (d e : Dict α) : Dict α :=
  d.foldr (fun x rest => insert rest x.1 x.2) e

theorem get?_union (d e : Dict α) (name : String) :
    (d.union e).get? name = (d.get? name).or (e.get? name) := by
  induction d with
  | nil => rfl
  | cons x d ih =>
    obtain ⟨k, v⟩ := x
    show (insert (union d e) k v).get? name = _
    rw [get?_insert, get?_cons, ih]
    by_cases hk : k = name <;> simp [hk]

end Dict

namespace Template

variable {vars vars' : Vars} {name s t r : List Char} {n : Nat}

theorem irreducible_of_no_tokens (hs : ∀ name, ¬ Occurs name s) : Irreducible vars s :=
  irreducible_of_unbound fun name ho => absurd ho (hs name)

theorem Rewrites.eq_of_irreducible (h : Rewrites vars n s t) (hs : Irreducible vars s) : s = t := by
  cases h with
  | refl => rfl
  | step hstep _ => exact absurd hstep (hs _)

/-! ## Larger scopes -/

/-- Every string of the first scope is bound in the same way in the second. -/
def Embeds (vars vars' : Vars) : Prop :=
  ∀ name value, vars.get? name = some (.str value) → vars'.get? name = some (.str value)

theorem Replaces.embed (h : Replaces vars s t) (hv : Embeds vars vars') : Replaces vars' s t := by
  obtain ⟨pre, post, hname, hvalue⟩ := h
  exact .intro pre post hname (hv _ _ hvalue)

theorem Rewrites.embed (h : Rewrites vars n s t) (hv : Embeds vars vars') :
    Rewrites vars' n s t := by
  induction h with
  | refl s => exact .refl s
  | step hs _ ih => exact .step (hs.embed hv) ih

/-! ## Tokens that stay -/

theorem Replaces.keeps (h : Replaces vars s t)
    (hname : ∀ value, vars.get? (String.ofList name) ≠ some (.str value)) (ho : Occurs name s) :
    Occurs name t := by
  obtain @⟨_, value, pre, post, hreplaced, hvalue⟩ := h
  obtain ⟨hkept, pre', post', heq⟩ := ho
  rw [List.append_assoc] at heq
  rcases tokens_apart hreplaced hkept heq.symm with ⟨_, rfl, _⟩ | ⟨mid, _, rfl⟩ | ⟨mid, rfl, _⟩
  · exact absurd hvalue (hname value)
  · exact ⟨hkept, pre ++ (value.toList ++ mid), post', by simp⟩
  · exact ⟨hkept, pre', mid ++ (value.toList ++ post), by simp⟩

theorem Rewrites.keeps (h : Rewrites vars n s t)
    (hname : ∀ value, vars.get? (String.ofList name) ≠ some (.str value)) (ho : Occurs name s) :
    Occurs name t := by
  induction h with
  | refl s => exact ho
  | step hs _ ih => exact ih (hs.keeps hname ho)

/-! ## Failures -/

/-- A text at which an expansion fails, and how: it holds a token that cannot be replaced. -/
inductive Stuck (vars : Vars) (mode : Mode) (t : List Char) : TemplateError → Prop where
  | missing {name : List Char} : Occurs name t → vars.get? (String.ofList name) = none →
      mode = .strict → Stuck vars mode t (.missingValue (String.ofList name))
  | illTyped {name : List Char} {v : Json} : Occurs name t →
      vars.get? (String.ofList name) = some v → (∀ value, v ≠ .str value) →
      Stuck vars mode t (.invalidType (String.ofList name) v.kind)

theorem Stuck.occurs {mode : Mode} {e : TemplateError} (h : Stuck vars mode t e) :
    ∃ name, Occurs name t ∧ ∀ value, vars.get? (String.ofList name) ≠ some (.str value) := by
  cases h with
  | missing ho hnone _ => exact ⟨_, ho, fun value hv => by rw [hnone] at hv; cases hv⟩
  | illTyped ho hv hstr => exact ⟨_, ho, fun value h => hstr value (Option.some.inj (hv ▸ h))⟩

/-- An expansion fails at a text that its replacements led to, or for want of passes. -/
theorem expandFrom_error {mode : Mode} {source : String} {e : TemplateError} {passes : Nat} :
    ∀ {skipped : List (List Char)} {text : List Char},
      expandFrom vars mode source passes skipped text = .error e →
      e = .expansionLimit source ∨ ∃ n t, Rewrites vars n text t ∧ Stuck vars mode t e := by
  induction passes with
  | zero =>
    intro skipped text h
    cases h
    exact .inl rfl
  | succ passes ih =>
    intro skipped text h
    simp only [expandFrom] at h
    split at h
    · cases h
    · rename_i name hfirst
      have ho : Occurs name text := mem_tokens.mp (List.mem_of_find?_eq_some hfirst)
      split at h
      · rename_i hmissing
        split at h
        · cases h
          exact .inr ⟨0, text, .refl _, .missing ho hmissing rfl⟩
        · exact ih h
      · rename_i value hvalue
        rcases ih h with rfl | ⟨k, t, hk, hstuck⟩
        · exact .inl rfl
        · obtain ⟨n, hn⟩ := substitute_rewrites hvalue text []
          obtain ⟨m, hm⟩ := Rewrites.trans hn hk
          exact .inr ⟨m, t, hm, hstuck⟩
      · rename_i v hother hv
        cases h
        exact .inr ⟨0, text, .refl _, .illTyped ho hv fun value h => hother value h⟩

theorem expand_ok {mode : Mode} {s r : String} (h : expand vars mode s = .ok r) :
    (∃ n, Rewrites vars n s.toList r.toList) ∧
      ∀ name, Occurs name r.toList → vars.get? (String.ofList name) = none ∧ mode = .lenient := by
  simp only [expand] at h
  split at h
  · cases h
  · rename_i text htext
    cases h
    rw [String.toList_ofList]
    exact expandFrom_rewrites htext (by simp)

theorem expand_error {mode : Mode} {s : String} {e : TemplateError}
    (h : expand vars mode s = .error e) :
    e = .expansionLimit s ∨ ∃ n t, Rewrites vars n s.toList t ∧ Stuck vars mode t e := by
  simp only [expand] at h
  split at h
  · rename_i htext
    cases h
    exact expandFrom_error htext
  · cases h

/-- A text without tokens that can be reached is what every strict expansion comes to, if its
passes suffice. -/
theorem expand_strict_of_rewrites {s r : String} (h : Rewrites vars n s.toList r.toList)
    (hr : ∀ name, ¬ Occurs name r.toList) :
    expand vars .strict s = .ok r ∨ expand vars .strict s = .error (.expansionLimit s) := by
  have hirreducible : Irreducible vars r.toList := irreducible_of_no_tokens hr
  cases hexpand : expand vars .strict s with
  | ok r' =>
    obtain ⟨⟨k, hk⟩, hleft⟩ := expand_ok hexpand
    obtain ⟨m, _, hm⟩ := h.remainder hirreducible hk
    have hdone : Irreducible vars r'.toList :=
      irreducible_of_no_tokens fun name ho => by cases (hleft name ho).2
    exact .inl (by rw [String.toList_inj.mp (hm.eq_of_irreducible hdone)])
  | error e =>
    rcases expand_error hexpand with rfl | ⟨k, t, hk, hstuck⟩
    · exact .inr rfl
    · -- The token that cannot be replaced would still be there in `r`.
      obtain ⟨name, ho, hname⟩ := hstuck.occurs
      obtain ⟨m, _, hm⟩ := h.remainder hirreducible hk
      exact absurd (hm.keeps hname ho) (hr name)

/-! ## Two scopes -/

/-- Expansion with one scope and then with another comes to the same text as one expansion with
both, which cannot fail but for want of passes. -/
theorem expand_two_scopes {locals globals : Vars} {s r₁ r : String}
    (hdisjoint : ∀ name, locals.get? name = none ∨ globals.get? name = none)
    (hlocals : expand locals .lenient s = .ok r₁) (hglobals : expand globals .strict r₁ = .ok r) :
    expand (locals.union globals) .strict s = .ok r ∨
      expand (locals.union globals) .strict s = .error (.expansionLimit s) := by
  have hfirst : Embeds locals (locals.union globals) := by
    intro name value hv
    rw [Dict.get?_union, hv]
    rfl
  have hsecond : Embeds globals (locals.union globals) := by
    intro name value hv
    rcases hdisjoint name with hnone | hnone
    · rw [Dict.get?_union, hnone, hv]
      rfl
    · rw [hnone] at hv
      cases hv
  obtain ⟨⟨n, hn⟩, _⟩ := expand_ok hlocals
  obtain ⟨⟨k, hk⟩, hleft⟩ := expand_ok hglobals
  obtain ⟨m, hm⟩ := (hn.embed hfirst).trans (hk.embed hsecond)
  exact expand_strict_of_rewrites hm fun name ho => by cases (hleft name ho).2

theorem expand_two_scopes_nested :
    expand [("host", .str "h${port}"), ("p", .str "q")] .lenient "${scheme}://${host}/${p}" =
        .ok "${scheme}://h${port}/q" ∧
      expand [("port", .str ":${n}"), ("n", .str "80"), ("scheme", .str "http")] .strict
        "${scheme}://h${port}/q" = .ok "http://h:80/q" ∧
      (expand (Dict.union [("host", .str "h${port}"), ("p", .str "q")]
          [("port", .str ":${n}"), ("n", .str "80"), ("scheme", .str "http")]) .strict
          "${scheme}://${host}/${p}" = .ok "http://h:80/q" ∨
        expand (Dict.union [("host", .str "h${port}"), ("p", .str "q")]
          [("port", .str ":${n}"), ("n", .str "80"), ("scheme", .str "http")]) .strict
          "${scheme}://${host}/${p}" = .error (.expansionLimit "${scheme}://${host}/${p}")) := by
  refine ⟨rfl, rfl, expand_two_scopes (fun name => ?_) rfl rfl⟩
  by_cases hname : name = "host" ∨ name = "p"
  · right
    rcases hname with rfl | rfl <;> rfl
  · left
    simp only [not_or] at hname
    simp [Dict.get?_cons, Ne.symm hname.1, Ne.symm hname.2]

end Template
end RequestFlow
