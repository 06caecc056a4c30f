import RequestFlow.Proofs.Run.Cancellation

/-!
# RequestFlow.Proofs.Run.Records

That the parts of a leaf's record agree with each other, and with what the leaf did.

* `Stage.kinds`       — the errors for which a leaf can fail at a stage.
* `Answered`          — a leaf has sent one request, and it was answered by a response.
* `Consistent`        — what one part of a record says of the others.
* `record_consistent` — the record of every leaf is consistent, whatever the host does.
-/

namespace RequestFlow

/-- The kinds of the errors for which a leaf can fail at a stage. -/
def Stage.kinds : Stage → List String
  | .pending | .completed => []
  | .beforeHook | .afterHook =>
    ["hook_compile", "hook_runtime", "assertion", "hook_timeout", "cancelled"]
  | .expansion => ["template", "globals_timeout", "cancelled"]
  | .dispatch => ["transport", "cancelled"]

namespace Run

open Hook (Side Site Scene HookError)

/-- From `s` to `s'` the leaf has sent just one request, and the client answered it by
`response`. -/
def Answered (h : Host) (leaf : Leaf) (s s' : State) (response : Response) : Prop :=
  ∃ seen out, s.trace <+: seen ∧ seen ++ [.sent leaf.name out] <+: s'.trace ∧
    sent s'.trace = sent s.trace ++ [out] ∧ h.client seen out = .response response

/-- What the record `r` says of a leaf that was run from `s` and left the run in `s'`. -/
structure Consistent (h : Host) (leaf : Leaf) (s s' : State) (r : Record) : Prop where
  status : r.status = "pass" ↔ r.stage = .completed
  passed : r.stage = .completed ↔ r.error = none
  started : r.stage ≠ .pending
  kinds : ∀ e, r.error = some e → e.kind ∈ r.stage.kinds
  /-- In the hook language whatever does not compile is found before the first hook. -/
  compiled : ∀ w, h.engine = .script w → ∀ e, r.error = some e → e.kind = "hook_compile" →
    r.stage = .beforeHook
  request : r.stage = .expansion ∨ r.stage = .dispatch → leaf.request.isSome = true
  after : r.stage = .afterHook → leaf.after.isEmpty = false
  httpStatus : r.httpStatus.isSome = true ↔
    leaf.request.isSome = true ∧ (r.stage = .afterHook ∨ r.stage = .completed)
  answered : ∀ code, r.httpStatus = some code →
    ∃ response, Answered h leaf s s' response ∧ code = response.status

/-! ## Errors -/

section Errors

variable {h : Host} {leaf : Leaf} {site : Site} {s s' : State} {w w' : Working} {e : LeafError}

theorem kind_hook_mem (e : HookError) :
    (LeafError.hook e).kind ∈ ["hook_compile", "hook_runtime", "assertion", "hook_timeout"] := by
  cases e <;> simp [LeafError.kind]

theorem kind_eq_hook_compile (hk : e.kind = "hook_compile") : ∃ c, e = .hook (.compile c) := by
  cases e with
  | hook e =>
    cases e with
    | compile c => exact ⟨c, rfl⟩
    | runtime _ _ => simp [LeafError.kind] at hk
    | assertion _ => simp [LeafError.kind] at hk
    | timeout _ => simp [LeafError.kind] at hk
  | template _ => simp [LeafError.kind] at hk
  | transport _ => simp [LeafError.kind] at hk
  | globalsTimeout _ => simp [LeafError.kind] at hk
  | cancelled => simp [LeafError.kind] at hk

theorem await_error (h : Host) (s : State) (timeUp : LeafError) :
    (await h s timeUp).2 = .cancelled ∨ (await h s timeUp).2 = timeUp := by
  simp only [await]
  split
  · exact .inl rfl
  · exact .inr rfl

theorem callHook_error {pair : HookPair} {side : Side}
    (hcall : callHook h leaf pair side site s w = (s', w', some e)) :
    e = .cancelled ∨ ∃ he, e = .hook he := by
  have waited (s : State) : (await h s (.hook (.timeout h.hookLimit))).2 = .cancelled ∨
      ∃ he, (await h s (.hook (.timeout h.hookLimit))).2 = .hook he :=
    (await_error h s _).imp_right fun hw => ⟨_, hw⟩
  simp only [callHook] at hcall
  split at hcall
  · cases hcall
    exact .inl rfl
  · split at hcall
    · cases hcall
      exact waited _
    · split at hcall
      · cases hcall
        exact waited _
      · rename_i scene failure _
        cases failure with
        | none => cases hcall
        | some he =>
          cases hcall
          exact .inr ⟨he, rfl⟩

theorem expandWith_error {locals : Vars} {r : Request}
    (hexpand : expandWith h leaf s locals r = (s', .error e)) :
    e = .cancelled ∨ (∃ te, e = .template te) ∨ ∃ ms, e = .globalsTimeout ms := by
  simp only [expandWith] at hexpand
  split at hexpand
  · cases hexpand
    exact .inr (.inl ⟨_, rfl⟩)
  · split at hexpand
    · cases hexpand
      exact .inl rfl
    · split at hexpand
      · cases hexpand
        exact (await_error h s _).imp_right fun hw => .inr ⟨_, hw⟩
      · split at hexpand
        · cases hexpand
          exact .inr (.inl ⟨_, rfl⟩)
        · cases hexpand

theorem dispatch_error {r : Request} (hdispatch : dispatch h leaf s r = (s', .error e)) :
    e = .cancelled ∨ ∃ te, e = .transport te := by
  simp only [dispatch] at hdispatch
  split at hdispatch
  · cases hdispatch
    exact .inr ⟨_, rfl⟩
  · split at hdispatch
    · cases hdispatch
      exact .inl rfl
    · split at hdispatch
      · cases hdispatch
      · cases hdispatch
        exact .inr ⟨_, rfl⟩
      · cases hdispatch
        split
        · exact .inl rfl
        · exact .inr ⟨_, rfl⟩

/-- The kind of an error belongs to the stage at which the leaf comes to its end. -/
theorem Goes.kind_mem {p : Progress} (hg : Goes h leaf site s p) (he : p.error = some e) :
    e.kind ∈ p.stage.kinds := by
  have called {pair side site s w s' w' e}
      (hcall : callHook h leaf pair side site s w = (s', w', some e)) :
      e.kind ∈ ["hook_compile", "hook_runtime", "assertion", "hook_timeout", "cancelled"] := by
    obtain rfl | ⟨he, rfl⟩ := callHook_error hcall
    · simp [LeafError.kind]
    · exact List.mem_append_left ["cancelled"] (kind_hook_mem he)
  cases hg with
  | @uncompiled he' _ _ =>
    cases he
    exact List.mem_append_left ["cancelled"] (kind_hook_mem he')
  | before _ _ hcall =>
    cases he
    exact called hcall
  | expansion _ _ hexpand =>
    cases he
    obtain rfl | ⟨te, rfl⟩ | ⟨ms, rfl⟩ := expandWith_error hexpand <;>
      simp [LeafError.kind, Stage.kinds]
  | dispatch _ _ _ hdispatch =>
    cases he
    obtain rfl | ⟨te, rfl⟩ := dispatch_error hdispatch <;> simp [LeafError.kind, Stage.kinds]
  | after _ _ _ _ hcall =>
    cases he
    exact called hcall
  | afterPassed _ _ _ _ _ => cases he
  | completed _ _ _ => cases he

/-- Once the hooks have compiled, no call of one of them fails for that. -/
theorem Goes.compile_stage {engine : Hook.World} {p : Progress} {c : Hook.CompileError}
    (hengine : h.engine = .script engine) (hg : Goes h leaf site s p)
    (he : p.error = some (.hook (.compile c))) : p.stage = .beforeHook := by
  obtain ⟨hhooks, hc⟩ := hg.compile_error hengine he
  cases hg with
  | uncompiled _ _ => rfl
  | before _ _ _ => rfl
  | expansion _ _ hexpand =>
    cases he
    exact absurd hexpand expandWith_not_hook
  | dispatch _ _ _ hdispatch =>
    cases he
    exact absurd hdispatch dispatch_not_hook
  | after _ _ _ hcompile _ =>
    obtain ⟨hooks, hok, _⟩ := compile_ok hengine hcompile
    rw [hc] at hok
    cases hok
  | afterPassed _ _ _ _ _ => cases he
  | completed _ _ _ => cases he

end Errors

/-! ## The response -/

section Response

variable {h : Host} {leaf : Leaf} {site : Site} {s s₁ s₂ s' : State} {w₁ w₂ : Working}

theorem dispatch_answered {r : Request} {response : Response}
    (hdispatch : dispatch h leaf s r = (s', .ok response)) :
    ∃ out, s' = s.perform h (.sent leaf.name out) ∧ h.client s.trace out = .response response := by
  simp only [dispatch] at hdispatch
  split at hdispatch
  · cases hdispatch
  · split at hdispatch
    · cases hdispatch
    · split at hdispatch
      · rename_i hanswer
        cases hdispatch
        exact ⟨_, rfl, hanswer⟩
      · cases hdispatch
      · cases hdispatch

theorem Prepared.response_none (hp : Prepared h leaf site s s₁ w₁) : w₁.response = none := by
  cases hp with
  | hookless _ => rfl
  | afterOnly _ _ _ => rfl
  | hooked _ _ _ _ _ => rfl

theorem Exchanged.response_isSome (hp : Prepared h leaf site s s₁ w₁)
    (hx : Exchanged h leaf s₁ w₁ s₂ w₂) : w₂.response.isSome = leaf.request.isSome := by
  rw [← hp.request_isSome]
  cases hx with
  | none hnone =>
    rw [hp.response_none, hnone]
    rfl
  | answered hr _ _ => rw [hr, Option.isSome_some, Option.isSome_some]

/-- The response of a leaf answers the one request that it has sent. -/
theorem Exchanged.answered_of (hp : Prepared h leaf site s s₁ w₁)
    (hx : Exchanged h leaf s₁ w₁ s₂ w₂) (hend : Extends h (SilentEffect leaf.name) s₂ s')
    {response : RequestFlow.Response} (hresponse : w₂.response = some response) :
    Answered h leaf s s' response := by
  cases hx with
  | none _ =>
    rw [hp.response_none] at hresponse
    cases hresponse
  | @answered r r' s₂ s₃ _ _ hexpand hdispatch =>
    cases hresponse
    have hsilent := expandWith_extends h leaf s₁ w₁.locals r
    rw [hexpand] at hsilent
    have hbefore := hp.silent.trans hsilent
    obtain ⟨out, rfl, hanswer⟩ := dispatch_answered hdispatch
    refine ⟨s₂.trace, out, hbefore.grows, hend.grows, ?_, hanswer⟩
    calc sent s'.trace = sent (s₂.trace ++ [.sent leaf.name out]) := sent_extends hend
      _ = sent s₂.trace ++ [out] := by simp
      _ = sent s.trace ++ [out] := by rw [sent_extends hbefore]

end Response

/-! ## The record -/

section Record

variable {h : Host} {leaf : Leaf} {site : Site} {s : State} {p : Progress}

theorem Goes.completed_iff (hg : Goes h leaf site s p) : p.stage = .completed ↔ p.error = none := by
  cases hg <;> simp

theorem Goes.not_pending (hg : Goes h leaf site s p) : p.stage ≠ .pending := by
  cases hg <;> simp

theorem Goes.request_isSome (hg : Goes h leaf site s p)
    (hstage : p.stage = .expansion ∨ p.stage = .dispatch) : leaf.request.isSome = true := by
  cases hg with
  | expansion hp hr _ => rw [← hp.request_isSome, hr, Option.isSome_some]
  | dispatch hp hr _ _ => rw [← hp.request_isSome, hr, Option.isSome_some]
  | uncompiled _ _ => simp at hstage
  | before _ _ _ => simp at hstage
  | after _ _ _ _ _ => simp at hstage
  | afterPassed _ _ _ _ _ => simp at hstage
  | completed _ _ _ => simp at hstage

theorem Goes.after_nonempty (hg : Goes h leaf site s p) (hstage : p.stage = .afterHook) :
    leaf.after.isEmpty = false := by
  cases hg with
  | after _ _ ha _ _ => exact ha
  | uncompiled _ _ => cases hstage
  | before _ _ _ => cases hstage
  | expansion _ _ _ => cases hstage
  | dispatch _ _ _ _ => cases hstage
  | afterPassed _ _ _ _ _ => cases hstage
  | completed _ _ _ => cases hstage

/-- A leaf has no status as long as it has not come past its exchange; from then on it has that of
the response, and sends nothing more. -/
theorem Goes.httpStatus_cases (hg : Goes h leaf site s p) :
    (p.httpStatus = none ∧ p.stage ≠ .afterHook ∧ p.stage ≠ .completed) ∨
      ∃ s₁ w₁ s₂ w₂, Prepared h leaf site s s₁ w₁ ∧ Exchanged h leaf s₁ w₁ s₂ w₂ ∧
        Extends h (SilentEffect leaf.name) s₂ p.state ∧
        p.httpStatus = w₂.response.map (·.status) ∧
        (p.stage = .afterHook ∨ p.stage = .completed) := by
  cases hg with
  | uncompiled _ _ => exact .inl (by simp)
  | before _ _ _ => exact .inl (by simp)
  | expansion _ _ _ => exact .inl (by simp)
  | dispatch _ _ _ _ => exact .inl (by simp)
  | @after s₁ s₂ _ w₁ w₂ _ pair _ hp hx _ _ hcall =>
    have hextends := callHook_extends h leaf pair .after (1 :: site) s₂ w₂
    rw [hcall] at hextends
    exact .inr ⟨s₁, w₁, s₂, w₂, hp, hx, hextends, rfl, .inl rfl⟩
  | @afterPassed s₁ s₂ _ w₁ w₂ _ pair hp hx _ _ hcall =>
    have hextends := callHook_extends h leaf pair .after (1 :: site) s₂ w₂
    rw [hcall] at hextends
    exact .inr ⟨s₁, w₁, s₂, w₂, hp, hx, hextends, rfl, .inr rfl⟩
  | @completed s₁ s₂ w₁ w₂ hp hx _ =>
    exact .inr ⟨s₁, w₁, s₂, w₂, hp, hx, .refl h _ s₂, rfl, .inr rfl⟩

theorem Goes.httpStatus_isSome (hg : Goes h leaf site s p) : p.httpStatus.isSome = true ↔
    leaf.request.isSome = true ∧ (p.stage = .afterHook ∨ p.stage = .completed) := by
  obtain ⟨hnone, hafter, hcompleted⟩ | ⟨s₁, w₁, s₂, w₂, hp, hx, _, hstatus, hstage⟩ :=
    hg.httpStatus_cases
  · simp [hnone, hafter, hcompleted]
  · rw [hstatus, Option.isSome_map, hx.response_isSome hp]
    exact (and_iff_left hstage).symm

theorem Goes.httpStatus_eq (hg : Goes h leaf site s p) {code : Nat}
    (hcode : p.httpStatus = some code) :
    ∃ response, Answered h leaf s p.state response ∧ code = response.status := by
  obtain ⟨hnone, _⟩ | ⟨s₁, w₁, s₂, w₂, hp, hx, hend, hstatus, _⟩ := hg.httpStatus_cases
  · rw [hnone] at hcode
    cases hcode
  · rw [hstatus, Option.map_eq_some_iff] at hcode
    obtain ⟨response, hresponse, rfl⟩ := hcode
    exact ⟨response, hx.answered_of hp hend hresponse, rfl⟩

theorem Goes.consistent (hg : Goes h leaf site s p) :
    Consistent h leaf s p.state (p.record leaf) where
  status := by
    rw [show (p.record leaf).stage = p.stage from rfl, hg.completed_iff]
    cases herror : p.error <;> simp [Record.status, Record.passed, Progress.record, herror]
  passed := hg.completed_iff
  started := hg.not_pending
  kinds _ he := hg.kind_mem he
  compiled w hengine e he hk := by
    obtain ⟨c, rfl⟩ := kind_eq_hook_compile hk
    exact hg.compile_stage hengine he
  request := hg.request_isSome
  after := hg.after_nonempty
  httpStatus := hg.httpStatus_isSome
  answered _ hcode := hg.httpStatus_eq hcode

end Record

/-- Whatever the host does, the parts of the record that a leaf gets agree. -/
theorem record_consistent (h : Host) (leaf : Leaf) (site : Site) (s : State) :
    Consistent h leaf s (runLeaf h leaf site s).1 (runLeaf h leaf site s).2 :=
  (goes_execute h leaf site s).consistent

end Run
end RequestFlow
