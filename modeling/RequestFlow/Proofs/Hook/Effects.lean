import RequestFlow.Hook.Program

/-!
# RequestFlow.Proofs.Hook.Effects

What a hook does to its scene. Here statements work on the scene in place, one change after the
other, so that a failure leaves behind whatever was changed before it.

* `Work`                 — work in place, a failure of which undoes nothing.
* `Statement.perform`    — a statement in place: what can fail comes before the first change.
* `Statement.perform_eq` — so a statement that fails leaves the scene as it was.
* `Action.Differ`        — what may have changed after a statement.
* `run_effects`          — a run that fails leaves the scene that the statements before the failure
  led to.
-/

namespace RequestFlow

namespace Hook

/-! ## Work in place -/

/-- Work on the scene itself. What was changed before a failure stays changed. -/
abbrev Work (ε α : Type) := EStateM ε Scene α

def look {ε α : Type} (f : Scene → Except ε α) : Work ε α := fun s =>
  match f s with
  | .error e => .error e s
  | .ok a => .ok a s

def requestOf (s : Scene) : Except EvalError Request :=
  match s.request with
  | none => .error .noRequest
  | some r => .ok r

def alter {ε : Type} (f : Request → Request) : Work ε Unit :=
  modify fun s => { s with request := s.request.map f }

/-- A change of the request by a value, which has to be a string. -/
def alterText (field : String) (v : Json) (change : String → Request → Request) :
    Work EvalError Unit :=
  match v with
  | .str text => alter (change text)
  | v => throw (.fieldNotString field v.kind)

def performAssign (w : World) (site : Site) (target : Target) (v : Json) : Work EvalError Unit :=
  match target with
  | .var scope key => do
    let name ← look (nameAt w · site key)
    modify (·.setVariable scope name v)
  | .field .method => do
    let _ ← look requestOf
    alterText "method" v fun text r => { r with method := text }
  | .field .url => do
    let _ ← look requestOf
    alterText "url" v fun text r => { r with url := text }
  | .field .body => do
    let _ ← look requestOf
    alter fun r => { r with body := bodyOf v }
  | .header key => do
    let name ← look (nameAt w · site key)
    let _ ← look requestOf
    -- In between, the request has the header under no spelling.
    alter fun r => unsetHeader r name
    alter fun r => { r with headers := r.headers.insert name v.display }

def performUnset (w : World) (site : Site) (target : Target) : Work EvalError Unit :=
  match target with
  | .var scope key => do
    let name ← look (nameAt w · site key)
    modify (·.unsetVariable scope name)
  | .field .body => do
    let _ ← look requestOf
    alter fun r => { r with body := [] }
  | .field _ => throw .cannotUnset
  | .header key => do
    let name ← look (nameAt w · site key)
    let _ ← look requestOf
    alter fun r => unsetHeader r name

def onLine {α : Type} (line : Nat) (work : Work EvalError α) : Work HookError α :=
  EStateM.adaptExcept (.runtime line) work

def Statement.perform (w : World) (site : Site) (st : Statement) : Work HookError Unit :=
  match st.action with
  | .assign target value => do
    let v ← onLine st.line (look (value.eval w · (0 :: site)))
    onLine st.line (performAssign w (1 :: site) target v)
  | .unset target => onLine st.line (performUnset w (1 :: site) target)
  | .assert condition message source => do
    let v ← onLine st.line (look (condition.eval w · (0 :: site)))
    if v.truthy then return
    let text ← onLine st.line (look (assertionText w · site message source))
    throw (.assertion text)
  | .fail message => do
    let v ← onLine st.line (look (message.eval w · (0 :: site)))
    throw (.assertion v.display)

def performFrom (w : World) (site : Site) : Nat → List Statement → Work HookError Unit
  | _, [] => return
  | i, st :: rest => do
    st.perform w (i :: site)
    performFrom w site (i + 1) rest

/-! ## A statement that fails changes nothing -/

/-- The end of a statement that leads to another scene; without one, the scene stays as it is. -/
def land {ε : Type} (s : Scene) : Except ε Scene → EStateM.Result ε Scene Unit
  | .error e => .error e s
  | .ok s' => .ok () s'

section

variable {w : World} {site : Site} {s s' : Scene}

section Work

variable {ε α β : Type} {f : Scene → Except ε α} {k : α → Work ε β}

theorem run_look_error {e : ε} (h : f s = .error e) : (look f >>= k).run s = .error e s := by
  rw [EStateM.run_bind, EStateM.run, look, h]

theorem run_look_ok {a : α} (h : f s = .ok a) : (look f >>= k).run s = (k a).run s := by
  rw [EStateM.run_bind, EStateM.run, look, h]

theorem run_alter {r : Request} (g : Request → Request) (hr : s.request = some r) :
    (alter g : Work ε Unit).run s = .ok () { s with request := some (g r) } := by
  change EStateM.Result.ok () { s with request := s.request.map g } = _
  rw [hr, Option.map_some]

end Work

section Line

variable {α : Type} {line : Nat} {f : Scene → Except EvalError α} {k : α → Work HookError Unit}

theorem run_onLine_error {e : EvalError} (h : f s = .error e) :
    (onLine line (look f) >>= k).run s = .error (.runtime line e) s := by
  rw [EStateM.run_bind, onLine, EStateM.run_adaptExcept, EStateM.run, look, h]

theorem run_onLine_ok {a : α} (h : f s = .ok a) :
    (onLine line (look f) >>= k).run s = (k a).run s := by
  rw [EStateM.run_bind, onLine, EStateM.run_adaptExcept, EStateM.run, look, h]

end Line

theorem run_onLine {line : Nat} {work : Work EvalError Unit} {r : Except EvalError Scene}
    (h : work.run s = land s r) : (onLine line work).run s = land s (valueOn line r) := by
  rw [onLine, EStateM.run_adaptExcept, h]
  cases r <;> rfl

theorem run_onRequest {change : Request → Except EvalError Request}
    {k : Request → Work EvalError Unit}
    (hk : ∀ r, s.request = some r →
      (k r).run s = land s ((change r).map fun r => { s with request := some r })) :
    (look requestOf >>= k).run s = land s (changeRequest s change) := by
  cases hr : s.request with
  | none =>
    have hnone : requestOf s = .error .noRequest := by rw [requestOf, hr]
    rw [run_look_error hnone, changeRequest, hr]
    rfl
  | some r =>
    have hsome : requestOf s = .ok r := by rw [requestOf, hr]
    rw [run_look_ok hsome, hk r hr, changeRequest, hr]
    simp only
    cases change r <;> rfl

theorem performAssign_eq (target : Target) (v : Json) :
    (performAssign w site target v).run s = land s (assign w s site target v) := by
  cases target with
  | var scope key =>
    simp only [performAssign, assign]
    cases hname : nameAt w s site key with
    | error e => exact run_look_error hname
    | ok name => exact run_look_ok hname
  | field f =>
    cases f with
    | body =>
      simp only [performAssign, assign]
      refine run_onRequest fun r hr => ?_
      exact run_alter _ hr
    | method | url =>
      refine run_onRequest fun r hr => ?_
      cases v with
      | str text => exact run_alter _ hr
      | _ => rfl
  | header key =>
    simp only [performAssign, assign]
    cases hname : nameAt w s site key with
    | error e => exact run_look_error hname
    | ok name =>
      rw [run_look_ok hname]
      refine run_onRequest fun r hr => ?_
      rw [EStateM.run_bind, run_alter _ hr]
      exact run_alter _ rfl

theorem performUnset_eq (target : Target) :
    (performUnset w site target).run s = land s (unset w s site target) := by
  cases target with
  | var scope key =>
    simp only [performUnset, unset]
    cases hname : nameAt w s site key with
    | error e => exact run_look_error hname
    | ok name => exact run_look_ok hname
  | field f =>
    cases f with
    | body =>
      simp only [performUnset, unset]
      refine run_onRequest fun r hr => ?_
      exact run_alter _ hr
    | method | url => rfl
  | header key =>
    simp only [performUnset, unset]
    cases hname : nameAt w s site key with
    | error e => exact run_look_error hname
    | ok name =>
      rw [run_look_ok hname]
      exact run_onRequest fun r hr => run_alter _ hr

/-- All that can fail in a statement comes before the first change of the scene. -/
theorem Statement.perform_eq (st : Statement) :
    (st.perform w site).run s = land s (st.run w s site) := by
  simp only [Statement.perform, Statement.run]
  cases st.action with
  | assign target value =>
    simp only
    cases hv : value.eval w s (0 :: site) with
    | error e => exact run_onLine_error hv
    | ok v =>
      rw [run_onLine_ok hv]
      exact run_onLine (performAssign_eq target v)
  | unset target => exact run_onLine (performUnset_eq target)
  | assert condition message source =>
    simp only
    cases hv : condition.eval w s (0 :: site) with
    | error e => exact run_onLine_error hv
    | ok v =>
      simp only
      rw [run_onLine_ok hv]
      split
      · rfl
      · cases ht : assertionText w s site message source with
        | error e => exact run_onLine_error ht
        | ok text => exact run_onLine_ok ht
  | fail message =>
    simp only
    cases hv : message.eval w s (0 :: site) with
    | error e => exact run_onLine_error hv
    | ok v => exact run_onLine_ok hv

end

/-! ## What a statement may change -/

/-- Scenes that differ in one variable at most. -/
structure DifferInVariable (scope : Scope) (name : String) (s s' : Scene) : Prop where
  others : (s'.scope scope).erase name = (s.scope scope).erase name
  scopes : ∀ other, other ≠ scope → s'.scope other = s.scope other
  request : s'.request = s.request
  response : s'.response = s.response

/-- Scenes that differ in their requests at most, which are related by `rel`. -/
structure DifferInRequest (rel : Request → Request → Prop) (s s' : Scene) : Prop where
  globals : s'.globals = s.globals
  locals : s'.locals = s.locals
  request : ∃ r r', s.request = some r ∧ s'.request = some r' ∧ rel r r'
  response : s'.response = s.response

def RequestField.Differ (f : RequestField) (r r' : Request) : Prop :=
  match f with
  | .method => r' = { r with method := r'.method }
  | .url => r' = { r with url := r'.url }
  | .body => r' = { r with body := r'.body }

/-- Requests that differ at most in headers whose names are equal to `name` but for the case of
ASCII letters. -/
structure DifferInHeader (name : String) (r r' : Request) : Prop where
  others : r'.headers.filter (fun h => !sameHeader h.1 name) =
    r.headers.filter fun h => !sameHeader h.1 name
  rest : r' = { r with headers := r'.headers }

/-- What may differ once a target was set or unset; its name is evaluated at `site`. -/
inductive Target.Differ (w : World) (site : Site) (s s' : Scene) : Target → Prop where
  | var {scope : Scope} {key : Expr} {name : String} : nameAt w s site key = .ok name →
      DifferInVariable scope name s s' → Target.Differ w site s s' (.var scope key)
  | field {f : RequestField} : DifferInRequest f.Differ s s' →
      Target.Differ w site s s' (.field f)
  | header {key : Expr} {name : String} : nameAt w s site key = .ok name →
      DifferInRequest (DifferInHeader name) s s' → Target.Differ w site s s' (.header key)

/-- What may differ after a statement that succeeds. A `fail` never does. -/
def Action.Differ (w : World) (site : Site) (s s' : Scene) : Action → Prop
  | .assign target _ => target.Differ w (1 :: site) s s'
  | .unset target => target.Differ w (1 :: site) s s'
  | .assert _ _ _ => s' = s
  | .fail _ => False

section

variable {w : World} {site : Site} {s s' : Scene}

theorem setVariable_differ (scope : Scope) (name : String) (v : Json) :
    DifferInVariable scope name s (s.setVariable scope name v) := by
  cases scope with
  | globals | locals =>
    refine ⟨Dict.erase_insert _ _ _, fun other hother => ?_, rfl, rfl⟩
    cases other <;> first | rfl | contradiction

theorem unsetVariable_differ (scope : Scope) (name : String) :
    DifferInVariable scope name s (s.unsetVariable scope name) := by
  cases scope with
  | globals | locals =>
    refine ⟨Dict.erase_erase _ _, fun other hother => ?_, rfl, rfl⟩
    cases other <;> first | rfl | contradiction

theorem changeRequest_differ {rel : Request → Request → Prop}
    {change : Request → Except EvalError Request} (h : changeRequest s change = .ok s')
    (hchange : ∀ r r', change r = .ok r' → rel r r') : DifferInRequest rel s s' := by
  simp only [changeRequest] at h
  split at h
  · cases h
  · rename_i r hr
    split at h
    · cases h
    · rename_i r' hr'
      cases h
      exact ⟨rfl, rfl, ⟨r, r', hr, rfl, hchange r r' hr'⟩, rfl⟩

theorem setField_differ {f : RequestField} {v : Json} {r r' : Request}
    (h : setField r f v = .ok r') : f.Differ r r' := by
  cases f with
  | body =>
    cases h
    rfl
  | method | url =>
    cases v with
    | str text =>
      cases h
      rfl
    | _ => cases h

theorem unsetHeader_differ (r : Request) (name : String) :
    DifferInHeader name r (unsetHeader r name) :=
  ⟨by simp [unsetHeader], rfl⟩

theorem setHeader_differ (r : Request) (name value : String) :
    DifferInHeader name r (setHeader r name value) := by
  refine ⟨?_, rfl⟩
  have hfilter := (unsetHeader_differ r name).others
  rw [← hfilter]
  exact Dict.filter_insert (fun v => by simp [sameHeader]) _ _

theorem assign_differ {target : Target} {v : Json} (h : assign w s site target v = .ok s') :
    target.Differ w site s s' := by
  cases target with
  | var scope key =>
    simp only [assign] at h
    split at h
    · cases h
    · rename_i name hname
      cases h
      exact .var hname (setVariable_differ scope name v)
  | field f => exact .field (changeRequest_differ h fun r r' => setField_differ)
  | header key =>
    simp only [assign] at h
    split at h
    · cases h
    · rename_i name hname
      refine .header hname (changeRequest_differ h fun r r' hr => ?_)
      cases hr
      exact setHeader_differ r name _

theorem unset_differ {target : Target} (h : unset w s site target = .ok s') :
    target.Differ w site s s' := by
  cases target with
  | var scope key =>
    simp only [unset] at h
    split at h
    · cases h
    · rename_i name hname
      cases h
      exact .var hname (unsetVariable_differ scope name)
  | field f =>
    cases f with
    | body =>
      simp only [unset] at h
      refine .field (changeRequest_differ h fun r r' hr => ?_)
      cases hr
      rfl
    | method | url => cases h
  | header key =>
    simp only [unset] at h
    split at h
    · cases h
    · rename_i name hname
      refine .header hname (changeRequest_differ h fun r r' hr => ?_)
      cases hr
      exact unsetHeader_differ r name

theorem eq_ok_of_valueOn {α : Type} {line : Nat} {r : Except EvalError α} {a : α}
    (h : valueOn line r = .ok a) : r = .ok a := by
  cases r with
  | error e => cases h
  | ok b =>
    cases h
    rfl

theorem Statement.run_differ {st : Statement} (h : st.run w s site = .ok s') :
    st.action.Differ w site s s' := by
  simp only [Statement.run] at h
  cases haction : st.action with
  | assign target value =>
    simp only [haction] at h
    split at h
    · cases h
    · exact assign_differ (eq_ok_of_valueOn h)
  | unset target =>
    simp only [haction] at h
    exact unset_differ (eq_ok_of_valueOn h)
  | assert condition message source =>
    simp only [haction] at h
    split at h
    · cases h
    · split at h
      · cases h
        rfl
      · split at h <;> cases h
  | fail message =>
    simp only [haction] at h
    split at h <;> cases h

end

/-! ## Runs -/

def ended : Scene × Option HookError → EStateM.Result HookError Scene Unit
  | (s, none) => .ok () s
  | (s, some e) => .error e s

/-- Statements, numbered from `i` on, that all succeed, each of them changing its target alone. -/
inductive Performed (w : World) (site : Site) : Nat → List Statement → Scene → Scene → Prop where
  | nil {i : Nat} {s : Scene} : Performed w site i [] s s
  | cons {i : Nat} {st : Statement} {rest : List Statement} {s s₁ s' : Scene} :
      (st.perform w (i :: site)).run s = .ok () s₁ → st.action.Differ w (i :: site) s s₁ →
      Performed w site (i + 1) rest s₁ s' → Performed w site i (st :: rest) s s'

/-- Where a run from `s` stops, and with which failure. -/
inductive Stops (w : World) (site : Site) (i : Nat) (program : List Statement) (s s' : Scene) :
    Option HookError → Prop where
  | all : Performed w site i program s s' → Stops w site i program s s' none
  | failed {before after : List Statement} {st : Statement} {e : HookError} :
      program = before ++ st :: after → Performed w site i before s s' →
      (st.perform w ((i + before.length) :: site)).run s' = .error e s' →
      Stops w site i program s s' (some e)

section

variable {w : World} {site : Site} {i : Nat} {program rest : List Statement} {st : Statement}
  {s s₁ s' : Scene} {e : Option HookError}

theorem Stops.cons (hst : (st.perform w (i :: site)).run s = .ok () s₁)
    (hdiffer : st.action.Differ w (i :: site) s s₁) (h : Stops w site (i + 1) rest s₁ s' e) :
    Stops w site i (st :: rest) s s' e := by
  cases h with
  | all hrest => exact .all (.cons hst hdiffer hrest)
  | @failed before _ _ _ hsplit hbefore hfails =>
    have hindex : i + 1 + before.length = i + (st :: before).length := by
      rw [List.length_cons]
      omega
    rw [hindex] at hfails
    exact .failed (by rw [hsplit, List.cons_append]) (.cons hst hdiffer hbefore) hfails

theorem performFrom_eq :
    (performFrom w site i program).run s = ended (runFrom w site i s program) := by
  induction program generalizing i s with
  | nil => rfl
  | cons st rest ih =>
    have hst : (st.perform w (i :: site)).run s = land s (st.run w s (i :: site)) := st.perform_eq
    rw [performFrom, EStateM.run_bind, hst, runFrom]
    cases st.run w s (i :: site) with
    | error e => rfl
    | ok s₁ => exact ih

theorem runFrom_stops :
    Stops w site i program s (runFrom w site i s program).1 (runFrom w site i s program).2 := by
  induction program generalizing i s with
  | nil => exact .all .nil
  | cons st rest ih =>
    have hst : (st.perform w (i :: site)).run s = land s (st.run w s (i :: site)) := st.perform_eq
    rw [runFrom]
    cases hrun : st.run w s (i :: site) with
    | error e =>
      rw [hrun] at hst
      exact .failed (List.nil_append _).symm .nil hst
    | ok s₁ =>
      rw [hrun] at hst
      exact ih.cons hst (st.run_differ hrun)

end

/-- A run is work in place. It ends with the scene that all its statements led to, or those
before the first that fails, which itself changes nothing; and each changes its target alone. -/
theorem run_effects (w : World) (site : Site) (program : List Statement) (s : Scene) :
    (performFrom w site 0 program).run s = ended (run w site program s) ∧
      Stops w site 0 program s (run w site program s).1 (run w site program s).2 :=
  ⟨performFrom_eq, runFrom_stops⟩

example (w : World) (site : Site) :
    let set (name : String) : Action :=
      .assign (.var .globals (.literal (.str name))) (.literal (.bool true))
    let assertion : Action := .assert (.literal (.bool false)) none "false"
    run w site [⟨set "seen", 1⟩, ⟨assertion, 2⟩, ⟨set "after", 3⟩] { globals := [], locals := [] } =
      ({ globals := [("seen", .bool true)], locals := [] },
        some (.assertion "assertion failed: false")) :=
  rfl

end Hook
end RequestFlow
