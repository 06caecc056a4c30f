import RequestFlow.Proofs.Hook.Fits

/-!
# RequestFlow.Proofs.Hook.Safety

What the checks of the compiler rule out when a hook runs.

* `Unrequested`  — an evaluation does not fail for want of a request. No expression does.
* `Keeps`        — neither does a statement whose target fits, and it leaves the request there.
* `apply_append` — a function reads only the arguments that it takes.
* `Infix`        — the signs between two operands, with the two tables by which they are evaluated
  one after the other; the second one has no row for the signs that the first one settles.
* `program_safe` — a hook that compiles holds no root or target of the other side, and when it runs
  it neither lacks a request, nor an argument, nor a row of the second table.
-/

namespace RequestFlow.Hook

/-! ## Expressions -/

/-- If an evaluation fails, then not because the leaf has no request. -/
def Unrequested {α : Type} (r : Except EvalError α) : Prop :=
  ∀ e, r = .error e → e ≠ .noRequest

theorem unrequested_ok {α : Type} (v : α) : Unrequested (.ok v) := by
  rintro _ ⟨⟩

theorem unrequested_error {α : Type} {e : EvalError} (h : e ≠ .noRequest) :
    Unrequested (.error e : Except EvalError α) := by
  rintro _ ⟨⟩
  exact h

theorem Unrequested.error {α β : Type} {r : Except EvalError α} {e : EvalError}
    (hr : Unrequested r) (h : r = .error e) : Unrequested (.error e : Except EvalError β) :=
  unrequested_error (hr e h)

section

variable {f : Function} {a b c v l r : Json}

theorem stringFor_unrequested (f : Function) (v : Json) : Unrequested (stringFor f v) := by
  cases v with
  | str s => exact unrequested_ok s
  | _ => exact unrequested_error nofun

theorem onString_unrequested {g : List Char → Json} : Unrequested (onString f v g) := by
  simp only [onString]
  split
  · exact (stringFor_unrequested f v).error ‹_›
  · exact unrequested_ok _

theorem onStrings_unrequested {g : List Char → List Char → Json} :
    Unrequested (onStrings f a b g) := by
  simp only [onStrings]
  split
  · exact (stringFor_unrequested f a).error ‹_›
  · split
    · exact (stringFor_unrequested f b).error ‹_›
    · exact unrequested_ok _

theorem size_unrequested : Unrequested (size v) := by
  cases v with
  | bool b => exact unrequested_error nofun
  | num n => exact unrequested_error nofun
  | _ => exact unrequested_ok _

theorem toNumber_unrequested : Unrequested (toNumber v) := by
  simp only [toNumber]
  split
  · exact unrequested_ok _
  · exact unrequested_ok _
  · split
    · exact unrequested_ok _
    · exact unrequested_error nofun
  · exact unrequested_error nofun

theorem readJson_unrequested {s : String} : Unrequested (readJson s) := by
  simp only [readJson]
  split
  · exact unrequested_ok _
  · exact unrequested_error nofun

theorem nodesAt_unrequested : Unrequested (nodesAt f v a) := by
  simp only [nodesAt]
  split
  · exact (stringFor_unrequested f a).error ‹_›
  · split
    · exact unrequested_error nofun
    · exact unrequested_ok _

theorem regexOf_unrequested : Unrequested (regexOf f v) := by
  simp only [regexOf]
  split
  · exact (stringFor_unrequested f v).error ‹_›
  · split
    · exact unrequested_error nofun
    · exact unrequested_ok _

theorem captured_unrequested : Unrequested (captured a b c) := by
  simp only [captured]
  split
  · exact regexOf_unrequested.error ‹_›
  · split
    · exact unrequested_ok _
    · split
      · exact unrequested_ok _
      · exact unrequested_ok _
      · exact unrequested_error nofun

theorem apply_unrequested (w : World) (site : Site) (f : Function) (args : List Json) :
    Unrequested (f.apply w site args) := by
  cases f <;> simp only [Function.apply]
  case len => exact size_unrequested
  case startsWith | endsWith => exact onStrings_unrequested
  case lower | upper | trim => exact onString_unrequested
  case num => exact toNumber_unrequested
  case «exists» => split <;> exact unrequested_ok _
  case parseJson =>
    split
    · exact (stringFor_unrequested _ _).error ‹_›
    · exact readJson_unrequested
  case jsonPath | jsonPathAll =>
    split
    · exact nodesAt_unrequested.error ‹_›
    · exact unrequested_ok _
  case «matches» =>
    split
    · exact regexOf_unrequested.error ‹_›
    · exact unrequested_ok _
  case capture => exact captured_unrequested
  case env =>
    split
    · exact (stringFor_unrequested _ _).error ‹_›
    · exact unrequested_ok _
  -- The others do not fail.
  all_goals exact unrequested_ok _

theorem unaryOp_unrequested (op : UnaryOp) : Unrequested (op.apply v) := by
  cases op with
  | not => exact unrequested_ok _
  | neg =>
    cases v with
    | num n => exact unrequested_ok _
    | _ => exact unrequested_error nofun

theorem order_unrequested (op : BinaryOp) : Unrequested (order op l r) := by
  simp only [order]
  split
  · exact unrequested_ok _
  · exact unrequested_error nofun

theorem sum_unrequested : Unrequested (sum l r) := by
  simp only [sum]
  split
  · split
    · exact unrequested_ok _
    · exact unrequested_error nofun
  · exact unrequested_ok _
  · exact unrequested_ok _
  · exact unrequested_error nofun

theorem difference_unrequested : Unrequested (difference l r) := by
  simp only [difference]
  split
  · split
    · exact unrequested_ok _
    · exact unrequested_error nofun
  · exact unrequested_error nofun

theorem binaryOp_unrequested (op : BinaryOp) : Unrequested (op.apply l r) := by
  cases op with
  | eq | ne => exact unrequested_ok _
  | add => exact sum_unrequested
  | sub => exact difference_unrequested
  | lt | le | gt | ge => exact order_unrequested _

end

section

variable {w : World} {s s' : Scene} {site : Site}

mutual

theorem eval_unrequested (site : Site) (e : Expr) : Unrequested (e.eval w s site) := by
  match e with
  | .literal v =>
    rw [Expr.eval]
    exact unrequested_ok v
  | .root r =>
    rw [Expr.eval]
    exact unrequested_ok _
  | .member base name =>
    rw [Expr.eval]
    split
    · exact unrequested_ok _
    · split
      · exact (eval_unrequested _ base).error ‹_›
      · exact unrequested_ok _
  | .index base key =>
    rw [Expr.eval]
    split
    · exact (eval_unrequested _ key).error ‹_›
    · split
      · exact unrequested_ok _
      · split
        · exact (eval_unrequested _ base).error ‹_›
        · exact unrequested_ok _
  | .call f args =>
    rw [Expr.eval]
    split
    · exact (evalAll_unrequested site 0 args).error ‹_›
    · exact apply_unrequested w site f _
  | .unary op operand =>
    rw [Expr.eval]
    split
    · exact (eval_unrequested _ operand).error ‹_›
    · exact unaryOp_unrequested op
  | .logic op lhs rhs =>
    rw [Expr.eval]
    split
    · exact (eval_unrequested _ lhs).error ‹_›
    · split
      · exact unrequested_ok _
      · split
        · exact (eval_unrequested _ rhs).error ‹_›
        · exact unrequested_ok _
  | .binary op lhs rhs =>
    rw [Expr.eval]
    split
    · exact (eval_unrequested _ lhs).error ‹_›
    · split
      · exact (eval_unrequested _ rhs).error ‹_›
      · exact binaryOp_unrequested op

theorem evalAll_unrequested (site : Site) (i : Nat) (es : List Expr) :
    Unrequested (evalAll w s site i es) := by
  match es with
  | [] =>
    rw [evalAll]
    exact unrequested_ok _
  | e :: rest =>
    rw [evalAll]
    split
    · exact (eval_unrequested _ e).error ‹_›
    · split
      · exact (evalAll_unrequested site (i + 1) rest).error ‹_›
      · exact unrequested_ok _

end

/-! ## Statements -/

/-- A change of the scene does not fail for want of a request, and takes none away. -/
structure Keeps (s : Scene) (r : Except EvalError Scene) : Prop where
  unrequested : Unrequested r
  request : ∀ s', r = .ok s' → s'.request.isSome = s.request.isSome

theorem keeps_error {e : EvalError} (h : Unrequested (.error e : Except EvalError Scene)) :
    Keeps s (.error e) :=
  ⟨h, by rintro _ ⟨⟩⟩

theorem keeps_ok (h : s'.request = s.request) : Keeps s (.ok s') := by
  refine ⟨unrequested_ok s', ?_⟩
  rintro _ ⟨⟩
  rw [h]

theorem nameAt_unrequested (key : Expr) : Unrequested (nameAt w s site key) := by
  simp only [nameAt]
  split
  · exact (eval_unrequested _ key).error ‹_›
  · exact unrequested_ok _
  · exact unrequested_error nofun

theorem changeRequest_keeps {change : Request → Except EvalError Request}
    (hs : s.request.isSome = true) (hc : ∀ r, Unrequested (change r)) :
    Keeps s (changeRequest s change) := by
  simp only [changeRequest]
  split
  · rename_i hnone
    rw [hnone] at hs
    cases hs
  · rename_i r hr
    split
    · exact keeps_error ((hc r).error ‹_›)
    · refine ⟨unrequested_ok _, ?_⟩
      rintro _ ⟨⟩
      rw [hr]
      rfl

theorem setField_unrequested (r : Request) (f : RequestField) (v : Json) :
    Unrequested (setField r f v) := by
  cases f with
  | body => exact unrequested_ok _
  | method | url =>
    cases v with
    | str s => exact unrequested_ok _
    | _ => exact unrequested_error nofun

variable {side : Side} {libraries : List Library} {target : Target}

/-- There is a request where a hook may need one. -/
def Ready (side : Side) (s : Scene) : Prop :=
  side = .before → s.request.isSome = true

theorem assign_keeps (ht : target.Fits side libraries) (hs : Ready side s) (v : Json) :
    Keeps s (assign w s site target v) := by
  cases ht with
  | @var scope key _ =>
    simp only [assign]
    split
    · exact keeps_error ((nameAt_unrequested key).error ‹_›)
    · exact keeps_ok (by cases scope <;> rfl)
  | field f hside => exact changeRequest_keeps (hs hside) fun r => setField_unrequested r f v
  | @header key hside _ =>
    simp only [assign]
    split
    · exact keeps_error ((nameAt_unrequested key).error ‹_›)
    · exact changeRequest_keeps (hs hside) fun r => unrequested_ok _

theorem unset_keeps (ht : target.Fits side libraries) (hs : Ready side s) :
    Keeps s (unset w s site target) := by
  cases ht with
  | @var scope key _ =>
    simp only [unset]
    split
    · exact keeps_error ((nameAt_unrequested key).error ‹_›)
    · exact keeps_ok (by cases scope <;> rfl)
  | field f hside =>
    cases f with
    | body => exact changeRequest_keeps (hs hside) fun r => unrequested_ok _
    | method | url => exact keeps_error (unrequested_error nofun)
  | @header key hside _ =>
    simp only [unset]
    split
    · exact keeps_error ((nameAt_unrequested key).error ‹_›)
    · exact changeRequest_keeps (hs hside) fun r => unrequested_ok _

/-- A statement does not fail for want of a request, and takes none away. -/
structure KeepsOn (s : Scene) (r : Except HookError Scene) : Prop where
  unrequested : ∀ line, r ≠ .error (.runtime line .noRequest)
  request : ∀ s', r = .ok s' → s'.request.isSome = s.request.isSome

theorem keepsOn_runtime {e : EvalError} {line : Nat} (h : e ≠ .noRequest) :
    KeepsOn s (.error (.runtime line e)) := by
  refine ⟨fun line' he => ?_, by rintro _ ⟨⟩⟩
  cases he
  exact h rfl

theorem keepsOn_ok : KeepsOn s (.ok s) := by
  refine ⟨fun _ => nofun, ?_⟩
  rintro _ ⟨⟩
  rfl

theorem keepsOn_assertion (message : String) : KeepsOn s (.error (.assertion message)) :=
  ⟨fun _ => nofun, by rintro _ ⟨⟩⟩

theorem Keeps.on {r : Except EvalError Scene} (h : Keeps s r) (line : Nat) :
    KeepsOn s (valueOn line r) := by
  cases r with
  | error e => exact keepsOn_runtime (h.unrequested e rfl)
  | ok s' =>
    refine ⟨fun _ => nofun, ?_⟩
    rintro _ ⟨⟩
    exact h.request s' rfl

theorem assertionText_unrequested (message : Option Expr) (source : String) :
    Unrequested (assertionText w s site message source) := by
  simp only [assertionText]
  split
  · exact unrequested_ok _
  · split
    · exact (eval_unrequested _ _).error ‹_›
    · exact unrequested_ok _

theorem Statement.run_keeps {st : Statement} (ht : ∀ t ∈ st.action.target?, t.Fits side libraries)
    (hs : Ready side s) : KeepsOn s (st.run w s site) := by
  simp only [Statement.run]
  split
  · rename_i target value haction
    have htarget : target.Fits side libraries := ht target (by rw [haction]; rfl)
    split
    · exact keepsOn_runtime (eval_unrequested _ _ _ ‹_›)
    · exact (assign_keeps htarget hs _).on _
  · rename_i target haction
    have htarget : target.Fits side libraries := ht target (by rw [haction]; rfl)
    exact (unset_keeps htarget hs).on _
  · split
    · exact keepsOn_runtime (eval_unrequested _ _ _ ‹_›)
    · split
      · exact keepsOn_ok
      · split
        · exact keepsOn_runtime (assertionText_unrequested _ _ _ ‹_›)
        · exact keepsOn_assertion _
  · split
    · exact keepsOn_runtime (eval_unrequested _ _ _ ‹_›)
    · exact keepsOn_assertion _

/-- The request that a hook may need is there before each of its statements. -/
theorem runFrom_unrequested {program : List Statement}
    (hp : ∀ st ∈ program, ∀ t ∈ st.action.target?, t.Fits side libraries) (line : Nat) :
    ∀ {i : Nat} {s : Scene}, Ready side s →
      (runFrom w site i s program).2 ≠ some (.runtime line .noRequest) := by
  induction program with
  | nil => intro i s _; exact nofun
  | cons st rest ih =>
    intro i s hs
    obtain ⟨hst, hrest⟩ := List.forall_mem_cons.mp hp
    have hkeeps : KeepsOn s (st.run w s (i :: site)) := Statement.run_keeps hst hs
    simp only [runFrom]
    split
    · rename_i e he
      intro h
      cases h
      exact hkeeps.unrequested line he
    · rename_i s' hok
      have hready : Ready side s' := fun hside => by rw [hkeeps.request s' hok, hs hside]
      exact ih hrest hready

end

/-! ## Arguments -/

theorem evalAll_length {w : World} {s : Scene} {site : Site} (es : List Expr) :
    ∀ {i : Nat} {vs : List Json}, evalAll w s site i es = .ok vs → vs.length = es.length := by
  induction es with
  | nil =>
    intro i vs h
    rw [evalAll] at h
    cases h
    rfl
  | cons e rest ih =>
    intro i vs h
    rw [evalAll] at h
    split at h
    · cases h
    · split at h
      · cases h
      · rename_i hrest
        cases h
        rw [List.length_cons, List.length_cons, ih hrest]

/-- A function reads only the arguments that it takes. -/
theorem apply_append (w : World) (site : Site) (f : Function) {vs : List Json}
    (h : vs.length = f.arity) (more : List Json) :
    f.apply w site (vs ++ more) = f.apply w site vs := by
  cases f
  case uuid => rfl
  case capture =>
    obtain ⟨a, b, c, rfl⟩ := List.length_eq_three.mp h
    rfl
  case contains | startsWith | endsWith | jsonPath | jsonPathAll | «matches» =>
    obtain ⟨a, b, rfl⟩ := List.length_eq_two.mp h
    rfl
  all_goals
    obtain ⟨a, rfl⟩ := List.length_eq_one_iff.mp h
    rfl

/-! ## Signs between operands -/

/-- The signs that stand between two operands. -/
inductive Infix where
  | logic (op : LogicOp)
  | value (op : BinaryOp)

namespace Infix

def expr : Infix → Expr → Expr → Expr
  | .logic op => .logic op
  | .value op => .binary op

/-- The first table, for the value on the left and what the right operand comes to. It has a row
for each sign that may leave its right operand alone. -/
def first : Infix → Json → Result → Option Result
  | .logic .and, l, r => some (if l.truthy then r.map (.bool ·.truthy) else .ok (.bool false))
  | .logic .or, l, r => some (if l.truthy then .ok (.bool true) else r.map (.bool ·.truthy))
  | .value _, _, _ => none

/-- The second table, for the values on both sides. -/
def second : Infix → Json → Json → Option Result
  | .logic _, _, _ => none
  | .value op, l, r => some (op.apply l r)

/-- The operands from the left to the right, and one table after the other; none if neither has a
row for the sign. -/
def run (sign : Infix) (l r : Result) : Option Result :=
  match l with
  | .error e => some (.error e)
  | .ok l =>
    match sign.first l r with
    | some result => some result
    | none =>
      match r with
      | .error e => some (.error e)
      | .ok r => sign.second l r

/-- There is always a row, and it gives the value of the expression. -/
theorem run_eq (sign : Infix) (lhs rhs : Expr) (w : World) (s : Scene) (site : Site) :
    sign.run (lhs.eval w s (0 :: site)) (rhs.eval w s (1 :: site)) =
      some ((sign.expr lhs rhs).eval w s site) := by
  cases sign with
  | value op =>
    rw [expr, Expr.eval]
    cases lhs.eval w s (0 :: site) with
    | error e => rfl
    | ok l => cases rhs.eval w s (1 :: site) <;> rfl
  | logic op =>
    rw [expr, Expr.eval]
    cases lhs.eval w s (0 :: site) with
    | error e => rfl
    | ok l =>
      cases op <;> cases hl : l.truthy <;> cases rhs.eval w s (1 :: site) <;>
        simp [run, first, LogicOp.decidedBy, hl, Except.map]

end Infix

/-! ## Hooks -/

/-- A statement of the program holds the expression, at any depth. -/
def Mentions (program : List Statement) (x : Expr) : Prop :=
  ∃ st ∈ program, ∃ e ∈ st.action.exprs, Inside x e

/-- What holds of a hook of the side that has imported some libraries, whatever it is run in. -/
structure Safe (side : Side) (imported : List Library) (program : List Statement) : Prop where
  noResponse : side = .before → ¬ Mentions program (.root .response)
  noRequest : side = .after → ¬ Mentions program (.root .request)
  targets : side = .after → ∀ st ∈ program, ∀ target, st.action.target? = some target →
    ∃ scope key, target = .var scope key
  calls : ∀ f args, Mentions program (.call f args) → args.length = f.arity ∧
    (f.library ∈ Library.baseline ∨ f.library ∈ imported)
  /-- A hook before a request is run with that request. -/
  requests : ∀ w site s, Ready side s → ∀ line,
    (run w site program s).2 ≠ some (.runtime line .noRequest)
  /-- What would come after the arguments that a call gives is not looked at. -/
  arguments : ∀ f args, Mentions program (.call f args) → ∀ w s site vs,
    evalAll w s site 0 args = .ok vs →
      vs.length = f.arity ∧ ∀ more, f.apply w site (vs ++ more) = f.apply w site vs
  /-- A sign is found in one of the two tables. -/
  signs : ∀ sign lhs rhs, Mentions program (sign.expr lhs rhs) → ∀ w s site,
    Infix.run sign (lhs.eval w s (0 :: site)) (rhs.eval w s (1 :: site)) =
      some ((sign.expr lhs rhs).eval w s site)

section

variable {side : Side} {libraries : List Library} {program : List Statement}

theorem Mentions.fits {x : Expr} (hx : Mentions program x)
    (hp : ∀ st ∈ program, st.action.Fits side libraries) : Fits side libraries x := by
  obtain ⟨st, hst, e, he, hinside⟩ := hx
  exact ((hp st hst).exprs e he).inside hinside

theorem target_var {target : Target} (ht : target.Fits .after libraries) :
    ∃ scope key, target = .var scope key := by
  cases ht with
  | var _ => exact ⟨_, _, rfl⟩
  | field _ hside => cases hside
  | header hside _ => cases hside

end

/-- Whatever compiles is safe. -/
theorem program_safe {leaf source : String} {side : Side} {imported : List Library}
    {limits : Limits} {program : List Statement}
    (h : compileSide leaf ⟨side, Library.baseline ++ imported, limits⟩ source = .ok program) :
    Safe side imported program := by
  have hfits := compileSide_fits h
  have hcall {f : Function} {args : List Expr} (hx : Mentions program (.call f args)) :
      f.library ∈ Library.baseline ++ imported ∧ args.length = f.arity := by
    cases hx.fits hfits with
    | call hlibrary harity _ => exact ⟨hlibrary, harity⟩
  have hsees {r : Root} (hx : Mentions program (.root r)) : Sees side r := by
    cases hx.fits hfits with
    | root hsees => exact hsees
  refine {
    noResponse := fun hside hx => ?_
    noRequest := fun hside hx => ?_
    targets := fun hside st hst target ht => ?_
    calls := fun f args hx => ?_
    requests := fun w site s hs line => ?_
    arguments := fun f args hx w s site vs hvs => ?_
    signs := fun sign lhs rhs _ w s site => sign.run_eq lhs rhs w s site }
  · subst hside
    nomatch hsees hx
  · subst hside
    nomatch hsees hx
  · subst hside
    exact target_var ((hfits st hst).target target ht)
  · obtain ⟨hlibrary, harity⟩ := hcall hx
    exact ⟨harity, List.mem_append.mp hlibrary⟩
  · exact runFrom_unrequested (fun st hst => (hfits st hst).target) line hs
  · have hlength : vs.length = f.arity := (evalAll_length args hvs).trans (hcall hx).2
    exact ⟨hlength, apply_append w site f hlength⟩

def captureSource : String :=
  "assert len(request.url) > 0 && request.method == \"GET\"\n" ++
    "request.headers.X = capture(request.url, \"b\", 0)"

theorem program_safe_capture :
    ∃ program, compileSide "a" ⟨.before, Library.baseline ++ [.regex], {}⟩ captureSource =
        .ok program ∧ Safe .before [.regex] program ∧
      program.map (·.action.target?.isSome) = [false, true] := by
  have hcompiled : (compileSide "a" ⟨.before, Library.baseline ++ [.regex], {}⟩
      captureSource).toOption.map (·.map (·.action.target?.isSome)) = some [false, true] := by
    decide +kernel
  cases hc : compileSide "a" ⟨.before, Library.baseline ++ [.regex], {}⟩ captureSource with
  | error e =>
    rw [hc] at hcompiled
    cases hcompiled
  | ok program =>
    rw [hc] at hcompiled
    exact ⟨program, rfl, program_safe hc, Option.some.inj hcompiled⟩

end RequestFlow.Hook
