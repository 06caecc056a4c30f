import RequestFlow.Hook.Eval

/-!
# RequestFlow.Proofs.Hook.Evaluation

Evaluation that knows no scopes. The name of a scope stands for the whole object of its
variables, and a member or an item is taken from whatever value stands before it.

* `Under`          — what stands in a value under a key.
* `Expr.plain`     — the value of an expression, all accesses made alike.
* `eval_eq_plain`  — looking variables up in place gives the same values and the same errors.
-/

namespace RequestFlow.Hook

/-- Fields stand under their names and items under their places, counted from zero. -/
inductive Under : Json → Json → Json → Prop where
  | field {fields : List (String × Json)} {name : String} {x : Json} :
      Dict.get? fields name = some x → Under (.obj fields) (.str name) x
  | item {items : List Json} {i : Nat} {fits : FitsWord i} {x : Json} :
      items[i]? = some x → Under (.arr items) (.num (.int i fits)) x

mutual

/-- The value of an expression. The key of an access comes before its base. -/
def Expr.plain (w : World) (s : Scene) (site : Site) : Expr → Result
  | .literal v => return v
  | .root r => return s.root r
  | .member base name => do
    let v ← base.plain w s (0 :: site)
    return item v (.str name)
  | .index base key => do
    let k ← key.plain w s (1 :: site)
    let v ← base.plain w s (0 :: site)
    return item v k
  | .call f args => do
    let vs ← plainAll w s site 0 args
    f.apply w site vs
  | .unary op operand => do
    let v ← operand.plain w s (0 :: site)
    op.apply v
  | .logic op lhs rhs => do
    let l ← lhs.plain w s (0 :: site)
    if op.decidedBy l then return .bool l.truthy
    let r ← rhs.plain w s (1 :: site)
    return .bool r.truthy
  | .binary op lhs rhs => do
    let l ← lhs.plain w s (0 :: site)
    let r ← rhs.plain w s (1 :: site)
    op.apply l r

def plainAll (w : World) (s : Scene) (site : Site) (i : Nat) :
    List Expr → Except EvalError (List Json)
  | [] => return []
  | e :: rest => do
    let v ← e.plain w s (i :: site)
    let vs ← plainAll w s site (i + 1) rest
    return v :: vs

end

/-! ## Accesses -/

theorem item_of_under {v key x : Json} (h : Under v key x) : item v key = x := by
  cases h with
  | field hx => simp [item, hx]
  | @item _ i _ _ hx => simp [item, Number.index?, hx]

theorem item_of_not_under {v key : Json} (h : ∀ x, ¬ Under v key x) : item v key = .null := by
  unfold item
  split
  · rename_i fields name
    cases hget : Dict.get? fields name with
    | none => rfl
    | some x => exact absurd (.field hget) (h x)
  · rename_i items n
    cases n with
    | double d => rfl
    | int n fits =>
      by_cases hn : 0 ≤ n
      · obtain ⟨i, rfl⟩ := Int.eq_ofNat_of_zero_le hn
        cases hget : items[i]? with
        | none => simp [Number.index?, hget]
        | some x => exact absurd (.item hget) (h x)
      · simp [Number.index?, hn]
  · rfl

theorem item_str (v : Json) (name : String) : item v (.str name) = (v.get? name).getD .null := by
  cases v <;> rfl

/-- A variable is the item of the object that holds all of its scope. -/
theorem lookUp_eq_item (vars : Vars) (key : Json) : lookUp vars key = item (.obj vars) key := by
  cases key <;> rfl

theorem scope?_eq_some {e : Expr} {k : Scope} (h : e.scope? = some k) : e = .root (.scope k) := by
  unfold Expr.scope? at h
  split at h
  · cases h
    rfl
  · cases h

/-! ## Evaluation -/

section

variable (w : World) (s : Scene)

mutual

theorem Expr.eval_eq (site : Site) (e : Expr) : e.eval w s site = e.plain w s site := by
  match e with
  | .literal v => rw [Expr.eval, Expr.plain]; rfl
  | .root r => rw [Expr.eval, Expr.plain]; rfl
  | .member base name =>
    rw [Expr.eval, Expr.plain]
    cases hscope : base.scope? with
    | some scope =>
      cases scope?_eq_some hscope
      rfl
    | none =>
      rw [Expr.eval_eq _ base]
      cases base.plain w s (0 :: site) with
      | error e => rfl
      | ok v => exact congrArg Except.ok (item_str v name).symm
  | .index base key =>
    rw [Expr.eval, Expr.plain, Expr.eval_eq _ key]
    cases key.plain w s (1 :: site) with
    | error e => rfl
    | ok k =>
      cases hscope : base.scope? with
      | some scope =>
        cases scope?_eq_some hscope
        exact congrArg Except.ok (lookUp_eq_item _ _)
      | none =>
        rw [Expr.eval_eq _ base]
        cases base.plain w s (0 :: site) <;> rfl
  | .call f args =>
    rw [Expr.eval, Expr.plain, evalAll_eq site 0 args]
    cases plainAll w s site 0 args <;> rfl
  | .unary op operand =>
    rw [Expr.eval, Expr.plain, Expr.eval_eq _ operand]
    cases operand.plain w s (0 :: site) <;> rfl
  | .logic op lhs rhs =>
    rw [Expr.eval, Expr.plain, Expr.eval_eq _ lhs, Expr.eval_eq _ rhs]
    cases lhs.plain w s (0 :: site) with
    | error e => rfl
    | ok l =>
      simp only [bind, Except.bind]
      split
      · rfl
      · cases rhs.plain w s (1 :: site) <;> rfl
  | .binary op lhs rhs =>
    rw [Expr.eval, Expr.plain, Expr.eval_eq _ lhs, Expr.eval_eq _ rhs]
    cases lhs.plain w s (0 :: site) with
    | error e => rfl
    | ok l => cases rhs.plain w s (1 :: site) <;> rfl

theorem evalAll_eq (site : Site) (i : Nat) (es : List Expr) :
    evalAll w s site i es = plainAll w s site i es := by
  match es with
  | [] => rw [evalAll, plainAll]; rfl
  | e :: rest =>
    rw [evalAll, plainAll, Expr.eval_eq _ e, evalAll_eq site (i + 1) rest]
    cases e.plain w s (i :: site) with
    | error e => rfl
    | ok v => cases plainAll w s site (i + 1) rest <;> rfl

end

end

/-- Looking variables up in place gives the same value or the same error as taking them from the
object of their whole scope, wherever in an expression it is done. Every access there gives what
stands under the key, and null if nothing does. -/
theorem eval_eq_plain (w : World) (s : Scene) :
    (∀ site e, Expr.eval w s site e = Expr.plain w s site e) ∧
      ∀ v key, (∀ x, Under v key x → item v key = x) ∧
        ((∀ x, ¬ Under v key x) → item v key = .null) :=
  ⟨Expr.eval_eq w s, fun _ _ => ⟨fun _ => item_of_under, item_of_not_under⟩⟩

end RequestFlow.Hook
