import RequestFlow.Document.Leaf
import RequestFlow.Hook.Apply
import RequestFlow.Response

/-!
# RequestFlow.Hook.Eval

Values of expressions. A scene is what a hook sees; expressions do not change it.

* `Expr.eval` — the value of an expression. The variables of a scope are looked up in place,
  without building the object that the scope stands for.
-/

namespace RequestFlow.Hook

structure Scene where
  globals : Vars
  locals : Vars
  /-- Absent in an `after` hook, and when the leaf declares no request. -/
  request : Option Request := none
  /-- Null unless an `after` hook follows a response. -/
  response : Json := .null

namespace Scene

def scope (s : Scene) : Scope → Vars
  | .globals => s.globals
  | .locals => s.locals

def requestView (r : Request) : Json :=
  Json.ofFields [
    ("method", .str r.method),
    ("url", .str r.url),
    ("headers", .obj (r.headers.mapValues .str)),
    ("body", .str (String.ofList (Text.Utf8.lossy r.body)))]

def root (s : Scene) : Root → Json
  | .scope k => .obj (s.scope k)
  | .request =>
    match s.request with
    | some r => requestView r
    | none => .null
  | .response => s.response

end Scene

/-- A field of an object or an item of an array; null when there is none. -/
def item (v key : Json) : Json :=
  match v, key with
  | .obj fields, .str name => (Dict.get? fields name).getD .null
  | .arr items, .num n => (n.index?.bind fun i => items[i]?).getD .null
  | _, _ => .null

def lookUp (vars : Vars) (key : Json) : Json :=
  match key with
  | .str name => (vars.get? name).getD .null
  | _ => .null

def Expr.scope? : Expr → Option Scope
  | .root (.scope k) => some k
  | _ => none

def UnaryOp.apply (op : UnaryOp) (v : Json) : Result :=
  match op with
  | .not => .ok (.bool (!v.truthy))
  | .neg =>
    match v with
    | .num n => .ok (.num n.neg)
    | v => .error (.cannotNegate v.kind)

/-- Whether an order operator holds of two values that compare as given. -/
def BinaryOp.admits : BinaryOp → Ordering → Bool
  | .lt, o => o == .lt
  | .le, o => o != .gt
  | .gt, o => o == .gt
  | .ge, o => o != .lt
  | _, _ => false

def order (op : BinaryOp) (l r : Json) : Result :=
  match l.compare? r with
  | some o => .ok (.bool (op.admits o))
  | none => .error (.incomparable l.kind r.kind)

/-- The sum of two numbers; with a string on one side, both displayed one after the other. -/
def sum (l r : Json) : Result :=
  let joined : Result := .ok (.str (l.display ++ r.display))
  match l, r with
  | .num a, .num b =>
    match a.add? b with
    | some n => .ok (.num n)
    | none => .error .overflow
  | .str _, _ => joined
  | _, .str _ => joined
  | _, _ => .error (.cannotAdd l.kind r.kind)

def difference (l r : Json) : Result :=
  match l, r with
  | .num a, .num b =>
    match a.sub? b with
    | some n => .ok (.num n)
    | none => .error .overflow
  | _, _ => .error (.cannotSubtract l.kind r.kind)

def BinaryOp.apply (op : BinaryOp) (l r : Json) : Result :=
  match op with
  | .eq => .ok (.bool (l.eqv r))
  | .ne => .ok (.bool (!l.eqv r))
  | .add => sum l r
  | .sub => difference l r
  | op => order op l r

/-- Whether the left operand alone decides. -/
def LogicOp.decidedBy (op : LogicOp) (l : Json) : Bool :=
  match op with
  | .or => l.truthy
  | .and => !l.truthy

mutual

def Expr.eval (w : World) (s : Scene) (site : Site) : Expr → Result
  | .literal v => .ok v
  | .root r => .ok (s.root r)
  | .member base name =>
    match base.scope? with
    | some k => .ok (((s.scope k).get? name).getD .null)
    | none =>
      match base.eval w s (0 :: site) with
      | .error e => .error e
      | .ok v => .ok ((v.get? name).getD .null)
  | .index base key =>
    match key.eval w s (1 :: site) with
    | .error e => .error e
    | .ok k =>
      match base.scope? with
      | some scope => .ok (lookUp (s.scope scope) k)
      | none =>
        match base.eval w s (0 :: site) with
        | .error e => .error e
        | .ok v => .ok (item v k)
  | .call f args =>
    match evalAll w s site 0 args with
    | .error e => .error e
    | .ok vs => f.apply w site vs
  | .unary op operand =>
    match operand.eval w s (0 :: site) with
    | .error e => .error e
    | .ok v => op.apply v
  | .logic op lhs rhs =>
    match lhs.eval w s (0 :: site) with
    | .error e => .error e
    | .ok l =>
      if op.decidedBy l then .ok (.bool l.truthy)
      else
        match rhs.eval w s (1 :: site) with
        | .error e => .error e
        | .ok r => .ok (.bool r.truthy)
  | .binary op lhs rhs =>
    match lhs.eval w s (0 :: site) with
    | .error e => .error e
    | .ok l =>
      match rhs.eval w s (1 :: site) with
      | .error e => .error e
      | .ok r => op.apply l r

def evalAll (w : World) (s : Scene) (site : Site) (i : Nat) : List Expr → Except EvalError (List Json)
  | [] => .ok []
  | e :: rest =>
    match e.eval w s (i :: site) with
    | .error e => .error e
    | .ok v =>
      match evalAll w s site (i + 1) rest with
      | .error e => .error e
      | .ok vs => .ok (v :: vs)

end

end RequestFlow.Hook
