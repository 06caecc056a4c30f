import RequestFlow.Hook.Function
import RequestFlow.Json.Basic

/-!
# RequestFlow.Hook.Expr

Expressions and statements of the hook language.
-/

namespace RequestFlow.Hook

/-- Which of a leaf's two hooks a program is. -/
inductive Side where
  | before
  | after
deriving Repr, DecidableEq

def Side.name : Side → String
  | .before => "before"
  | .after => "after"

inductive Scope where
  | globals
  | locals
deriving Repr, DecidableEq

/-- What a name without a dot before it may stand for. -/
inductive Root where
  | scope (s : Scope)
  | request
  | response
deriving Repr, DecidableEq

inductive UnaryOp where
  | not
  | neg
deriving Repr, DecidableEq

/-- Operators that may leave their right operand alone. -/
inductive LogicOp where
  | or
  | and
deriving Repr, DecidableEq

inductive BinaryOp where
  | eq
  | ne
  | lt
  | le
  | gt
  | ge
  | add
  | sub
deriving Repr, DecidableEq

inductive Expr where
  | literal (v : Json)
  | root (r : Root)
  | member (base : Expr) (name : String)
  | index (base key : Expr)
  | call (f : Function) (args : List Expr)
  | unary (op : UnaryOp) (operand : Expr)
  | logic (op : LogicOp) (lhs rhs : Expr)
  | binary (op : BinaryOp) (lhs rhs : Expr)

instance : Inhabited Expr := ⟨.literal .null⟩

inductive RequestField where
  | method
  | url
  | body
deriving Repr, DecidableEq

inductive Target where
  | var (scope : Scope) (key : Expr)
  | field (f : RequestField)
  | header (key : Expr)

inductive Action where
  | assign (target : Target) (value : Expr)
  | unset (target : Target)
  /-- `source` is the text of the condition. -/
  | assert (condition : Expr) (message : Option Expr) (source : String)
  | fail (message : Expr)

structure Statement where
  action : Action
  line : Nat

end RequestFlow.Hook
