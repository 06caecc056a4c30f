import RequestFlow.Dict
import RequestFlow.Text.Utf8

/-!
# RequestFlow.Document.Leaf

A leaf is one named unit of work: an optional request, the hooks around it and what it
depends on. A document is a list of leaves in the order of their declaration.
-/

namespace RequestFlow

open Text.Utf8 (Bytes)

/-- The name of the anonymous block. -/
def globalName : String := "global"

structure Request where
  method : String
  url : String
  headers : Dict String := []
  body : Bytes := []
deriving Repr, DecidableEq

structure Leaf where
  name : String
  /-- Absent when the block declares no request. -/
  request : Option Request := none
  /-- Hook source run before the request. -/
  before : String := ""
  /-- Hook source run after it. -/
  after : String := ""
  dependsOn : List String := []
  imports : List String := []
  mandatory : Bool := false
deriving Repr, DecidableEq

namespace Leaf

def isGlobal (leaf : Leaf) : Bool :=
  leaf.name == globalName

def hasHooks (leaf : Leaf) : Bool :=
  !leaf.before.isEmpty || !leaf.after.isEmpty

end Leaf

structure Document where
  leaves : List Leaf
deriving Repr, DecidableEq

namespace Document

def position? (d : Document) (name : String) : Option Nat :=
  d.leaves.findIdx? (·.name == name)

def get? (d : Document) (name : String) : Option Leaf :=
  d.leaves.find? (·.name == name)

def names (d : Document) : List String :=
  d.leaves.map (·.name)

def global? (d : Document) : Option Leaf :=
  d.get? globalName

end Document

end RequestFlow
