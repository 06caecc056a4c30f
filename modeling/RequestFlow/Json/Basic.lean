import RequestFlow.Dict
import RequestFlow.Number.Basic

/-!
# RequestFlow.Json.Basic

The values of variables, hooks and reports.

* `Json.get?`     — a field of an object.
* `Json.kind`     — the name of a value's kind, as messages give it.
* `Json.Canonical`— the fields of every object in it are in the order of their names.
-/

namespace RequestFlow

inductive Json where
  | null
  | bool (b : Bool)
  | num (n : Number)
  | str (s : String)
  | arr (items : List Json)
  | obj (fields : List (String × Json))

/-- Variables by name. -/
abbrev Vars := Dict Json

namespace Json

instance : Inhabited Json := ⟨.null⟩

def nat (n : Nat) : Json := .num (.ofNat n)

def kind : Json → String
  | .null => "null"
  | .bool _ => "bool"
  | .num _ => "number"
  | .str _ => "string"
  | .arr _ => "array"
  | .obj _ => "object"

/-- An object; of two fields with one name the later counts. -/
def ofFields (fields : List (String × Json)) : Json :=
  .obj (Dict.ofList fields)

def get? (v : Json) (name : String) : Option Json :=
  match v with
  | .obj fields => Dict.get? fields name
  | _ => none

def str? : Json → Option String
  | .str s => some s
  | _ => none

mutual

def Canonical : Json → Prop
  | .arr items => AllCanonical items
  | .obj fields => Dict.Ordered fields ∧ FieldsCanonical fields
  | _ => True

def AllCanonical : List Json → Prop
  | [] => True
  | v :: rest => Canonical v ∧ AllCanonical rest

def FieldsCanonical : List (String × Json) → Prop
  | [] => True
  | (_, v) :: rest => Canonical v ∧ FieldsCanonical rest

end

end Json

end RequestFlow
