import RequestFlow.Json.Printer

/-!
# RequestFlow.Json.Compare

How values are tested, compared and shown.

* `truthy`   — false for null, zero and whatever is empty.
* `eqv`      — deep equality; numbers are equal when their nearest binary64 numbers are.
* `compare?` — the order of two numbers or two strings; other pairs have none.
* `display`  — a string bare, null as nothing, all else as JSON.
-/

namespace RequestFlow.Json

def truthy : Json → Bool
  | .null => false
  | .bool b => b
  | .num n => !n.isZero
  | .str s => !s.isEmpty
  | .arr items => !items.isEmpty
  | .obj fields => !fields.isEmpty

mutual

/-- Objects are equal when they have as many fields and each field of the first has an
equal one of its name in the second. -/
def eqv : Json → Json → Bool
  | .null, .null => true
  | .bool a, .bool b => a == b
  | .num a, .num b => a.compare b == .eq
  | .str a, .str b => a == b
  | .arr a, .arr b => eqvItems a b
  | .obj a, .obj b => a.length == b.length && eqvFields a b
  | _, _ => false

def eqvItems : List Json → List Json → Bool
  | [], [] => true
  | x :: xs, y :: ys => eqv x y && eqvItems xs ys
  | _, _ => false

def eqvFields : List (String × Json) → List (String × Json) → Bool
  | [], _ => true
  | (k, v) :: rest, other =>
    (match Dict.get? other k with
      | some w => eqv v w
      | none => false) && eqvFields rest other

end

def compare? : Json → Json → Option Ordering
  | .num a, .num b => some (a.compare b)
  | .str a, .str b => some (compareOfLessAndEq a b)
  | _, _ => none

def display : Json → String
  | .str s => s
  | .null => ""
  | v => v.text

end RequestFlow.Json
