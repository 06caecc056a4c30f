/-!
# RequestFlow.Text.Hex

Hexadecimal digits.
-/

namespace RequestFlow.Text

def hexDigit (n : Nat) : Char :=
  Nat.digitChar (n % 16)

def hexDigit? (c : Char) : Option Nat :=
  if c.isDigit then some (c.toNat - '0'.toNat)
  else if 'a' ≤ c ∧ c ≤ 'f' then some (c.toNat - 'a'.toNat + 10)
  else if 'A' ≤ c ∧ c ≤ 'F' then some (c.toNat - 'A'.toNat + 10)
  else none

/-- The number that digits denote in a base of at most 16. -/
def digitsIn? (base : Nat) (s : List Char) : Option Nat :=
  s.foldl (fun n c =>
    match n, hexDigit? c with
    | some n, some d => if d < base then some (n * base + d) else none
    | _, _ => none) (some 0)

end RequestFlow.Text
