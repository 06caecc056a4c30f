import RequestFlow.Number.Basic

/-!
# RequestFlow.Number.Literal

Numbers read from decimal text: a sign, digits with a point among or around them, and an
exponent, of which only the digits are required.

* `integer?`        — a text of a sign and digits, if the integer is in the signed range.
* `Decimal.ofText?` — a text of the general form.
* `Number.ofText?`  — the integer, or else the nearest binary64 number.
-/

namespace RequestFlow

/-- `digits · 10^exponent`. -/
structure Decimal where
  negative : Bool
  digits : Nat
  exponent : Int
deriving Repr, DecidableEq

namespace Decimal

def splitSign : List Char → Bool × List Char
  | '+' :: rest => (false, rest)
  | '-' :: rest => (true, rest)
  | s => (false, s)

def digitsValue (digits : List Char) : Nat :=
  digits.foldl (fun n d => n * 10 + (d.toNat - '0'.toNat)) 0

def allDigits (s : List Char) : Bool :=
  !s.isEmpty && s.all Char.isDigit

def exponentOf? : List Char → Option Int
  | [] => some 0
  | mark :: rest =>
    let (negative, digits) : Bool × List Char := splitSign rest
    if (mark == 'e' || mark == 'E') && allDigits digits then
      some (if negative then -(digitsValue digits : Int) else digitsValue digits)
    else none

def ofText? (s : List Char) : Option Decimal :=
  let (negative, s) : Bool × List Char := splitSign s
  let whole := s.takeWhile Char.isDigit
  let s := s.drop whole.length
  let (fraction, s) : List Char × List Char :=
    match s with
    | '.' :: rest => (rest.takeWhile Char.isDigit, rest.dropWhile Char.isDigit)
    | _ => ([], s)
  if whole.isEmpty && fraction.isEmpty then none
  else
    match exponentOf? s with
    | none => none
    | some e => some ⟨negative, digitsValue (whole ++ fraction), e - fraction.length⟩

def toDouble? (d : Decimal) : Option Binary64 :=
  Binary64.ofDecimal? d.negative d.digits d.exponent

end Decimal

namespace Number

/-- The integer of the signed range that a sign and digits denote. -/
def integer? (s : List Char) : Option Number :=
  let (negative, digits) : Bool × List Char := Decimal.splitSign s
  if Decimal.allDigits digits then
    let n := Decimal.digitsValue digits
    ofSigned? (if negative then -(n : Int) else n)
  else none

def ofText? (s : List Char) : Option Number :=
  match integer? s with
  | some n => some n
  | none => ((Decimal.ofText? s).bind Decimal.toDouble?).map .double

end Number

end RequestFlow
