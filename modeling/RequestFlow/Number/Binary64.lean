/-!
# RequestFlow.Number.Binary64

Finite binary64 numbers. Every one of them is a whole multiple of `2^-1074`, so a number
is a sign and a count of that unit, and its arithmetic is exact integer arithmetic
followed by one rounding.

* `nearest`      — the count nearest to a quotient, ties to the even significand.
* `ofQuotient?`  — the number nearest to a quotient; `none` beyond the largest one.
* `add?`, `sub?`, `mul?`, `div?` — the exact result, rounded.
-/

namespace RequestFlow

/-- A count of units with at most 53 significant bits, below `2^1024`. -/
def Representable (units : Nat) : Prop :=
  units < Nat.pow 2 2098 ∧ units % Nat.pow 2 (units.log2 - 52) = 0

instance (units : Nat) : Decidable (Representable units) := by
  unfold Representable; infer_instance

structure Binary64 where
  negative : Bool
  units : Nat
  representable : Representable units
deriving DecidableEq

namespace Binary64

/-- How many units make one. -/
def one : Nat := Nat.pow 2 1074

/-- The count nearest to `num / den` among those with at most 53 significant bits. -/
def nearest (num den : Nat) : Nat :=
  let step := Nat.pow 2 ((num / den).log2 - 52)
  let q := num / (den * step)
  let r := num % (den * step)
  if den * step < 2 * r ∨ (2 * r = den * step ∧ q % 2 = 1) then (q + 1) * step else q * step

def ofUnits? (negative : Bool) (units : Nat) : Option Binary64 :=
  if h : Representable units then some ⟨negative, units, h⟩ else none

/-- The number nearest to `num / den` units. -/
def ofQuotient? (negative : Bool) (num den : Nat) : Option Binary64 :=
  ofUnits? negative (nearest num den)

def zero (negative : Bool) : Binary64 :=
  ⟨negative, 0, by simp only [Nat.pow_eq, Nat.two_pow_pos], Nat.zero_mod _⟩

/-- The value in units. -/
def signed (x : Binary64) : Int :=
  if x.negative then -(x.units : Int) else x.units

def neg (x : Binary64) : Binary64 :=
  { x with negative := !x.negative }

def isZero (x : Binary64) : Bool :=
  x.units == 0

/-- A sum of zeros is negative only when both are; any other zero sum is positive. -/
def add? (x y : Binary64) : Option Binary64 :=
  let s := x.signed + y.signed
  if s = 0 then some (zero (x.isZero && y.isZero && x.negative && y.negative))
  else ofQuotient? (s < 0) s.natAbs 1

def sub? (x y : Binary64) : Option Binary64 :=
  add? x y.neg

def mul? (x y : Binary64) : Option Binary64 :=
  ofQuotient? (x.negative != y.negative) (x.units * y.units) one

def div? (x y : Binary64) : Option Binary64 :=
  ofQuotient? (x.negative != y.negative) (x.units * one) y.units

def ofInt? (n : Int) : Option Binary64 :=
  ofQuotient? (n < 0) (n.natAbs * one) 1

/-- The number nearest to `digits · 10^exponent`; `none` beyond the largest one. -/
def ofDecimal? (negative : Bool) (digits : Nat) (exponent : Int) : Option Binary64 :=
  let size := (Nat.toDigits 10 digits).length + exponent
  if digits = 0 ∨ size < -400 then some (zero negative)
  else if 400 < size then none
  else if 0 ≤ exponent then ofQuotient? negative (digits * Nat.pow 10 exponent.toNat * one) 1
  else ofQuotient? negative (digits * one) (Nat.pow 10 (-exponent).toNat)

def compare (x y : Binary64) : Ordering :=
  Ord.compare x.signed y.signed

end Binary64

end RequestFlow
