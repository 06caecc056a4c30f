import RequestFlow.Number.Shortest

/-!
# RequestFlow.Number.Basic

Numbers of the value language: integers that fit in 64 bits, signed or unsigned, and
binary64 numbers.

Comparison goes by the nearest binary64 numbers. Sums, differences and negation stay
integers as long as operands and result fit in the signed range, and are binary64
operations otherwise.
-/

namespace RequestFlow

/-- The integers from the least signed to the greatest unsigned 64-bit one. -/
def FitsWord (n : Int) : Prop :=
  -0x8000000000000000 ≤ n ∧ n < 0x10000000000000000

instance (n : Int) : Decidable (FitsWord n) := by
  unfold FitsWord; infer_instance

inductive Number where
  | int (n : Int) (fits : FitsWord n)
  | double (x : Binary64)
deriving DecidableEq

namespace Number

def ofInt? (n : Int) : Option Number :=
  if h : FitsWord n then some (.int n h) else none

/-- A natural number, at the greatest unsigned one if it lies beyond. -/
def ofNat (n : Nat) : Number :=
  if h : FitsWord n then .int n h else .int (0xFFFFFFFFFFFFFFFF) (by decide)

/-- The integers of the signed range. -/
def signed? : Number → Option Int
  | .int n _ => if n < 0x8000000000000000 then some n else none
  | .double _ => none

/-- The integers from zero on. -/
def index? : Number → Option Nat
  | .int n _ => if 0 ≤ n then some n.toNat else none
  | .double _ => none

def toDouble : Number → Binary64
  | .int n _ => (Binary64.ofInt? n).getD (.zero false)
  | .double x => x

def isZero (a : Number) : Bool :=
  a.toDouble.isZero

def compare (a b : Number) : Ordering :=
  a.toDouble.compare b.toDouble

def ofSigned? (n : Int) : Option Number :=
  if -0x8000000000000000 ≤ n ∧ n < 0x8000000000000000 then ofInt? n else none

/-- `exact` on two integers of the signed range when its value stays there, `rounded` on
the nearest binary64 numbers otherwise. -/
def combine (exact : Int → Int → Int) (rounded : Binary64 → Binary64 → Option Binary64)
    (a b : Number) : Option Number :=
  let wide := (rounded a.toDouble b.toDouble).map .double
  match a.signed?, b.signed? with
  | some x, some y =>
    match ofSigned? (exact x y) with
    | some r => some r
    | none => wide
  | _, _ => wide

def add? (a b : Number) : Option Number :=
  combine (· + ·) Binary64.add? a b

def sub? (a b : Number) : Option Number :=
  combine (· - ·) Binary64.sub? a b

def neg (a : Number) : Number :=
  match a.signed?.bind fun n => ofSigned? (-n) with
  | some r => r
  | none => .double a.toDouble.neg

def text : Number → List Char
  | .int n _ => (if n < 0 then ['-'] else []) ++ Nat.toDigits 10 n.natAbs
  | .double x => x.text

end Number

end RequestFlow
