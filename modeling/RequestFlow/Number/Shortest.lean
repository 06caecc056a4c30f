import RequestFlow.Number.Binary64

/-!
# RequestFlow.Number.Shortest

The shortest decimal that reads back as a given binary64 number, and its text.

A decimal reads back as `x` when it lies in the interval of quotients that `nearest` sends
to `x`. For one, two, … digits the two neighbours of `x` with that many digits are tried;
if any decimal of that length reads back, one of the neighbours does.
-/

namespace RequestFlow.Binary64

/-- The reals that round to a count, in quarters of a unit; the ends belong to it when the
significand is even. -/
structure Basin where
  low : Nat
  high : Nat
  closed : Bool
deriving Repr

def basin (units : Nat) : Basin :=
  let step := Nat.pow 2 (units.log2 - 52)
  let below := if units = 0x10000000000000 * step ∧ 1 < step then step else 2 * step
  ⟨4 * units - below, 4 * units + 2 * step, (units / step) % 2 == 0⟩

def Basin.holds (b : Basin) (num den : Nat) : Bool :=
  if b.closed then b.low * den ≤ 4 * num && 4 * num ≤ b.high * den
  else b.low * den < 4 * num && 4 * num < b.high * den

/-- `digits · 10^exponent`. -/
structure Decimal where
  digits : Nat
  exponent : Int
deriving Repr, DecidableEq

def Decimal.quotient (d : Decimal) : Nat × Nat :=
  if 0 ≤ d.exponent then (d.digits * Nat.pow 10 d.exponent.toNat * one, 1)
  else (d.digits * one, Nat.pow 10 (-d.exponent).toNat)

/-- The least `k` near the binary estimate with `units < 10^k`, in ones. -/
def magnitude (units : Nat) : Int :=
  let guess : Int := (((units.log2 : Int) - 1074) * 30103).fdiv 100000
  let below (k : Int) : Bool :=
    if 0 ≤ k then units < Nat.pow 10 k.toNat * one else units * Nat.pow 10 (-k).toNat < one
  if below guess then guess else if below (guess + 1) then guess + 1 else guess + 2

/-- The neighbour of `units` on the grid of multiples of `10^p` that reads back, if any:
of two the nearer, of two as near the even one. -/
def neighbour? (units : Nat) (p : Int) : Option Decimal :=
  let b := basin units
  let (num, den) := if 0 ≤ p then (units, Nat.pow 10 p.toNat * one) else (units * Nat.pow 10 (-p).toNat, one)
  let d := num / den
  let r := num % den
  let reads (n : Nat) : Bool :=
    let (a, c) := Decimal.quotient ⟨n, p⟩
    0 < n && b.holds a c
  match reads d, reads (d + 1) with
  | true, true =>
    if 2 * r < den ∨ (2 * r = den ∧ d % 2 = 0) then some ⟨d, p⟩ else some ⟨d + 1, p⟩
  | true, false => some ⟨d, p⟩
  | false, true => some ⟨d + 1, p⟩
  | false, false => none

def Decimal.normal : (fuel : Nat) → Decimal → Decimal
  | 0, d => d
  | fuel + 1, d =>
    if d.digits % 10 = 0 ∧ d.digits ≠ 0 then normal fuel ⟨d.digits / 10, d.exponent + 1⟩ else d

/-- The neighbour with the fewest digits, from `n` digits on. -/
def shortestFrom (units : Nat) (k : Int) : (tries : Nat) → (n : Nat) → Decimal
  | 0, n => (neighbour? units (k - n)).getD ⟨0, 0⟩
  | tries + 1, n =>
    match neighbour? units (k - n) with
    | some d => d
    | none => shortestFrom units k tries (n + 1)

def shortest (x : Binary64) : Decimal :=
  if x.units = 0 then ⟨0, 0⟩
  else (shortestFrom x.units (magnitude x.units) 17 1).normal 20

/-- Positional from `10^-5` up to `10^16`, with `.0` where there is no fraction; beyond,
one digit before the point and an exponent with its sign. -/
def Decimal.text (d : Decimal) : List Char :=
  let ds := Nat.toDigits 10 d.digits
  let scale : Int := d.exponent + ds.length - 1
  if d.digits = 0 then ['0', '.', '0']
  else if scale < -5 ∨ 16 ≤ scale then
    let head := ds.take 1
    let tail := ds.drop 1
    let mark := if scale < 0 then ['e', '-'] else ['e', '+']
    head ++ (if tail.isEmpty then [] else '.' :: tail) ++ mark ++ Nat.toDigits 10 scale.natAbs
  else if 0 ≤ d.exponent then ds ++ List.replicate d.exponent.toNat '0' ++ ['.', '0']
  else
    let places := (-d.exponent).toNat
    if ds.length ≤ places then ['0', '.'] ++ List.replicate (places - ds.length) '0' ++ ds
    else ds.take (ds.length - places) ++ '.' :: ds.drop (ds.length - places)

def text (x : Binary64) : List Char :=
  let body := x.shortest.text
  if x.negative then '-' :: body else body

end RequestFlow.Binary64
