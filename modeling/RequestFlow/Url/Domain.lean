import RequestFlow.Text.Casing
import RequestFlow.Url.Basic

/-!
# RequestFlow.Url.Domain

Domain names in ASCII. A label with other characters is written in Punycode after `xn--`.

* `Punycode.encode` — a label's characters as a bootstring.
* `toAscii`         — the ASCII form of a domain.
-/

namespace RequestFlow.Url

namespace Punycode

def digitChar (d : Nat) : Char :=
  if d < 26 then Char.ofNat (0x61 + d) else Char.ofNat (0x30 + (d - 26))

def digitValue? (c : Char) : Option Nat :=
  if c.isLower then some (c.toNat - 0x61)
  else if c.isUpper then some (c.toNat - 0x41)
  else if c.isDigit then some (c.toNat - 0x30 + 26)
  else none

/-- The least digit value that goes on with the number, at the digit place `k`. -/
def threshold (k bias : Nat) : Nat :=
  max 1 (min 26 (k - bias))

/-- Divides by 35 until at most 455 is left; counts the divisions. -/
def shrink (delta steps : Nat) : Nat × Nat :=
  if 455 < delta then shrink (delta / 35) (steps + 1) else (delta, steps)
termination_by delta
decreasing_by exact Nat.div_lt_self (by omega) (by omega)

/-- The bias after a difference was written as the `count`-th. -/
def adapt (delta count : Nat) (isFirst : Bool) : Nat :=
  let delta := if isFirst then delta / 700 else delta / 2
  let (rest, steps) := shrink (delta + delta / count) 0
  36 * steps + 36 * rest / (rest + 38)

/-- A difference in digits of base 36 with thresholds. -/
def digits (bias k q : Nat) : List Char :=
  let t := threshold k bias
  if q < t then [digitChar q]
  else digitChar (t + (q - t) % (36 - t)) :: digits bias (k + 36) ((q - t) / (36 - t))
termination_by q
decreasing_by
  have h₁ : 1 ≤ threshold k bias := by unfold threshold; omega
  have h₂ := Nat.div_le_self (q - threshold k bias) (36 - threshold k bias)
  omega

structure Encoder where
  delta : Nat
  bias : Nat
  /-- How many characters have been written. -/
  written : Nat
  output : List Char

def Encoder.pass (basic m : Nat) (e : Encoder) (c : Char) : Encoder :=
  if c.toNat < m then { e with delta := e.delta + 1 }
  else if c.toNat = m then
    { delta := 0, bias := adapt e.delta (e.written + 1) (e.written == basic),
      written := e.written + 1, output := e.output ++ digits e.bias 36 e.delta }
  else e

/-- Writes the characters of the values given, which ascend; `n` is the least value not yet
passed. -/
def Encoder.writeAll (label : List Char) (basic : Nat) : (n : Nat) → List Nat → Encoder → Encoder
  | _, [], e => e
  | n, m :: rest, e =>
    let e := { e with delta := e.delta + (m - n) * (e.written + 1) }
    let e := label.foldl (Encoder.pass basic m) e
    writeAll label basic (m + 1) rest { e with delta := e.delta + 1 }

def encode (label : List Char) : List Char :=
  let basic := label.filter fun c => c.toNat < 0x80
  let others := (((label.map Char.toNat).filter (0x80 ≤ ·)).mergeSort (· ≤ ·)).eraseDups
  let e := Encoder.writeAll label basic.length 0x80 others ⟨0, 72, basic.length, []⟩
  (if basic.isEmpty then [] else basic ++ ['-']) ++ e.output

def difference (bias : Nat) : (k weight value : Nat) → List Char → Option (Nat × List Char)
  | _, _, _, [] => none
  | k, weight, value, c :: rest =>
    match digitValue? c with
    | none => none
    | some d =>
      let t := threshold k bias
      let value := value + d * weight
      if d < t then some (value, rest)
      else difference bias (k + 36) (weight * (36 - t)) value rest

def insertAll : (fuel n i bias : Nat) → List Char → List Char → Option (List Char)
  | 0, _, _, _, _, _ => none
  | _, _, _, _, read, [] => some read
  | fuel + 1, n, i, bias, read, c :: rest =>
    match difference bias 36 1 0 (c :: rest) with
    | none => none
    | some (delta, rest) =>
      let count := read.length + 1
      let n := n + (i + delta) / count
      let at_ := (i + delta) % count
      if 0x110000 ≤ n ∨ (0xD800 ≤ n ∧ n < 0xE000) then none
      else
        insertAll fuel n (at_ + 1) (adapt delta count (i == 0 && read.all (·.toNat < 0x80)))
          (read.take at_ ++ Char.ofNat n :: read.drop at_) rest

def decode? (s : List Char) : Option (List Char) :=
  let after := (s.reverse.takeWhile (· != '-')).reverse
  let basic := (s.take (s.length - after.length)).dropLast
  if after.isEmpty then none else insertAll (s.length + 1) 0x80 0 72 basic after

end Punycode

open Text

def isIgnored (c : Char) : Bool :=
  [0xAD, 0x200B, 0x2060, 0xFEFF].contains c.toNat || (0xFE00 ≤ c.toNat && c.toNat ≤ 0xFE0F)

/-- A character in lower case and in its ordinary width. -/
def mapChar (c : Char) : List Char :=
  let n := c.toNat
  let c := if 0xFF01 ≤ n ∧ n ≤ 0xFF5E then Char.ofNat (n - 0xFEE0) else c
  if n = 0x3002 ∨ n = 0xFF61 then ['.']
  else if n = 0x1E9E then ['s', 's']
  else if isIgnored c then []
  else mapCase CaseTable.lowerLong CaseTable.lower c

def isForbidden (c : Char) : Bool :=
  c.toNat ≤ 0x20 || c.toNat == 0x7F || "%#/:<>?@[\\]^|".toList.contains c

def isJoiner (c : Char) : Bool :=
  c.toNat == 0x200C || c.toNat == 0x200D

def isDomainChar (c : Char) : Bool :=
  let n := c.toNat
  isLetter n || isMark n || Category.decimalDigits.has n || Category.letterNumbers.has n ||
    Category.otherNumbers.has n || Category.otherSymbols.has n || Category.mathSymbols.has n ||
    Category.currencySymbols.has n || Category.otherPunctuation.has n ||
    Category.dashes.has n || isJoiner c

/-- Signs that take the vowel from the letter before them. -/
def vowelKillers : Runs := #[
  (0x94D, 0xB4D, 0x80), (0xBCD, 0xD4D, 0x80), (0xD3B, 0xD3C, 1), (0xDCA, 0xDCA, 1),
  (0xE3A, 0xEBA, 0x80), (0xF84, 0xF84, 1), (0x1039, 0x103A, 1), (0x1714, 0x1715, 1),
  (0x1734, 0x1734, 1), (0x17D2, 0x17D2, 1), (0x1A60, 0x1A60, 1), (0x1B44, 0x1B44, 1),
  (0x1BAA, 0x1BAB, 1), (0x1BF2, 0x1BF3, 1), (0x2D7F, 0x2D7F, 1), (0xA806, 0xA806, 1),
  (0xA82C, 0xA82C, 1), (0xA8C4, 0xA8C4, 1), (0xA953, 0xA953, 1), (0xA9C0, 0xA9C0, 1),
  (0xAAF6, 0xAAF6, 1), (0xABED, 0xABED, 1), (0x10A3F, 0x10A3F, 1), (0x11046, 0x11046, 1),
  (0x11070, 0x11070, 1), (0x1107F, 0x1107F, 1), (0x110B9, 0x110B9, 1), (0x11133, 0x11134, 1),
  (0x111C0, 0x111C0, 1), (0x11235, 0x11235, 1), (0x112EA, 0x112EA, 1), (0x1134D, 0x1134D, 1),
  (0x11442, 0x11442, 1), (0x114C2, 0x114C2, 1), (0x115BF, 0x1163F, 0x80),
  (0x116B6, 0x116B6, 1), (0x1172B, 0x1172B, 1), (0x11839, 0x11839, 1), (0x1193D, 0x1193E, 1),
  (0x119E0, 0x119E0, 1), (0x11A34, 0x11A34, 1), (0x11A47, 0x11A47, 1), (0x11A99, 0x11A99, 1),
  (0x11C3F, 0x11C3F, 1), (0x11D44, 0x11D45, 1), (0x11D97, 0x11D97, 1)]

/-- Whether each joiner follows a vowel killer; `before` is the character in front. -/
def joinersFit (before : Char) : List Char → Bool
  | [] => true
  | c :: rest => (!isJoiner c || vowelKillers.has before.toNat) && joinersFit c rest

/-- Whether characters, not all of them ASCII, form a label: each is one that mapping leaves
alone, and the first is no mark. -/
def isLabel (s : List Char) : Bool :=
  s.any (0x80 ≤ ·.toNat) &&
    s.all (fun c => mapChar c == [c] && (c.toNat < 0x80 || isDomainChar c)) &&
    !((s.head?.map fun c => isMark c.toNat).getD false) && joinersFit 'a' s

def labelToAscii? (label : List Char) : Option (List Char) :=
  if label.any isForbidden then none
  else
    match label with
    | 'x' :: 'n' :: '-' :: '-' :: rest =>
      if label.all (·.toNat < 0x80) && ((Punycode.decode? rest).map isLabel).getD false then
        some label
      else none
    | _ =>
      if label.all (·.toNat < 0x80) then some label
      else if isLabel label then some ("xn--".toList ++ Punycode.encode label)
      else none

def toAscii (domain : List Char) : Except Error (List Char) :=
  match ((domain.flatMap mapChar).splitOn '.').mapM labelToAscii? with
  | none => .error .invalidDomain
  | some labels => .ok (['.'].intercalate labels)

end RequestFlow.Url
