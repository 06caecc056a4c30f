import RequestFlow.Json.Basic
import RequestFlow.Text.Hex

/-!
# RequestFlow.Json.Reader

Values read from JSON text. A fault carries the number of octets before the place it is
reported at; `Fault.message` turns that number into a line and a column.

* `read`    — the value of a whole text, nested at most `limit` levels deep.
* `document`— `read` with the depth that documents and hooks may use.

A number with a fraction or an exponent is its leading digits, as many as fit in 64 bits,
times or divided by a power of ten, each step rounded to the nearest binary64 number.
-/

namespace RequestFlow.Json

inductive Fault where
  | endOfList
  | endOfObject
  | endOfString
  | endOfValue
  | expectedColon
  | expectedCommaOrBracket
  | expectedCommaOrBrace
  | expectedWord
  | expectedValue
  | badEscape
  | badNumber
  | outOfRange
  | controlCharacter
  | keyNotString
  | loneSurrogate
  | trailingComma
  | trailingText
  | brokenSurrogatePair
  | tooDeep
deriving Repr, DecidableEq

def Fault.message : Fault → String
  | .endOfList => "EOF while parsing a list"
  | .endOfObject => "EOF while parsing an object"
  | .endOfString => "EOF while parsing a string"
  | .endOfValue => "EOF while parsing a value"
  | .expectedColon => "expected `:`"
  | .expectedCommaOrBracket => "expected `,` or `]`"
  | .expectedCommaOrBrace => "expected `,` or `\x7d`"
  | .expectedWord => "expected ident"
  | .expectedValue => "expected value"
  | .badEscape => "invalid escape"
  | .badNumber => "invalid number"
  | .outOfRange => "number out of range"
  | .controlCharacter => "control character (\\u0000-\\u001F) found while parsing a string"
  | .keyNotString => "key must be a string"
  | .loneSurrogate => "lone leading surrogate in hex escape"
  | .trailingComma => "trailing comma"
  | .trailingText => "trailing characters"
  | .brokenSurrogatePair => "unexpected end of hex escape"
  | .tooDeep => "recursion limit exceeded"

structure ReadError where
  fault : Fault
  index : Nat
deriving Repr, DecidableEq

/-- The line and the octets before `index` on it, both counted from the octet `at`. -/
def place (line column at_ index : Nat) : List Char → Nat × Nat
  | [] => (line, column)
  | c :: rest =>
    if index ≤ at_ then (line, column)
    else if c = '\n' then place (line + 1) 0 (at_ + 1) index rest
    else if at_ + c.utf8Size ≤ index then
      place line (column + c.utf8Size) (at_ + c.utf8Size) index rest
    else (line, column + (index - at_))

def ReadError.message (e : ReadError) (source : List Char) : String :=
  let (line, column) := place 1 0 0 e.index source
  s!"{e.fault.message} at line {line} column {column}"

/-- What is left of a text and how many octets stand before it. -/
structure Cursor where
  rest : List Char
  index : Nat

abbrev Reading (α : Type) := Except ReadError (α × Cursor)

def Cursor.here {α : Type} (c : Cursor) (f : Fault) : Reading α :=
  .error ⟨f, c.index⟩

/-- A fault reported one octet on, if there is one. -/
def Cursor.ahead {α : Type} (c : Cursor) (f : Fault) : Reading α :=
  .error ⟨f, if c.rest.isEmpty then c.index else c.index + 1⟩

def isSpace (c : Char) : Bool :=
  c == ' ' || c == '\n' || c == '\t' || c == '\r'

def skipSpace : List Char → Nat → Cursor
  | [], i => ⟨[], i⟩
  | c :: rest, i => if isSpace c then skipSpace rest (i + 1) else ⟨c :: rest, i⟩

def Cursor.skip (c : Cursor) : Cursor :=
  skipSpace c.rest c.index

/-- The remaining letters of `null`, `true` or `false`. -/
def word {α : Type} (value : α) : List Char → Cursor → Reading α
  | [], c => .ok (value, c)
  | w :: ws, ⟨x :: rest, i⟩ =>
    if x = w then word value ws ⟨rest, i + 1⟩ else .error ⟨.expectedWord, i + 1⟩
  | _ :: _, ⟨[], i⟩ => .error ⟨.endOfValue, i⟩

def digitValue (c : Char) : Nat := c.toNat - '0'.toNat

/-- The number that `digits` continue, as far as it fits in 64 bits, and how many digits
are left over. -/
def absorb (value : Nat) : List Char → Nat × Nat
  | [] => (value, 0)
  | d :: ds =>
    let next := value * 10 + digitValue d
    if next < 0x10000000000000000 then absorb next ds else (value, ds.length + 1)

/-- The nearest number to `10^k`. -/
def powerOfTen (k : Nat) : Binary64 :=
  (Binary64.ofDecimal? false 1 k).getD (.zero false)

/-- `f · 10^exponent`, by steps of at most 308. -/
def scaleBy : (steps : Nat) → Binary64 → Int → Option Binary64
  | 0, f, _ => some f
  | steps + 1, f, exponent =>
    if exponent.natAbs ≤ 308 then
      if 0 ≤ exponent then f.mul? (powerOfTen exponent.natAbs)
      else f.div? (powerOfTen exponent.natAbs)
    else if f.isZero then some f
    else if 0 ≤ exponent then none
    else (f.div? (powerOfTen 308)).bind fun g => scaleBy steps g (exponent + 308)

def scaled (negative : Bool) (significand : Nat) (exponent : Int) (c : Cursor) : Reading Number :=
  match (Binary64.ofInt? significand).bind fun f => scaleBy 4 f exponent with
  | some f => .ok (.double (if negative then f.neg else f), c)
  | none => c.here .outOfRange

/-- The digits of an exponent after the first, and whether they fit in 32 bits; the first that
does not fit is the last one read. -/
def exponentDigits (value : Nat) : List Char → Nat → Nat × Bool × Cursor
  | [], i => (value, true, ⟨[], i⟩)
  | d :: rest, i =>
    if d.isDigit then
      let next := value * 10 + digitValue d
      if next < 0x80000000 then exponentDigits next rest (i + 1)
      else (value, false, ⟨rest, i + 1⟩)
    else (value, true, ⟨d :: rest, i⟩)

def Cursor.skipDigits (c : Cursor) : Cursor :=
  let ds := c.rest.takeWhile Char.isDigit
  ⟨c.rest.drop ds.length, c.index + ds.length⟩

def exponent (negative : Bool) (significand : Nat) (start : Int) (c : Cursor) : Reading Number :=
  let (below, c) : Bool × Cursor :=
    match c.rest with
    | '+' :: rest => (false, ⟨rest, c.index + 1⟩)
    | '-' :: rest => (true, ⟨rest, c.index + 1⟩)
    | _ => (false, c)
  match c.rest with
  | [] => c.here .endOfValue
  | d :: rest =>
    if d.isDigit then
      let (value, fits, c) := exponentDigits (digitValue d) rest (c.index + 1)
      if fits then
        scaled negative significand (if below then start - value else start + value) c
      else if significand ≠ 0 ∧ !below then c.here .outOfRange
      else .ok (.double (.zero negative), c.skipDigits)
    else .error ⟨.badNumber, c.index + 1⟩

def fraction (negative : Bool) (significand : Nat) (dropped : Nat) (c : Cursor) :
    Reading Number :=
  let digits := c.rest.takeWhile Char.isDigit
  let after := c.skipDigits
  if digits.isEmpty then
    if c.rest.isEmpty then c.here .endOfValue else c.ahead .badNumber
  else
    let (value, left) := absorb significand digits
    let start : Int := dropped - (digits.length - left : Nat)
    match after.rest with
    | 'e' :: rest => exponent negative value start ⟨rest, after.index + 1⟩
    | 'E' :: rest => exponent negative value start ⟨rest, after.index + 1⟩
    | _ => scaled negative value start after

def wholeNumber (negative : Bool) (significand : Nat) (c : Cursor) : Reading Number :=
  let n : Int := if negative then -significand else significand
  if negative ∧ significand = 0 then .ok (.double (.zero true), c)
  else
    match Number.ofInt? n with
    | some k => .ok (k, c)
    | none => scaled negative significand 0 c

/-- A number whose sign has been read. -/
def number (negative : Bool) (c : Cursor) : Reading Number :=
  match c.rest with
  | [] => c.here .endOfValue
  | d :: rest =>
    if !d.isDigit then .error ⟨.badNumber, c.index + 1⟩
    else
      let digits := c.rest.takeWhile Char.isDigit
      let after := c.skipDigits
      if d = '0' ∧ 1 < digits.length then Cursor.ahead ⟨rest, c.index + 1⟩ .badNumber
      else
        let (value, left) := absorb 0 digits
        match after.rest with
        | '.' :: rest => fraction negative value left ⟨rest, after.index + 1⟩
        | 'e' :: rest => exponent negative value left ⟨rest, after.index + 1⟩
        | 'E' :: rest => exponent negative value left ⟨rest, after.index + 1⟩
        | _ => if left = 0 then wholeNumber negative value after else scaled negative value left after

def hexEscape (c : Cursor) : Reading Nat :=
  match (c.rest.take 4).map Text.hexDigit? with
  | [some a, some b, some d, some e] =>
    .ok (((a * 16 + b) * 16 + d) * 16 + e, ⟨c.rest.drop 4, c.index + 4⟩)
  | _ =>
    let size := (c.rest.take 4).foldl (fun size x => size + x.utf8Size) 0
    if 4 ≤ size then .error ⟨.badEscape, c.index + 4⟩ else .error ⟨.endOfString, c.index + size⟩

/-- The second half of a surrogate pair whose first half is `high`. -/
def lowSurrogate (high : Nat) (c : Cursor) : Reading Char :=
  match c.rest with
  | [] => c.here .endOfString
  | '\\' :: rest =>
    match rest with
    | [] => .error ⟨.endOfString, c.index + 1⟩
    | 'u' :: rest =>
      match hexEscape ⟨rest, c.index + 2⟩ with
      | .error e => .error e
      | .ok (low, after) =>
        if low < 0xDC00 ∨ 0xDFFF < low then after.here .loneSurrogate
        else .ok (Char.ofNat ((high - 0xD800) * 1024 + (low - 0xDC00) + 0x10000), after)
    | _ :: _ => .error ⟨.brokenSurrogatePair, c.index + 2⟩
  | _ :: _ => .error ⟨.brokenSurrogatePair, c.index + 1⟩

/-- The character of an escape whose backslash has been read. -/
def escape (c : Cursor) : Reading Char :=
  match c.rest with
  | [] => c.here .endOfString
  | x :: rest =>
    let after : Cursor := ⟨rest, c.index + 1⟩
    match x with
    | '"' => .ok ('"', after)
    | '\\' => .ok ('\\', after)
    | '/' => .ok ('/', after)
    | 'b' => .ok ('\x08', after)
    | 'f' => .ok ('\x0c', after)
    | 'n' => .ok ('\n', after)
    | 'r' => .ok ('\r', after)
    | 't' => .ok ('\t', after)
    | 'u' =>
      match hexEscape after with
      | .error e => .error e
      | .ok (n, after) =>
        if 0xDC00 ≤ n ∧ n ≤ 0xDFFF then after.here .loneSurrogate
        else if 0xD800 ≤ n ∧ n ≤ 0xDBFF then lowSurrogate n after
        else .ok (Char.ofNat n, after)
    | _ => .error ⟨.badEscape, c.index + 1⟩

def stringRest : (fuel : Nat) → List Char → Cursor → Reading String
  | 0, _, c => c.here .endOfString
  | fuel + 1, acc, c =>
    match c.rest with
    | [] => c.here .endOfString
    | '"' :: rest => .ok (String.ofList acc.reverse, ⟨rest, c.index + 1⟩)
    | '\\' :: rest =>
      match escape ⟨rest, c.index + 1⟩ with
      | .error e => .error e
      | .ok (x, after) => stringRest fuel (x :: acc) after
    | x :: rest =>
      if x.toNat < 0x20 then .error ⟨.controlCharacter, c.index + 1⟩
      else stringRest fuel (x :: acc) ⟨rest, c.index + x.utf8Size⟩

def string (c : Cursor) : Reading String :=
  stringRest (c.rest.length + 1) [] c

def items (item : Cursor → Reading Json) :
    (fuel : Nat) → (first : Bool) → List Json → Cursor → Reading (List Json)
  | 0, _, _, c => c.here .endOfList
  | fuel + 1, first, acc, c =>
    let c := c.skip
    let next (c : Cursor) : Reading (List Json) :=
      match item c with
      | .error e => .error e
      | .ok (v, after) => items item fuel false (v :: acc) after
    match c.rest with
    | [] => c.ahead .endOfList
    | ']' :: rest => .ok (acc.reverse, ⟨rest, c.index + 1⟩)
    | x :: rest =>
      if first then next c
      else if x = ',' then
        let c := Cursor.skip ⟨rest, c.index + 1⟩
        match c.rest with
        | [] => c.ahead .endOfValue
        | ']' :: _ => c.ahead .trailingComma
        | _ => next c
      else c.ahead .expectedCommaOrBracket

def fields (item : Cursor → Reading Json) :
    (fuel : Nat) → (first : Bool) → List (String × Json) → Cursor → Reading (List (String × Json))
  | 0, _, _, c => c.here .endOfObject
  | fuel + 1, first, acc, c =>
    let c := c.skip
    let next (c : Cursor) : Reading (List (String × Json)) :=
      match string c with
      | .error e => .error e
      | .ok (key, after) =>
        let c := after.skip
        match c.rest with
        | [] => c.ahead .endOfObject
        | ':' :: rest =>
          match item ⟨rest, c.index + 1⟩ with
          | .error e => .error e
          | .ok (v, after) => fields item fuel false ((key, v) :: acc) after
        | _ => c.ahead .expectedColon
    match c.rest with
    | [] => c.ahead .endOfObject
    | '}' :: rest => .ok (acc.reverse, ⟨rest, c.index + 1⟩)
    | x :: rest =>
      if first then
        if x = '"' then next ⟨rest, c.index + 1⟩ else c.ahead .keyNotString
      else if x = ',' then
        let c := Cursor.skip ⟨rest, c.index + 1⟩
        match c.rest with
        | [] => c.ahead .endOfValue
        | '"' :: rest => next ⟨rest, c.index + 1⟩
        | '}' :: _ => c.ahead .trailingComma
        | _ => c.ahead .keyNotString
      else c.ahead .expectedCommaOrBrace

/-- A value whose arrays and objects may be `depth` levels deep. -/
def value : (depth : Nat) → Cursor → Reading Json
  | depth, c =>
    let c := c.skip
    match c.rest with
    | [] => c.ahead .endOfValue
    | x :: rest =>
      let after : Cursor := ⟨rest, c.index + 1⟩
      match x with
      | 'n' => word .null ['u', 'l', 'l'] after
      | 't' => word (.bool true) ['r', 'u', 'e'] after
      | 'f' => word (.bool false) ['a', 'l', 's', 'e'] after
      | '-' => (number true after).map fun (n, c) => (.num n, c)
      | '"' => (string after).map fun (s, c) => (.str s, c)
      | '[' =>
        match depth with
        | 0 => c.ahead .tooDeep
        | depth + 1 =>
          (items (value depth) (rest.length + 1) true [] after).map fun (vs, c) => (.arr vs, c)
      | '{' =>
        match depth with
        | 0 => c.ahead .tooDeep
        | depth + 1 =>
          (fields (value depth) (rest.length + 1) true [] after).map fun (fs, c) =>
            (Json.ofFields fs, c)
      | _ =>
        if x.isDigit then (number false c).map fun (n, c) => (.num n, c)
        else c.ahead .expectedValue

def read (limit : Nat) (s : List Char) : Except ReadError Json :=
  match value limit ⟨s, 0⟩ with
  | .error e => .error e
  | .ok (v, c) =>
    let c := c.skip
    if c.rest.isEmpty then .ok v else .error ⟨.trailingText, c.index + 1⟩

def depthLimit : Nat := 127

def document (s : List Char) : Except ReadError Json :=
  read depthLimit s

end RequestFlow.Json
