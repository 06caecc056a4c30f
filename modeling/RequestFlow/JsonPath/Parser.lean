import RequestFlow.JsonPath.Basic
import RequestFlow.Number.Literal

/-!
# RequestFlow.JsonPath.Parser

Paths read from text, such as `$.store.book[?@.price < 10]['title']`.

* `pathOver`   — a path whose filters a given reader reads.
* `condition`  — a filter's condition, nested as deep as the text allows.
* `Path.ofText?` — the path of a whole text.
-/

namespace RequestFlow.JsonPath

abbrev Scan (α : Type) := Option (α × List Char)

def skipBlanks (s : List Char) : List Char :=
  s.dropWhile fun c => c == ' ' || c == '\t' || c == '\n' || c == '\r'

/-- The text after `word`, if the text starts with it. -/
def after? (word : String) (s : List Char) : Option (List Char) :=
  word.toList.isPrefixOf? s

/-! ### Names, strings and numbers -/

def isNameStart (c : Char) : Bool :=
  c.isAlpha || c == '_' || 0x80 ≤ c.toNat

def isNameChar (c : Char) : Bool :=
  isNameStart c || c.isDigit

def plainName (s : List Char) : Scan String :=
  match s with
  | c :: _ =>
    if isNameStart c then
      let name := s.takeWhile isNameChar
      some (String.ofList name, s.drop name.length)
    else none
  | [] => none

def unit? : List Char → Scan Nat
  | a :: b :: c :: d :: rest =>
    (Text.digitsIn? 16 [a, b, c, d]).map fun n => (n, rest)
  | _ => none

/-- The character of `\u` and its digits; above U+FFFF it takes two such escapes. -/
def unicodeEscape (s : List Char) : Scan Char :=
  match unit? s with
  | none => none
  | some (high, rest) =>
    if 0xD800 ≤ high ∧ high < 0xDC00 then
      match rest with
      | '\\' :: 'u' :: rest =>
        match unit? rest with
        | some (low, rest) =>
          if 0xDC00 ≤ low ∧ low < 0xE000 then
            some (Char.ofNat (0x10000 + (high - 0xD800) * 0x400 + (low - 0xDC00)), rest)
          else none
        | none => none
      | _ => none
    else (Pattern.charOf? high).map fun c => (c, rest)

def stringRest (quote : Char) : (fuel : Nat) → List Char → List Char → Scan String
  | 0, _, _ => none
  | fuel + 1, read, s =>
    match s with
    | [] => none
    | '\\' :: rest =>
      match rest with
      | 'u' :: rest =>
        match unicodeEscape rest with
        | some (c, rest) => stringRest quote fuel (c :: read) rest
        | none => none
      | c :: rest =>
        let next (c : Char) := stringRest quote fuel (c :: read) rest
        match c with
        | 'b' => next '\x08'
        | 't' => next '\t'
        | 'n' => next '\n'
        | 'f' => next '\x0c'
        | 'r' => next '\r'
        | '/' => next '/'
        | '\\' => next '\\'
        | c => if c = quote then next c else none
      | [] => none
    | c :: rest =>
      if c = quote then some (String.ofList read.reverse, rest)
      else if c.toNat < 0x20 then none
      else stringRest quote fuel (c :: read) rest

def string (s : List Char) : Scan String :=
  match s with
  | '"' :: rest => stringRest '"' s.length [] rest
  | '\'' :: rest => stringRest '\'' s.length [] rest
  | _ => none

/-- The digits of an integer, without needless zeros. -/
def integerText (s : List Char) : Scan (List Char) :=
  let (sign, rest) : List Char × List Char :=
    match s with
    | '-' :: rest => (['-'], rest)
    | _ => ([], s)
  let digits := rest.takeWhile Char.isDigit
  let rest := rest.drop digits.length
  match digits with
  | [] => none
  | '0' :: more => if more.isEmpty && sign.isEmpty then some (['0'], rest) else none
  | _ => some (sign ++ digits, rest)

/-- The greatest integer whose neighbours binary64 tells apart. -/
def integerLimit : Int := 0x1FFFFFFFFFFFFF

def integer (s : List Char) : Scan Int :=
  match integerText s with
  | none => none
  | some (text, rest) =>
    match text with
    | '-' :: digits => bounded (-(Decimal.digitsValue digits : Int)) rest
    | digits => bounded (Decimal.digitsValue digits) rest
where
  bounded (n : Int) (rest : List Char) : Scan Int :=
    if n.natAbs ≤ integerLimit then some (n, rest) else none

/-- A literal number; unlike an index it may be `-0` and have a fraction and an exponent. -/
def number (s : List Char) : Scan Json :=
  let whole : Scan (List Char) :=
    match s with
    | '-' :: '0' :: rest =>
      if (rest.head?.map Char.isDigit).getD false then none else some (['-', '0'], rest)
    | _ => integerText s
  match whole with
  | none => none
  | some (whole, rest) =>
    let fraction : List Char :=
      match rest with
      | '.' :: rest =>
        let digits := rest.takeWhile Char.isDigit
        if digits.isEmpty then [] else '.' :: digits
      | _ => []
    let rest := rest.drop fraction.length
    let exponent : List Char :=
      match rest with
      | mark :: rest =>
        let sign := if rest.head? == some '+' || rest.head? == some '-' then rest.take 1 else []
        let digits := (rest.drop sign.length).takeWhile Char.isDigit
        if (mark == 'e' || mark == 'E') && !digits.isEmpty then mark :: sign ++ digits else []
      | [] => []
    match Number.ofText? (whole ++ fraction ++ exponent) with
    | some n => some (.num n, rest.drop exponent.length)
    | none => none

/-! ### Selectors and segments -/

abbrev ConditionReader := List Char → Scan Condition

/-- A slice from its first colon on. -/
def sliceRest (start : Option Int) (s : List Char) : Scan Selector :=
  match skipBlanks s with
  | ':' :: rest =>
    let (stop, rest) : Option Int × List Char :=
      match integer (skipBlanks rest) with
      | some (n, rest) => (some n, rest)
      | none => (none, rest)
    match skipBlanks rest with
    | ':' :: after =>
      match integer (skipBlanks after) with
      | some (n, rest) => some (.slice start stop n, rest)
      | none => some (.slice start stop 1, after)
    | _ => some (.slice start stop 1, rest)
  | _ => none

def selector (filter : ConditionReader) (s : List Char) : Scan Selector :=
  match s with
  | '*' :: rest => some (.wildcard, rest)
  | '?' :: rest =>
    match filter (skipBlanks rest) with
    | some (c, rest) => some (.filter c, rest)
    | none => none
  | '"' :: _ | '\'' :: _ => (string s).map fun (name, rest) => (.name name, rest)
  | ':' :: _ => sliceRest none s
  | _ =>
    match integer s with
    | none => none
    | some (n, rest) =>
      match sliceRest (some n) rest with
      | some r => some r
      | none => some (.index n, rest)

def moreSelectors (filter : ConditionReader) :
    (fuel : Nat) → List Selector → List Char → Scan (List Selector)
  | 0, _, _ => none
  | fuel + 1, read, s =>
    match skipBlanks s with
    | ']' :: rest => some (read.reverse, rest)
    | ',' :: rest =>
      match selector filter (skipBlanks rest) with
      | some (item, rest) => moreSelectors filter fuel (item :: read) rest
      | none => none
    | _ => none

def selectors (filter : ConditionReader) (s : List Char) : Scan (List Selector) :=
  match selector filter (skipBlanks s) with
  | some (item, rest) => moreSelectors filter s.length [item] rest
  | none => none

def shorthand (s : List Char) : Scan (List Selector) :=
  match s with
  | '*' :: rest => some ([.wildcard], rest)
  | _ => (plainName s).map fun (name, rest) => ([.name name], rest)

def segment (filter : ConditionReader) (s : List Char) : Scan Segment :=
  match s with
  | '[' :: rest => (selectors filter rest).map fun (items, rest) => (.mk false items, rest)
  | '.' :: '.' :: '[' :: rest =>
    (selectors filter rest).map fun (items, rest) => (.mk true items, rest)
  | '.' :: '.' :: rest => (shorthand rest).map fun (items, rest) => (.mk true items, rest)
  | '.' :: rest => (shorthand rest).map fun (items, rest) => (.mk false items, rest)
  | _ => none

def segments (filter : ConditionReader) : (fuel : Nat) → List Char → List Segment × List Char
  | 0, s => ([], s)
  | fuel + 1, s =>
    match segment filter (skipBlanks s) with
    | none => ([], s)
    | some (item, rest) =>
      let (items, rest) := segments filter fuel rest
      (item :: items, rest)

def pathOver (filter : ConditionReader) (s : List Char) : Scan Path :=
  match s with
  | '$' :: rest =>
    let (items, rest) := segments filter rest.length rest
    some (.mk true items, rest)
  | '@' :: rest =>
    let (items, rest) := segments filter rest.length rest
    some (.mk false items, rest)
  | _ => none

/-- Whether a path reaches at most one node of every value. -/
def Path.isSingular : Path → Bool
  | .mk _ segments => segments.all fun
    | .mk false [.name _] => true
    | .mk false [.index _] => true
    | _ => false

/-! ### Conditions -/

def relation? (s : List Char) : Scan Relation :=
  match s with
  | '=' :: '=' :: rest => some (.eq, rest)
  | '!' :: '=' :: rest => some (.ne, rest)
  | '<' :: '=' :: rest => some (.le, rest)
  | '>' :: '=' :: rest => some (.ge, rest)
  | '<' :: rest => some (.lt, rest)
  | '>' :: rest => some (.gt, rest)
  | _ => none

def literal (s : List Char) : Scan Json :=
  match s with
  | '"' :: _ | '\'' :: _ => (string s).map fun (t, rest) => (.str t, rest)
  | _ =>
    match after? "true" s, after? "false" s, after? "null" s with
    | some rest, _, _ => some (.bool true, rest)
    | _, some rest, _ => some (.bool false, rest)
    | _, _, some rest => some (.null, rest)
    | _, _, _ => number s

def functionName (s : List Char) : Scan String :=
  let name := s.takeWhile fun c => c.isLower || c == '_' || c.isDigit
  match name, s.drop name.length with
  | c :: _, '(' :: rest => if c.isLower then some (String.ofList name, rest) else none
  | _, _ => none

def closing (s : List Char) : Option (List Char) :=
  match skipBlanks s with
  | ')' :: rest => some rest
  | _ => none

/-- An operand, its function calls nested at most `fuel` deep. -/
def operand (filter : ConditionReader) : (fuel : Nat) → List Char → Scan Operand
  | 0, _ => none
  | fuel + 1, s =>
    match s with
    | '$' :: _ | '@' :: _ =>
      match pathOver filter s with
      | some (p, rest) => if p.isSingular then some (.node p, rest) else none
      | none => none
    | _ =>
      match functionName s with
      | none => (literal s).map fun (v, rest) => (.literal v, rest)
      | some (name, rest) =>
        let rest := skipBlanks rest
        match name with
        | "length" =>
          match operand filter fuel rest with
          | some (a, rest) => (closing rest).map fun rest => (.length a, rest)
          | none => none
        | "count" =>
          match pathOver filter rest with
          | some (p, rest) => (closing rest).map fun rest => (.count p, rest)
          | none => none
        | "value" =>
          match pathOver filter rest with
          | some (p, rest) => (closing rest).map fun rest => (.value p, rest)
          | none => none
        | _ => none

def fitsCall (filter : ConditionReader) (s : List Char) : Scan Condition :=
  match functionName s with
  | none => none
  | some (name, rest) =>
    if name = "match" ∨ name = "search" then
      match operand filter s.length (skipBlanks rest) with
      | none => none
      | some (text, rest) =>
        match skipBlanks rest with
        | ',' :: rest =>
          match operand filter s.length (skipBlanks rest) with
          | none => none
          | some (pattern, rest) =>
            (closing rest).map fun rest => (.fits (name == "match") text pattern, rest)
        | _ => none
    else none

/-- A relation whose left operand has been read. -/
def relationRest (filter : ConditionReader) (lhs : Operand) (s : List Char) : Scan Condition :=
  match relation? (skipBlanks s) with
  | none => none
  | some (r, rest) =>
    (operand filter s.length (skipBlanks rest)).map fun (rhs, rest) => (.relation r lhs rhs, rest)

/-- What may be negated: a condition in brackets, a path that reaches nodes, or a call. -/
def testable (inner : ConditionReader) (s : List Char) : Scan Condition :=
  match s with
  | '(' :: rest =>
    match inner (skipBlanks rest) with
    | some (c, rest) => (closing rest).map fun rest => (c, rest)
    | none => none
  | '$' :: _ | '@' :: _ => (pathOver inner s).map fun (p, rest) => (.reaches p, rest)
  | _ => fitsCall inner s

/-- A condition without `&&` and `||`. Only a path outside brackets may be the left side of a
relation. -/
def basicCondition (inner : ConditionReader) (s : List Char) : Scan Condition :=
  match s with
  | '!' :: rest => (testable inner (skipBlanks rest)).map fun (c, rest) => (.not c, rest)
  | '$' :: _ | '@' :: _ =>
    match pathOver inner s with
    | none => none
    | some (p, rest) =>
      if (relation? (skipBlanks rest)).isSome then
        if p.isSingular then relationRest inner (.node p) rest else none
      else some (.reaches p, rest)
  | _ =>
    match testable inner s with
    | some r => some r
    | none =>
      match operand inner s.length s with
      | some (lhs, rest) => relationRest inner lhs rest
      | none => none

def moreParts (mark : String) (join : Condition → Condition → Condition)
    (part : ConditionReader) : (fuel : Nat) → Condition → List Char → Scan Condition
  | 0, read, s => some (read, s)
  | fuel + 1, read, s =>
    match after? mark (skipBlanks s) with
    | none => some (read, s)
    | some rest =>
      match part (skipBlanks rest) with
      | some (c, rest) => moreParts mark join part fuel (join read c) rest
      | none => none

def parts (mark : String) (join : Condition → Condition → Condition)
    (part : ConditionReader) (s : List Char) : Scan Condition :=
  match part s with
  | some (c, rest) => moreParts mark join part rest.length c rest
  | none => none

/-- A condition whose brackets and filters lie at most `fuel` deep. -/
def condition : (fuel : Nat) → ConditionReader
  | 0 => fun _ => none
  | fuel + 1 => parts "||" .either (parts "&&" .both (basicCondition (condition fuel)))

/-- The path of a whole text, which starts at the root. -/
def Path.ofText? (s : List Char) : Option Path :=
  match s with
  | '$' :: _ =>
    match pathOver (condition s.length) s with
    | some (p, []) => some p
    | _ => none
  | _ => none

end RequestFlow.JsonPath
