import RequestFlow.Pattern.Basic
import RequestFlow.Text.Blank
import RequestFlow.Text.Hex

/-!
# RequestFlow.Pattern.Parser

Patterns read from text. There is no look-around and there are no references to groups.

* `Flags`     — how what follows is read and matched.
* `escape`    — what a backslash introduces.
* `classRest` — bracketed classes, with nested classes and the operators `&&`, `--`, `~~`.
* `branches`  — alternations; `Regex.ofText?` reads a whole pattern.
-/

namespace RequestFlow.Pattern

inductive Fault where
  | badClass
  | badCount
  | badEscape
  | badFlags
  | badGroupName
  | invalidUtf8
  | lookAround
  | nothingToRepeat
  | reference
  | tooDeep
  | tooLarge
  | unclosed
  | unknownClass
  | unopened
deriving Repr, DecidableEq

structure Flags where
  ignoreCase : Bool := false
  multiLine : Bool := false
  dotAll : Bool := false
  swapGreed : Bool := false
  unicode : Bool := true
  wideLines : Bool := false
  /-- Blanks and comments in the pattern are passed over. -/
  extended : Bool := false
deriving Repr, DecidableEq

def skipBlanks : (inComment : Bool) → List Char → List Char
  | _, [] => []
  | true, c :: rest => skipBlanks (c != '\n') rest
  | false, c :: rest =>
    if Text.isBlank c then skipBlanks false rest
    else if c == '#' then skipBlanks true rest
    else c :: rest

def Flags.skip (f : Flags) (s : List Char) : List Char :=
  if f.extended then skipBlanks false s else s

/-! ### Escapes -/

inductive Primitive where
  | char (c : Char)
  | set (s : CharSet)
  | look (l : Look)

abbrev Scan (α : Type) := Except Fault (α × List Char)

def isMeta (c : Char) : Bool :=
  "\\.+*?()|[]\x7b\x7d^$#&-~".toList.contains c

/-- ASCII characters that stand for themselves after a backslash. -/
def isEscapable (c : Char) : Bool :=
  isMeta c || (c.toNat < 0x80 && !c.isAlphanum && c != '<' && c != '>')

def charOf? (n : Nat) : Option Char :=
  if n < 0xD800 ∨ (0xDFFF < n ∧ n < 0x110000) then some (Char.ofNat n) else none

/-- The character of hexadecimal digits: `width` of them, or any number in braces. -/
def hexEscape (f : Flags) (width : Nat) (s : List Char) : Scan Char :=
  match f.skip s with
  | [] => .error .badEscape
  | '{' :: rest =>
    let digits := rest.takeWhile (· != '}')
    let shown := if f.extended then digits.filter (!Text.isBlank ·) else digits
    match rest.drop digits.length with
    | '}' :: rest =>
      if shown.isEmpty then .error .badEscape
      else
        match (Text.digitsIn? 16 shown).bind charOf? with
        | some c => .ok (c, rest)
        | none => .error .badEscape
    | _ => .error .badEscape
  | s =>
    if s.length < width then .error .badEscape
    else
      match (Text.digitsIn? 16 (s.take width)).bind charOf? with
      | some c => .ok (c, s.drop width)
      | none => .error .badEscape

def Flags.fold (f : Flags) (s : CharSet) : CharSet :=
  if f.ignoreCase then .folded s else s

def namedClass (f : Flags) (negated : Bool) (s : List Char) : Scan CharSet :=
  let finish (found : Option CharSet) (rest : List Char) : Scan CharSet :=
    match found with
    | none => .error .unknownClass
    | some members =>
      if f.unicode then
        .ok (if negated then .complement (f.fold members) else f.fold members, rest)
      else .error .unknownClass
  match f.skip s with
  | [] => .error .badEscape
  | '{' :: rest =>
    let name := rest.takeWhile (· != '}')
    let shown := if f.extended then name.filter (!Text.isBlank ·) else name
    match rest.drop name.length with
    | _ :: rest => finish (CharSet.ofClass? shown) rest
    | [] => .error .badEscape
  | '\\' :: _ => .error .unknownClass
  | c :: rest => finish (CharSet.ofName? [c]) rest

/-- The class of a letter such as `d`, or its complement for a capital. -/
def letterClass (f : Flags) (c : Char) : Except Fault CharSet :=
  let members : CharSet :=
    match c.toLower with
    | 'd' => if f.unicode then .digit else .asciiDigit
    | 's' => if f.unicode then .blank else .asciiBlank
    | _ => if f.unicode then .word else .asciiWord
  if c.isUpper then
    if f.unicode then .ok (.complement members) else .error .invalidUtf8
  else .ok members

/-- The name in the braces of `\b{…}`. Anything but letters and hyphens at its start is no
name: then the braces are a count. -/
def boundaryName (f : Flags) (s : List Char) : Scan Look :=
  let isNameChar (c : Char) : Bool := c.isAlpha || c == '-'
  let plain : Scan Look := .ok (.boundary (!f.unicode), s)
  match s with
  | '{' :: rest =>
    match f.skip rest with
    | [] => .error .badEscape
    | c :: rest =>
      if isNameChar c then
        let text := if f.extended then (c :: rest).filter (!Text.isBlank ·) else c :: rest
        let name := text.takeWhile isNameChar
        match text.drop name.length with
        | '}' :: rest =>
          match String.ofList name with
          | "start" => .ok (.wordStart (!f.unicode), rest)
          | "end" => .ok (.wordEnd (!f.unicode), rest)
          | "start-half" => .ok (.wordStartHalf (!f.unicode), rest)
          | "end-half" => .ok (.wordEndHalf (!f.unicode), rest)
          | _ => .error .badEscape
        | _ => .error .badEscape
      else plain
  | _ => plain

/-- The character of `\x`. Without Unicode two digits are an octet, which no text holds alone
when it is above 0x7F. -/
def octetEscape (f : Flags) (s : List Char) : Scan Char :=
  match hexEscape f 2 s with
  | .error e => .error e
  | .ok (c, rest) =>
    if !f.unicode && 0x80 ≤ c.toNat && (f.skip s).head? != some '\x7b' then .error .invalidUtf8
    else .ok (c, rest)

def escape (f : Flags) : List Char → Scan Primitive
  | [] => .error .badEscape
  | c :: rest =>
    if c.isDigit then .error .reference
    else if c == 'x' then (octetEscape f rest).map fun (c, s) => (.char c, s)
    else if c == 'u' then (hexEscape f 4 rest).map fun (c, s) => (.char c, s)
    else if c == 'U' then (hexEscape f 8 rest).map fun (c, s) => (.char c, s)
    else if c == 'p' || c == 'P' then
      (namedClass f (c == 'P') rest).map fun (named, s) => (.set named, s)
    else if "dswDSW".toList.contains c then
      (letterClass f c).map fun members => (.set members, rest)
    else if isEscapable c then .ok (.char c, rest)
    else
      match c with
      | 'a' => .ok (.char '\x07', rest)
      | 'f' => .ok (.char '\x0c', rest)
      | 't' => .ok (.char '\t', rest)
      | 'n' => .ok (.char '\n', rest)
      | 'r' => .ok (.char '\r', rest)
      | 'v' => .ok (.char '\x0b', rest)
      | 'A' => .ok (.look .textStart, rest)
      | 'z' => .ok (.look .textEnd, rest)
      | 'b' => (boundaryName f rest).map fun (l, s) => (.look l, s)
      | 'B' => .ok (.look (.noBoundary (!f.unicode)), rest)
      | '<' => .ok (.look (.wordStart (!f.unicode)), rest)
      | '>' => .ok (.look (.wordEnd (!f.unicode)), rest)
      | _ => .error .badEscape

/-! ### Bracketed classes -/

inductive SetOp where
  | inter
  | diff
  | symmDiff
deriving Repr, DecidableEq

def SetOp.apply : SetOp → CharSet → CharSet → CharSet
  | .inter => .inter
  | .diff => .diff
  | .symmDiff => .symmDiff

/-- Whether a character may stand in a class. Without Unicode classes hold ASCII alone. -/
def Flags.allows (f : Flags) (c : Char) : Bool :=
  f.unicode || c.toNat < 0x80

def classItem (f : Flags) : List Char → Scan Primitive
  | [] => .error .unclosed
  | '\\' :: rest =>
    match escape f rest with
    | .ok (.look _, _) => .error .badClass
    | .ok (.char c, rest) => if f.allows c then .ok (.char c, rest) else .error .badClass
    | r => r
  | c :: rest => if f.allows c then .ok (.char c, rest) else .error .badClass

def Primitive.toSet : Primitive → CharSet
  | .char c => .char c
  | .set s => s
  | .look _ => .none

def classRange (f : Flags) (s : List Char) : Scan CharSet :=
  match classItem f s with
  | .error e => .error e
  | .ok (first, rest) =>
    match f.skip rest with
    | [] => .error .unclosed
    | '-' :: rest =>
      let next := f.skip rest
      if next.head? == some ']' || next.head? == some '-' then .ok (first.toSet, '-' :: rest)
      else
        match classItem f next with
        | .error e => .error e
        | .ok (last, rest) =>
          match first, last with
          | .char a, .char b =>
            if a ≤ b then .ok (.range a.toNat b.toNat, rest) else .error .badClass
          | _, _ => .error .badClass
    | rest => .ok (first.toSet, rest)

/-- The set of `[:name:]` or `[:^name:]`, after its bracket. -/
def posixClass? (s : List Char) : Option (CharSet × List Char) :=
  match s with
  | ':' :: rest =>
    let (negated, rest) : Bool × List Char :=
      match rest with
      | '^' :: rest => (true, rest)
      | _ => (false, rest)
    let name := rest.takeWhile (· != ':')
    match rest.drop name.length with
    | ':' :: ']' :: rest =>
      (CharSet.posix? (String.ofList name)).map fun named =>
        (if negated then .complement named else named, rest)
    | _ => none
  | _ => none

/-- What stands at the start of a class: whether it is negated, and hyphens or a closing
bracket that stand for themselves. -/
def classStart (f : Flags) (s : List Char) : Scan (Bool × CharSet) :=
  let s := f.skip s
  let (negated, s) : Bool × List Char :=
    match s with
    | '^' :: rest => (true, f.skip rest)
    | _ => (false, s)
  let hyphens := s.takeWhile fun c => c == '-' || (f.extended && Text.isBlank c)
  let rest := s.drop hyphens.length
  match hyphens.contains '-', rest with
  | _, [] => .error .unclosed
  | true, rest => .ok ((negated, .char '-'), rest)
  | false, ']' :: rest => .ok ((negated, .char ']'), f.skip rest)
  | false, rest => .ok ((negated, .none), rest)

def setOp? : List Char → Option SetOp
  | '&' :: '&' :: _ => some .inter
  | '-' :: '-' :: _ => some .diff
  | '~' :: '~' :: _ => some .symmDiff
  | _ => none

/-- The operation that waits for its right side, carried out. -/
def settle (f : Flags) (pending : Option (SetOp × CharSet)) (rhs : CharSet) : CharSet :=
  match pending with
  | none => rhs
  | some (op, lhs) => op.apply (f.fold lhs) (f.fold rhs)

/-- The rest of a class: `read` is the union read so far on the right of `pending`. -/
def classRest (f : Flags) (negated : Bool) :
    (fuel : Nat) → Option (SetOp × CharSet) → CharSet → List Char → Scan CharSet
  | 0, _, _, _ => .error .unclosed
  | fuel + 1, pending, read, s =>
    let s := f.skip s
    match setOp? s with
    | some op =>
      classRest f negated fuel (some (op, settle f pending read)) .none (s.drop 2)
    | none =>
      match s with
      | [] => .error .unclosed
      | ']' :: rest =>
        let whole := f.fold (settle f pending read)
        if !negated then .ok (whole, rest)
        else if f.unicode then .ok (.complement whole, rest)
        else .error .invalidUtf8
      | '[' :: rest =>
        match posixClass? rest with
        | some (named, rest) => classRest f negated fuel pending (.union read named) rest
        | none =>
          match classStart f rest with
          | .error e => .error e
          | .ok ((inverse, start), rest) =>
            match classRest f inverse fuel none start rest with
            | .error e => .error e
            | .ok (inner, rest) => classRest f negated fuel pending (.union read inner) rest
      | s =>
        match classRange f s with
        | .error e => .error e
        | .ok (item, rest) => classRest f negated fuel pending (.union read item) rest

def bracketClass (f : Flags) (s : List Char) : Scan CharSet :=
  match classStart f s with
  | .error e => .error e
  | .ok ((negated, start), rest) => classRest f negated (rest.length + 1) none start rest

/-! ### Repetition -/

/-- A decimal number with blanks around it, below `2^32`. -/
def count (f : Flags) (s : List Char) : Option Nat × List Char :=
  let s := s.dropWhile Text.isBlank
  let digits := s.takeWhile fun c => c.isDigit || (f.extended && Text.isBlank c)
  let value := (digits.filter Char.isDigit).foldl (fun n d => n * 10 + (d.toNat - '0'.toNat)) 0
  let rest := f.skip ((s.drop digits.length).dropWhile Text.isBlank)
  (if (digits.filter Char.isDigit).isEmpty || 0x100000000 ≤ value then none else some value, rest)

/-- The bounds of a counted repetition, after its opening brace. -/
def counts (f : Flags) (s : List Char) : Scan (Nat × Option Nat) :=
  match count f (f.skip s) with
  | (some least, '}' :: rest) => .ok ((least, some least), rest)
  | (some least, ',' :: rest) =>
    match f.skip rest with
    | '}' :: rest => .ok ((least, none), rest)
    | rest =>
      match count f rest with
      | (some most, '}' :: rest) =>
        if least ≤ most then .ok ((least, some most), rest) else .error .badCount
      | _ => .error .badCount
  | _ => .error .badCount

def repetition? (f : Flags) : List Char → Option (Scan (Nat × Option Nat))
  | '?' :: rest => some (.ok ((0, some 1), rest))
  | '*' :: rest => some (.ok ((0, none), rest))
  | '+' :: rest => some (.ok ((1, none), rest))
  | '{' :: rest => some ((counts f rest).map fun (bounds, rest) => (bounds, f.skip rest))
  | _ => none

/-! ### Groups -/

/-- The flags before the `:` or `)` that ends them. -/
def flagList (negated : Bool) (seen : List Char) (f : Flags) :
    List Char → Except Fault (Flags × Bool × List Char)
  | [] => .error .unclosed
  | c :: rest =>
    if c == ':' || c == ')' then
      if negated && seen.head? == some '-' then .error .badFlags
      else if c == ')' && seen.isEmpty then .error .nothingToRepeat
      else .ok (f, c == ':', rest)
    else if seen.contains c then .error .badFlags
    else
      let on := !negated
      let next (f : Flags) := flagList negated (c :: seen) f rest
      match c with
      | '-' => flagList true (c :: seen) f rest
      | 'i' => next { f with ignoreCase := on }
      | 'm' => next { f with multiLine := on }
      | 's' => next { f with dotAll := on }
      | 'U' => next { f with swapGreed := on }
      | 'u' => next { f with unicode := on }
      | 'R' => next { f with wideLines := on }
      | 'x' => next { f with extended := on }
      | _ => .error .badFlags

def isNameChar (isFirst : Bool) (c : Char) : Bool :=
  c == '_' || Text.isAlphabetic c.toNat ||
    (!isFirst && (c == '.' || c == '[' || c == ']' || CharSet.number.has c.toNat))

def groupName (s : List Char) : Scan String :=
  let name := s.takeWhile (· != '>')
  match name, s.drop name.length with
  | c :: cs, '>' :: rest =>
    if isNameChar true c && cs.all (isNameChar false) then .ok (String.ofList name, rest)
    else .error .badGroupName
  | _, _ => .error .badGroupName

inductive Opening where
  | setFlags (f : Flags)
  | plain (f : Flags)
  | capture (name : Option String)

def opening (f : Flags) (s : List Char) : Scan Opening :=
  match f.skip s with
  | '?' :: '=' :: _ => .error .lookAround
  | '?' :: '!' :: _ => .error .lookAround
  | '?' :: '<' :: '=' :: _ => .error .lookAround
  | '?' :: '<' :: '!' :: _ => .error .lookAround
  | '?' :: 'P' :: '<' :: rest => (groupName rest).map fun (n, rest) => (.capture (some n), rest)
  | '?' :: '<' :: rest => (groupName rest).map fun (n, rest) => (.capture (some n), rest)
  | '?' :: rest =>
    match flagList false [] f rest with
    | .error e => .error e
    | .ok (g, true, rest) => .ok (.plain g, rest)
    | .ok (g, false, rest) => .ok (.setFlags g, rest)
  | rest => .ok (.capture none, rest)

/-- Names of the groups opened so far, the last one first. -/
abbrev Names := List (Option String)

structure Reading where
  pattern : Pattern
  names : Names
  rest : List Char

def Flags.char (f : Flags) (c : Char) : CharSet :=
  if f.ignoreCase && (f.unicode || c.toNat < 0x80) then .folded (.char c) else .char c

def anyChar (f : Flags) : Except Fault CharSet :=
  if !f.unicode then .error .invalidUtf8
  else if f.dotAll then .ok .any
  else if f.wideLines then .ok (.complement (.union (.char '\n') (.char '\r')))
  else .ok (.complement (.char '\n'))

def startLook (f : Flags) : Look :=
  if !f.multiLine then .textStart else if f.wideLines then .wideLineStart else .lineStart

def endLook (f : Flags) : Look :=
  if !f.multiLine then .textEnd else if f.wideLines then .wideLineEnd else .lineEnd

def atom (f : Flags) : List Char → Scan Pattern
  | [] => .ok (.empty, [])
  | '.' :: rest => (anyChar f).map fun s => (.set s, rest)
  | '^' :: rest => .ok (.look (startLook f), rest)
  | '$' :: rest => .ok (.look (endLook f), rest)
  | '[' :: rest => (bracketClass f rest).map fun (s, rest) => (.set s, rest)
  | '\\' :: rest =>
    (escape f rest).map fun
      | (.char c, rest) => (.set (f.char c), rest)
      | (.set s, rest) => (.set s, rest)
      | (.look l, rest) => (.look l, rest)
  | c :: rest => .ok (.set (f.char c), rest)

/-- The part before a repetition and the parts before it; a change of flags, which no
repetition may follow, is `none`. -/
def repeatLast (f : Flags) (bounds : Nat × Option Nat) (greedy : Bool) :
    List (Option Pattern) → Except Fault (List (Option Pattern))
  | some p :: parts =>
    .ok (some (.repeated p bounds.1 bounds.2 (greedy != f.swapGreed)) :: parts)
  | _ => .error .nothingToRepeat

def sequence (parts : List (Option Pattern)) : Pattern :=
  seqs (parts.reverse.filterMap id)

/-- The alternation that ends with the group, `depth` groups deep. `done` holds the branches
before this one and `parts` the parts of this one, both the last one first. -/
def branches (depth : Nat) : (fuel : Nat) → Flags → Names → List Pattern →
    List (Option Pattern) → List Char → Except Fault Reading
  | 0, _, _, _, _, _ => .error .unclosed
  | fuel + 1, f, names, done, parts, s =>
    let s := f.skip s
    let finish (rest : List Char) : Except Fault Reading :=
      .ok ⟨alts (sequence parts :: done).reverse, names, rest⟩
    match repetition? f s with
    | some (.error e) => .error e
    | some (.ok (bounds, rest)) =>
      let (greedy, rest) : Bool × List Char :=
        match rest with
        | '?' :: rest => (false, rest)
        | _ => (true, rest)
      match repeatLast f bounds greedy parts with
      | .error e => .error e
      | .ok parts => branches depth fuel f names done parts rest
    | none =>
      match s with
      | [] => if depth = 0 then finish [] else .error .unclosed
      | '|' :: rest => branches depth fuel f names (sequence parts :: done) [] rest
      | ')' :: rest => if depth = 0 then .error .unopened else finish rest
      | '(' :: rest =>
        match opening f rest with
        | .error e => .error e
        | .ok (.setFlags g, rest) => branches depth fuel g names done (none :: parts) rest
        | .ok (.plain g, rest) =>
          match branches (depth + 1) fuel g names [] [] rest with
          | .error e => .error e
          | .ok r => branches depth fuel f r.names done (some r.pattern :: parts) r.rest
        | .ok (.capture name, rest) =>
          if name.isSome && names.contains name then .error .badGroupName
          else
            match branches (depth + 1) fuel f (name :: names) [] [] rest with
            | .error e => .error e
            | .ok r =>
              let p := Pattern.group (names.length + 1) r.pattern
              branches depth fuel f r.names done (some p :: parts) r.rest
      | s =>
        match atom f s with
        | .error e => .error e
        | .ok (p, rest) => branches depth fuel f names done (some p :: parts) rest

/-- How deep groups and repetitions lie inside one another. -/
def nesting : Pattern → Nat
  | .empty | .set _ | .look _ => 0
  | .seq p q | .alt p q => max p.nesting q.nesting
  | .repeated p _ _ _ => p.nesting + 1
  | .group _ p => p.nesting + 1

def nestingLimit : Nat := 250

end RequestFlow.Pattern
