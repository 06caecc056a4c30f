/-!
# RequestFlow.Yaml.Source

The characters of a YAML text, each with the place where it stands. All line breaks are one
character there: a newline, or one of the two separators that stay as they are.

* `source?`  — a text that holds printable characters only.
* `atEdge`   — a source goes on with a blank or a break, or ends.
* `atMarker` — a source goes on with one of the markers between documents.
-/

namespace RequestFlow.Yaml

structure Glyph where
  char : Char
  line : Nat
  column : Nat
  /-- How many characters of the text come before it. -/
  index : Nat
deriving Repr, DecidableEq

abbrev Source := List Glyph

def isBlank (c : Char) : Bool :=
  c == ' ' || c == '\t'

def isBreak (c : Char) : Bool :=
  c == '\n' || c == '\u2028' || c == '\u2029'

/-- Characters of anchors, directives and handles of tags. -/
def isNameChar (c : Char) : Bool :=
  c.isAlphanum || c == '_' || c == '-'

/-- Characters that a text may hold: no control characters, save tabs and line breaks. -/
def isPrintable (c : Char) : Bool :=
  let n := c.toNat
  n == 0x9 || n == 0xA || n == 0xD || (0x20 ≤ n && n ≤ 0x7E) || n == 0x85 ||
    (0xA0 ≤ n && n ≤ 0xFFFD) || 0x10000 ≤ n

def glyphs (line column index : Nat) : List Char → Source
  | [] => []
  | '\r' :: '\n' :: rest => ⟨'\n', line, column, index⟩ :: glyphs (line + 1) 0 (index + 2) rest
  | c :: rest =>
    let c := if c == '\r' || c == '\u0085' then '\n' else c
    ⟨c, line, column, index⟩ ::
      if isBreak c then glyphs (line + 1) 0 (index + 1) rest
      else glyphs line (column + 1) (index + 1) rest

/-- The characters of a text after its byte order mark, if it has one. -/
def source? (s : List Char) : Option Source :=
  let s :=
    match s with
    | '\uFEFF' :: rest => rest
    | _ => s
  if s.all isPrintable then some (glyphs 0 0 0 s) else none

namespace Source

def text (s : Source) : List Char :=
  s.map (·.char)

def head? (s : Source) : Option Char :=
  List.head? s |>.map (·.char)

def atEdge : Source → Bool
  | [] => true
  | g :: _ => isBlank g.char || isBreak g.char

def atAny (cs : String) : Source → Bool
  | [] => false
  | g :: _ => cs.toList.contains g.char

/-- Three hyphens or three points at the start of a line and a word of their own. -/
def atMarker (mark : Char) : Source → Bool
  | a :: b :: c :: rest =>
    a.column == 0 && a.char == mark && b.char == mark && c.char == mark && atEdge rest
  | _ => false

def takeNames (s : Source) : List Char :=
  text (s.takeWhile fun g => isNameChar g.char)

def skipBlanks (s : Source) : Source :=
  s.dropWhile fun g => isBlank g.char

def restOfLine? (s : Source) : Option Source :=
  let s := s.skipBlanks
  let s := if s.head? == some '#' then s.dropWhile fun g => !isBreak g.char else s
  match s with
  | [] => some []
  | g :: rest => if isBreak g.char then some rest else none

end Source

end RequestFlow.Yaml
