import RequestFlow.Text.Hex
import RequestFlow.Yaml.Source

/-!
# RequestFlow.Yaml.Scalar

The written forms of scalars. Plain and quoted scalars fold their lines: a break between two
lines is a blank, and of several breaks in a row the first one is dropped. Block scalars go by
their indentation; a literal one keeps its breaks.

* `plain`        — up to the end of its words.
* `singleQuoted` — a quote is written twice.
* `doubleQuoted` — with escapes, among them the continued line.
* `block?`       — the indented lines after a header.

Each gives the text of the scalar and what follows it.
-/

namespace RequestFlow.Yaml

/-- Blanks and breaks inside a scalar, the latest first. Blanks next to a break do not
count. -/
structure Gap where
  blanks : List Char := []
  breaks : List Char := []
  /-- Whether the line before was continued by a backslash. -/
  continued : Bool := false

namespace Gap

def onNewLine (gap : Gap) : Bool :=
  !gap.breaks.isEmpty || gap.continued

def add (gap : Gap) (c : Char) : Gap :=
  if isBreak c then { gap with breaks := c :: gap.breaks }
  else if gap.onNewLine then gap
  else { gap with blanks := c :: gap.blanks }

def fold : List Char → List Char
  | ['\n'] => [' ']
  | '\n' :: rest => rest
  | breaks => breaks

def text (gap : Gap) : List Char :=
  if gap.continued then gap.breaks.reverse
  else if gap.breaks.isEmpty then gap.blanks.reverse
  else fold gap.breaks.reverse

/-- A scalar so far, latest character first, with a gap after it. -/
def after (gap : Gap) (read : List Char) : List Char :=
  gap.text.reverse ++ read

def isEmpty (gap : Gap) : Bool :=
  gap.blanks.isEmpty && !gap.onNewLine

end Gap

/-! ## Plain scalars -/

/-- A plain scalar, what follows it, and whether a break stands before that. -/
structure Plain where
  text : List Char
  rest : Source
  brokenLine : Bool

/-- Whether a plain scalar ends before the words that follow a gap. -/
def endsPlain (inFlow : Bool) (indent : Nat) (g : Glyph) (rest : Source) : Bool :=
  (!inFlow && g.column < indent) || Source.atMarker '-' (g :: rest) ||
    Source.atMarker '.' (g :: rest) || g.char == '#'

/-- The rest of a plain scalar, of which the characters `read` and then `gap` have been read.
Outside of flow collections its later lines are indented to `indent` at least. -/
def plain (inFlow : Bool) (indent : Nat) (gap : Gap) (read : List Char) : Source → Option Plain
  | [] => some ⟨read.reverse, [], gap.onNewLine⟩
  | g :: rest =>
    let ended : Plain := ⟨read.reverse, g :: rest, gap.onNewLine⟩
    if isBlank g.char || isBreak g.char then
      if gap.onNewLine && g.column < indent && g.char == '\t' then none
      else plain inFlow indent (gap.add g.char) read rest
    else if !gap.isEmpty && endsPlain inFlow indent g rest then some ended
    else if inFlow && g.char == ':' && Source.atAny ",?[]\x7b\x7d" rest then none
    else if g.char == ':' && Source.atEdge rest then some ended
    else if inFlow && Source.atAny ",[]\x7b\x7d" (g :: rest) then some ended
    else plain inFlow indent {} (g.char :: gap.after read) rest

/-! ## Quoted scalars -/

def atAnyMarker (s : Source) : Bool :=
  s.atMarker '-' || s.atMarker '.'

def singleQuoted (gap : Gap) (read : List Char) : Source → Option (List Char × Source)
  | [] => none
  | g :: rest =>
    if isBlank g.char || isBreak g.char then singleQuoted (gap.add g.char) read rest
    else if atAnyMarker (g :: rest) then none
    else if g.char == '\'' then
      match rest with
      | q :: rest' =>
        if q.char == '\'' then singleQuoted {} ('\'' :: gap.after read) rest'
        else some ((gap.after read).reverse, q :: rest')
      | [] => some ((gap.after read).reverse, [])
    else singleQuoted {} (g.char :: gap.after read) rest

def escape? : Char → Option Char
  | '0' => some '\x00'
  | 'a' => some '\x07'
  | 'b' => some '\x08'
  | 't' => some '\t'
  | '\t' => some '\t'
  | 'n' => some '\n'
  | 'v' => some '\x0b'
  | 'f' => some '\x0c'
  | 'r' => some '\r'
  | 'e' => some '\x1b'
  | ' ' => some ' '
  | '"' => some '"'
  | '/' => some '/'
  | '\\' => some '\\'
  | 'N' => some '\u0085'
  | '_' => some '\u00a0'
  | 'L' => some '\u2028'
  | 'P' => some '\u2029'
  | _ => none

/-- How many hexadecimal digits follow the letter after a backslash. -/
def escapeDigits? : Char → Option Nat
  | 'x' => some 2
  | 'u' => some 4
  | 'U' => some 8
  | _ => none

inductive Quoting where
  | plain
  /-- Behind a backslash. -/
  | escaped
  /-- Before `left` more digits of a code whose digits so far denote `code`. -/
  | coded (left code : Nat)

def doubleQuoted (gap : Gap) (read : List Char) : Quoting → Source → Option (List Char × Source)
  | _, [] => none
  | .coded 0 _, _ => none
  | .coded (left + 1) code, g :: rest =>
    match Text.hexDigit? g.char with
    | none => none
    | some d =>
      let code := code * 16 + d
      if left ≠ 0 then doubleQuoted gap read (.coded left code) rest
      else if code.isValidChar then doubleQuoted gap (Char.ofNat code :: read) .plain rest
      else none
  | .escaped, g :: rest =>
    if isBreak g.char then doubleQuoted { continued := true } read .plain rest
    else
      match escape? g.char, escapeDigits? g.char with
      | some c, _ => doubleQuoted {} (c :: read) .plain rest
      | none, some n => doubleQuoted {} read (.coded n 0) rest
      | none, none => none
  | .plain, g :: rest =>
    if isBlank g.char || isBreak g.char then doubleQuoted (gap.add g.char) read .plain rest
    else if atAnyMarker (g :: rest) then none
    else if g.char == '"' then some ((gap.after read).reverse, rest)
    else if g.char == '\\' then doubleQuoted {} (gap.after read) .escaped rest
    else doubleQuoted {} (g.char :: gap.after read) .plain rest

/-! ## Block scalars -/

inductive Chomping where
  | strip
  | clip
  | keep
deriving DecidableEq

structure BlockHeader where
  chomping : Chomping := .clip
  /-- How much deeper the lines are indented, if the header says so. -/
  increment : Option Nat := none

def chomping? : Char → Option Chomping
  | '+' => some .keep
  | '-' => some .strip
  | _ => none

def increment? (c : Char) : Option Nat :=
  if c.isDigit then some (c.toNat - '0'.toNat) else none

/-- The signs of a header, in either order, and what follows them. -/
def BlockHeader.read (h : BlockHeader) : Source → BlockHeader × Source
  | [] => (h, [])
  | g :: rest =>
    match chomping? g.char, increment? g.char with
    | some c, _ =>
      match rest with
      | d :: rest' =>
        match increment? d.char with
        | some n => ({ chomping := c, increment := some n }, rest')
        | none => ({ h with chomping := c }, rest)
      | [] => ({ h with chomping := c }, [])
    | none, some n =>
      match rest with
      | d :: rest' =>
        match chomping? d.char with
        | some c => ({ chomping := c, increment := some n }, rest')
        | none => ({ h with increment := some n }, rest)
      | [] => ({ h with increment := some n }, [])
    | none, none => (h, g :: rest)

/-- The deepest column that blanks reach before the first character of the lines; `none` if a
tab stands there. -/
def deepest? (column : Nat) : Source → Option Nat
  | [] => some column
  | g :: rest =>
    if g.char == ' ' then deepest? column rest
    else if g.char == '\t' then none
    else if isBreak g.char then deepest? (max column g.column) rest
    else some (max column g.column)

structure Lines where
  /-- The lines before the last break that was held back, latest character first. -/
  read : List Char := []
  /-- The break after them. -/
  held : List Char := []
  /-- The breaks of empty lines after that, latest first. -/
  empty : List Char := []
  /-- Whether the last line starts with a blank. -/
  blank : Bool := false

/-- Starts a new line. Between two lines of a folded scalar that do not start with a blank, a
single break is a blank, and of several breaks the first is dropped. -/
def Lines.start (lines : Lines) (literal : Bool) (c : Char) : Lines :=
  let folds := !literal && lines.held == ['\n'] && !lines.blank && !isBlank c
  let between :=
    if folds then (if lines.empty.isEmpty then [' '] else [])
    else lines.held
  { read := lines.empty ++ between ++ lines.read, blank := isBlank c }

def Lines.text (lines : Lines) (chomping : Chomping) : List Char :=
  let ending :=
    match chomping with
    | .strip => []
    | .clip => lines.held
    | .keep => lines.empty ++ lines.held
  (ending ++ lines.read).reverse

/-- The rest of the lines at a given indentation: inside a line, or before one. -/
def blockLines (literal : Bool) (indent : Nat) (lines : Lines) : (inLine : Bool) → Source →
    Option (Lines × Source)
  | _, [] => some (lines, [])
  | true, g :: rest =>
    if isBreak g.char then blockLines literal indent { lines with held := [g.char] } false rest
    else blockLines literal indent { lines with read := g.char :: lines.read } true rest
  | false, g :: rest =>
    if g.column < indent && g.char == ' ' then blockLines literal indent lines false rest
    else if g.column < indent && g.char == '\t' then none
    else if isBreak g.char then
      blockLines literal indent { lines with empty := g.char :: lines.empty } false rest
    else if g.column == indent then
      let lines := lines.start literal g.char
      blockLines literal indent { lines with read := g.char :: lines.read } true rest
    else some (lines, g :: rest)

def block? (literal : Bool) (parent : Option Nat) (s : Source) : Option (List Char × Source) := do
  let (header, s) := BlockHeader.read {} s
  let s ← s.restOfLine?
  let least := (parent.map (· + 1)).getD 0
  let indent ←
    match header.increment with
    | some 0 => none
    | some n => some ((parent.getD 0) + n)
    | none => (deepest? 0 s).map fun column => max (max column least) 1
  let (lines, s) ← blockLines literal indent {} false s
  some (lines.text header.chomping, s)

end RequestFlow.Yaml
