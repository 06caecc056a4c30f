import RequestFlow.Text.Utf8
import RequestFlow.Yaml.Scalar

/-!
# RequestFlow.Yaml.Token

The tokens of a YAML text. Signs and scalars stand in the text; where block collections and
the keys of mappings begin and end follows from the places of the others.

A scalar, a bracket or an anchor may turn out to be a key, when `:` follows on its line. Until
then it is a candidate; as soon as it is known to be a key, a token goes in before it.

* `Token.ofSource?` — all tokens of a text.
-/

namespace RequestFlow.Yaml

inductive Token where
  | version (major minor : Nat)
  | tagBase (handle base : List Char)
  | documentStart
  | documentEnd
  | blockSequenceStart
  | blockMappingStart
  | blockEnd
  | flowSequenceStart
  | flowSequenceEnd
  | flowMappingStart
  | flowMappingEnd
  | blockEntry
  | flowEntry
  | key
  | value
  /-- A name, and how many anchors stand before it. -/
  | reference (name : List Char) (before : Nat)
  | anchor (name : List Char)
  | tag (handle suffix : List Char)
  | scalar (text : List Char) (isPlain : Bool)
deriving Repr, DecidableEq

/-- What may turn out to be a key. -/
structure Candidate where
  /-- How many tokens come before it. -/
  number : Nat
  start : Glyph
  /-- Nothing but a key can stand here. -/
  required : Bool

structure Scanner where
  rest : Source
  /-- The tokens so far, the latest first. -/
  tokens : List Token := []
  /-- The columns of the open block collections, the innermost first. -/
  columns : List Nat := []
  candidate : Option Candidate := none
  /-- The candidates before the open flow collections, the innermost first. -/
  outer : List (Option Candidate) := []
  /-- Whether a key may stand here. -/
  keyAllowed : Bool := true
  /-- How many anchors have been read. -/
  anchors : Nat := 0

namespace Scanner

def inFlow (s : Scanner) : Bool :=
  !s.outer.isEmpty

def push (s : Scanner) (t : Token) : Scanner :=
  { s with tokens := t :: s.tokens }

/-- Puts a token before the one that has the given number. -/
def pushBefore (s : Scanner) (number : Nat) (t : Token) : Scanner :=
  { s with tokens := s.tokens.insertIdx (s.tokens.length - number) t }

/-- Ends the block collections to the right of a column, or all of them. -/
def dedent (s : Scanner) (column : Option Nat) : Scanner :=
  if s.inFlow then s
  else
    let ended := s.columns.takeWhile fun c => column.all (· < c)
    { s with
      columns := s.columns.drop ended.length
      tokens := ended.map (fun _ => .blockEnd) ++ s.tokens }

/-- Starts a block collection before the token with the given number, if it stands to the right
of those that are open. -/
def indent (s : Scanner) (column number : Nat) (start : Token) : Scanner :=
  if s.inFlow || s.columns.head?.any (column ≤ ·) then s
  else { s.pushBefore number start with columns := column :: s.columns }

def dropCandidate (s : Scanner) : Option Scanner :=
  if s.candidate.any (·.required) then none else some { s with candidate := none }

/-- Makes what starts at `g` the candidate, if a key may stand there. -/
def offer (s : Scanner) (g : Glyph) : Option Scanner :=
  if s.keyAllowed then
    let required := !s.inFlow && s.columns.head? == some g.column
    s.dropCandidate.map fun s =>
      { s with candidate := some { number := s.tokens.length, start := g, required } }
  else some s

/-- A key ends on the line where it starts, after 1024 characters at most. -/
def Candidate.isStale (c : Candidate) (g : Glyph) : Bool :=
  c.start.line < g.line || c.start.index + 1024 < g.index

/-- Gives up the candidates that cannot be keys any more. -/
def expire (s : Scanner) (g : Glyph) : Option Scanner :=
  let isStale (c : Option Candidate) := c.any fun c => Candidate.isStale c g
  let isLost (c : Option Candidate) := isStale c && c.any (·.required)
  if (s.candidate :: s.outer).any isLost then none
  else
    let kept (c : Option Candidate) := if isStale c then none else c
    some { s with candidate := kept s.candidate, outer := s.outer.map kept }

/-! ## Between tokens -/

/-- Skips blanks, breaks and comments. At the start of a line a key may stand, and a tab must
not. -/
def skipGap (inFlow keyAllowed inComment : Bool) : Source → Bool × Source
  | [] => (keyAllowed, [])
  | g :: rest =>
    if isBreak g.char then skipGap inFlow (keyAllowed || !inFlow) false rest
    else if inComment || g.char == ' ' || (g.char == '\t' && (inFlow || !keyAllowed)) then
      skipGap inFlow keyAllowed inComment rest
    else if g.char == '#' then skipGap inFlow keyAllowed true rest
    else (keyAllowed, g :: rest)

def skip (s : Scanner) : Scanner :=
  let (keyAllowed, rest) := skipGap s.inFlow s.keyAllowed false s.rest
  { s with keyAllowed, rest }

/-! ## Tags and directives -/

/-- Characters of a tag, the percent sign included; some stand in full tags only. -/
def isTagChar (full : Bool) (c : Char) : Bool :=
  isNameChar c || ";/?:@&=+$.!~*'()%".toList.contains c || (full && ",[]".toList.contains c)

def tagOctets? : List Char → Option (List UInt8)
  | [] => some []
  | c :: rest =>
    if c == '%' then
      match rest with
      | a :: b :: rest' =>
        match Text.hexDigit? a, Text.hexDigit? b with
        | some a, some b => (tagOctets? rest').map (UInt8.ofNat (a * 16 + b) :: ·)
        | _, _ => none
      | _ => none
    else (tagOctets? rest).map (Text.Utf8.encode (String.singleton c) ++ ·)

def tagText? (full : Bool) (s : Source) : Option (List Char × Source) :=
  let written := s.takeWhile fun g => isTagChar full g.char
  (tagOctets? (Source.text written)).bind fun octets =>
    match Text.Utf8.decode? octets with
    | .ok text => some (text, s.drop written.length)
    | .error _ => none

/-- A handle: an exclamation mark, or a name between two of them. -/
def handle? (s : Source) : Option (List Char × Source) :=
  match s with
  | g :: rest =>
    if g.char == '!' then
      let name := Source.takeNames rest
      match rest.drop name.length with
      | e :: rest' =>
        if e.char == '!' then some ('!' :: name ++ ['!'], rest') else some (['!'], rest)
      | [] => some (['!'], rest)
    else none
  | [] => none

/-- A tag between angle brackets, behind a handle, or by itself. -/
def tag? (inFlow : Bool) (s : Source) : Option (Token × Source) := do
  let (token, rest) ←
    match s with
    | _ :: b :: rest =>
      if b.char == '<' then
        let (text, rest) ← tagText? true rest
        match rest with
        | e :: rest => if e.char == '>' && !text.isEmpty then some (Token.tag [] text, rest) else none
        | [] => none
      else handled
    | _ => handled
  if Source.atEdge rest || (inFlow && Source.atAny "," rest) then some (token, rest) else none
where
  handled : Option (Token × Source) := do
    let (handle, rest) ← handle? s
    let (suffix, rest) ← tagText? false rest
    if suffix.isEmpty then (if handle == ['!'] then some (.tag [] ['!'], rest) else none)
    else some (.tag handle suffix, rest)

/-- A number of at most nine digits. -/
def versionNumber? (s : Source) : Option (Nat × Source) :=
  let digits := Source.text (s.takeWhile fun g => g.char.isDigit)
  if digits.isEmpty || 9 < digits.length then none
  else (Text.digitsIn? 10 digits).map fun n => (n, s.drop digits.length)

def directive? (s : Source) : Option (Token × Source) := do
  let name := s.takeNames
  let rest := s.drop name.length
  if !Source.atEdge rest then none
  else
    let rest := Source.skipBlanks rest
    let (token, rest) ←
      match String.ofList name with
      | "YAML" => do
        let (major, rest) ← versionNumber? rest
        match rest with
        | p :: rest =>
          if p.char == '.' then
            (versionNumber? rest).map fun (minor, rest) => (Token.version major minor, rest)
          else none
        | [] => none
      | "TAG" => do
        let (handle, rest) ← handle? rest
        if !((Source.head? rest).any isBlank) then none
        else
          let (base, rest) ← tagText? true (Source.skipBlanks rest)
          if !base.isEmpty && Source.atEdge rest then some (.tagBase handle base, rest) else none
      | _ => none
    (Source.restOfLine? rest).map fun rest => (token, rest)

/-! ## Single tokens -/

def anchorName? (s : Source) : Option (List Char × Source) :=
  let name := s.takeNames
  let rest := s.drop name.length
  if !name.isEmpty && (Source.atEdge rest || Source.atAny "?:,]\x7d%@`" rest) then
    some (name, rest)
  else none

def betweenDocuments (s : Scanner) (token : Token) (rest : Source) : Option Scanner :=
  (s.dedent none).dropCandidate.map fun s =>
    { s.push token with rest, keyAllowed := false }

def openFlow (s : Scanner) (g : Glyph) (token : Token) (rest : Source) : Option Scanner :=
  (s.offer g).map fun s =>
    { s.push token with rest, keyAllowed := true, candidate := none, outer := s.candidate :: s.outer }

def closeFlow (s : Scanner) (token : Token) (rest : Source) : Option Scanner :=
  s.dropCandidate.map fun s =>
    let s :=
      match s.outer with
      | [] => s
      | candidate :: outer => { s with candidate, outer }
    { s.push token with rest, keyAllowed := false }

def flowEntry (s : Scanner) (rest : Source) : Option Scanner :=
  s.dropCandidate.map fun s => { s.push .flowEntry with rest, keyAllowed := true }

def blockEntry (s : Scanner) (g : Glyph) (rest : Source) : Option Scanner :=
  if !s.inFlow && !s.keyAllowed then none
  else
    (s.indent g.column s.tokens.length .blockSequenceStart).dropCandidate.map fun s =>
      { s.push .blockEntry with rest, keyAllowed := true }

def keySign (s : Scanner) (g : Glyph) (rest : Source) : Option Scanner :=
  if !s.inFlow && !s.keyAllowed then none
  else
    (s.indent g.column s.tokens.length .blockMappingStart).dropCandidate.map fun s =>
      { s.push .key with rest, keyAllowed := !s.inFlow }

def valueSign (s : Scanner) (g : Glyph) (rest : Source) : Option Scanner :=
  match s.candidate with
  | some c =>
    let s := (s.pushBefore c.number .key).indent c.start.column c.number .blockMappingStart
    some { s.push .value with rest, keyAllowed := false, candidate := none }
  | none =>
    if !s.inFlow && !s.keyAllowed then none
    else
      let s := s.indent g.column s.tokens.length .blockMappingStart
      some { s.push .value with rest, keyAllowed := !s.inFlow }

def node (s : Scanner) (g : Glyph) (read : Option (Token × Source)) : Option Scanner := do
  let s ← s.offer g
  let (token, rest) ← read
  some { s.push token with rest, keyAllowed := false }

def blockScalar (s : Scanner) (literal : Bool) (rest : Source) : Option Scanner := do
  let s ← s.dropCandidate
  let (text, rest) ← block? literal s.columns.head? rest
  some { s.push (.scalar text false) with rest, keyAllowed := true }

def plainScalar (s : Scanner) (g : Glyph) : Option Scanner := do
  let s ← s.offer g
  let indent := (s.columns.head?.map (· + 1)).getD 0
  let p ← plain s.inFlow indent {} [] s.rest
  some { s.push (.scalar p.text true) with rest := p.rest, keyAllowed := p.brokenLine }

def startsPlain (inFlow : Bool) (c : Char) (rest : Source) : Bool :=
  if c == '-' then !(Source.head? rest).any isBlank
  else if c == '?' || c == ':' then !inFlow && !Source.atEdge rest
  else !(isBlank c || isBreak c || ",[]\x7b\x7d#&*!|>'\"%@`".toList.contains c)

def step (s : Scanner) (g : Glyph) (rest : Source) : Option Scanner := do
  let s ← s.expire g
  let s := s.dedent (some g.column)
  let alone := Source.atEdge rest
  if g.column == 0 && g.char == '%' then
    let (token, rest) ← directive? rest
    s.betweenDocuments token rest
  else if Source.atMarker '-' s.rest then s.betweenDocuments .documentStart (rest.drop 2)
  else if Source.atMarker '.' s.rest then s.betweenDocuments .documentEnd (rest.drop 2)
  else
    match g.char with
    | '[' => s.openFlow g .flowSequenceStart rest
    | '\x7b' => s.openFlow g .flowMappingStart rest
    | ']' => s.closeFlow .flowSequenceEnd rest
    | '\x7d' => s.closeFlow .flowMappingEnd rest
    | ',' => s.flowEntry rest
    | '*' =>
      s.node g ((anchorName? rest).map fun (name, rest) => (.reference name s.anchors, rest))
    | '&' =>
      (s.node g ((anchorName? rest).map fun (name, rest) => (.anchor name, rest))).map fun s =>
        { s with anchors := s.anchors + 1 }
    | '!' => s.node g (tag? s.inFlow s.rest)
    | '\'' =>
      s.node g ((singleQuoted {} [] rest).map fun (text, rest) => (.scalar text false, rest))
    | '"' =>
      s.node g ((doubleQuoted {} [] .plain rest).map fun (text, rest) => (.scalar text false, rest))
    | c =>
      if c == '-' && alone then s.blockEntry g rest
      else if c == '?' && (s.inFlow || alone) then s.keySign g rest
      else if c == ':' && (s.inFlow || alone) then s.valueSign g rest
      else if c == '|' && !s.inFlow then s.blockScalar true rest
      else if c == '>' && !s.inFlow then s.blockScalar false rest
      else if startsPlain s.inFlow c rest then s.plainScalar g
      else none

/-- The tokens of the rest of a text, of which each step reads a character at least. -/
def run : (steps : Nat) → Scanner → Option (List Token)
  | 0, _ => none
  | steps + 1, s =>
    let s := s.skip
    match s.rest with
    | [] => (s.dedent none).dropCandidate.map fun s => s.tokens.reverse
    | g :: rest => (s.step g rest).bind (run steps)

end Scanner

def Token.ofSource? (s : Source) : Option (List Token) :=
  Scanner.run (s.length + 1) { rest := s }

end RequestFlow.Yaml
