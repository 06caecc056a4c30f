import RequestFlow.Number.Literal

/-!
# RequestFlow.Hook.Token

The tokens of a hook. Between them stand blanks and comments; a newline or a semicolon is
a token of its own.

* `pieceAt` — the token or gap at the start of a text, with its width.
* `tokens`  — all tokens, each with its line and the characters before it and its end.
-/

namespace RequestFlow.Hook

inductive Tok where
  | ident (name : String)
  | str (s : String)
  | num (n : Number)
  | lparen
  | rparen
  | lbracket
  | rbracket
  | dot
  | comma
  | assign
  | eq
  | ne
  | lt
  | le
  | gt
  | ge
  | and
  | or
  | not
  | plus
  | minus
  /-- A newline or `;`. -/
  | separator
deriving DecidableEq

structure Token where
  tok : Tok
  line : Nat
  start : Nat
  stop : Nat
deriving DecidableEq

inductive TokenFault where
  | unexpected (c : Char)
  | unknownEscape (c : Char)
  | unterminatedString
  | invalidNumber (text : String)
deriving Repr, DecidableEq

def TokenFault.message : TokenFault → String
  | .unexpected c => s!"unexpected character `{c}`"
  | .unknownEscape c => "unknown escape `\\" ++ s!"{c}`"
  | .unterminatedString => "unterminated string literal"
  | .invalidNumber text => s!"invalid number `{text}`"

/-- A fault `newlines` lines below the start of the piece it lies in. -/
structure PieceError where
  fault : TokenFault
  newlines : Nat
deriving Repr, DecidableEq

inductive Piece where
  | gap (width : Nat)
  | token (tok : Tok) (width : Nat)
deriving DecidableEq

/-- Operators and brackets, the longer ones first. -/
def punctuation? : Char → List Char → Option Piece
  | '=', '=' :: _ => some (.token .eq 2)
  | '!', '=' :: _ => some (.token .ne 2)
  | '<', '=' :: _ => some (.token .le 2)
  | '>', '=' :: _ => some (.token .ge 2)
  | '&', '&' :: _ => some (.token .and 2)
  | '|', '|' :: _ => some (.token .or 2)
  | '(', _ => some (.token .lparen 1)
  | ')', _ => some (.token .rparen 1)
  | '[', _ => some (.token .lbracket 1)
  | ']', _ => some (.token .rbracket 1)
  | '.', _ => some (.token .dot 1)
  | ',', _ => some (.token .comma 1)
  | '+', _ => some (.token .plus 1)
  | '-', _ => some (.token .minus 1)
  | '=', _ => some (.token .assign 1)
  | '!', _ => some (.token .not 1)
  | '<', _ => some (.token .lt 1)
  | '>', _ => some (.token .gt 1)
  | _, _ => none

def isBlankChar (c : Char) : Bool :=
  c == ' ' || c == '\t' || c == '\r'

def isNameStart (c : Char) : Bool :=
  c.isAlpha || c == '_'

def isNameChar (c : Char) : Bool :=
  c.isAlphanum || c == '_'

def escaped? : Char → Option Char
  | 'n' => some '\n'
  | 't' => some '\t'
  | 'r' => some '\r'
  | '\\' => some '\\'
  | '"' => some '"'
  | '\'' => some '\''
  | _ => none

/-- The characters of a string up to its closing quote, and the width of the text read. -/
def stringBody (quote : Char) (newlines : Nat) : List Char → Except PieceError (List Char × Nat)
  | [] => .error ⟨.unterminatedString, 0⟩
  | c :: rest =>
    if c = quote then .ok ([], 1)
    else if c = '\\' then
      match rest with
      | [] => .error ⟨.unterminatedString, 0⟩
      | x :: rest =>
        match escaped? x with
        | none => .error ⟨.unknownEscape x, newlines⟩
        | some y =>
          match stringBody quote newlines rest with
          | .error e => .error e
          | .ok (s, width) => .ok (y :: s, width + 2)
    else
      match stringBody quote (if c = '\n' then newlines + 1 else newlines) rest with
      | .error e => .error e
      | .ok (s, width) => .ok (c :: s, width + 1)

/-- A point and digits, if a digit follows the point. -/
def fractionText : List Char → List Char
  | '.' :: d :: rest => if d.isDigit then '.' :: (d :: rest).takeWhile Char.isDigit else []
  | _ => []

/-- An exponent, if a digit follows its mark and sign. -/
def exponentText : List Char → List Char
  | [] => []
  | mark :: rest =>
    let sign := if rest.head? == some '+' || rest.head? == some '-' then rest.take 1 else []
    let digits := (rest.drop sign.length).takeWhile Char.isDigit
    if (mark == 'e' || mark == 'E') && !digits.isEmpty then mark :: sign ++ digits else []

def numberText (s : List Char) : List Char :=
  let whole := s.takeWhile Char.isDigit
  let fraction := fractionText (s.drop whole.length)
  whole ++ fraction ++ exponentText (s.drop (whole.length + fraction.length))

/-- The width of a comment, which ends before a newline. -/
def commentWidth (s : List Char) : Nat :=
  (s.takeWhile (· != '\n')).length

def pieceAt (c : Char) (rest : List Char) : Except PieceError Piece :=
  match punctuation? c rest with
  | some p => .ok p
  | none =>
    if isBlankChar c then .ok (.gap 1)
    else if c = '\n' ∨ c = ';' then .ok (.token .separator 1)
    else if c = '#' then .ok (.gap (commentWidth (c :: rest)))
    else if c = '/' ∧ rest.head? = some '/' then .ok (.gap (commentWidth (c :: rest)))
    else if c = '"' ∨ c = '\'' then
      match stringBody c 0 rest with
      | .error e => .error e
      | .ok (s, width) => .ok (.token (.str (String.ofList s)) (width + 1))
    else if c.isDigit then
      let text := numberText (c :: rest)
      match Number.ofText? text with
      | some n => .ok (.token (.num n) text.length)
      | none => .error ⟨.invalidNumber (String.ofList text), 0⟩
    else if isNameStart c then
      let name := (c :: rest).takeWhile isNameChar
      .ok (.token (.ident (String.ofList name)) name.length)
    else .error ⟨.unexpected c, 0⟩

structure TokenError where
  fault : TokenFault
  line : Nat
deriving Repr, DecidableEq

/-- The tokens of a text from `line` and `offset` on, of which the first `inside` characters
belong to a piece already read. -/
def tokensFrom (line offset : Nat) : (inside : Nat) → List Char → Except TokenError (List Token)
  | _, [] => .ok []
  | inside + 1, c :: rest => tokensFrom (if c = '\n' then line + 1 else line) (offset + 1) inside rest
  | 0, c :: rest =>
    let next (inside : Nat) :=
      tokensFrom (if c = '\n' then line + 1 else line) (offset + 1) inside rest
    match pieceAt c rest with
    | .error e => .error ⟨e.fault, line + e.newlines⟩
    | .ok (.gap width) => next (width - 1)
    | .ok (.token tok width) =>
      match next (width - 1) with
      | .error e => .error e
      | .ok ts => .ok (⟨tok, line, offset, offset + width⟩ :: ts)

def tokens (source : List Char) : Except TokenError (List Token) :=
  tokensFrom 1 0 0 source

end RequestFlow.Hook
