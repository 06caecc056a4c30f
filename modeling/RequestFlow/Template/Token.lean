/-!
# RequestFlow.Template.Token

Tokens of the form `$`, brace, name, brace, the name not empty and free of braces. Since a
name holds no brace, no token starts inside another; so looking at every position of a text
finds the tokens that a scan from left to right finds.

* `tokenAt?`    — the name of the token at the start of a text.
* `tokens`      — the names of all tokens, in order.
* `substitute`  — every token of one name replaced by a value.
-/

namespace RequestFlow.Template

def isBrace (c : Char) : Bool :=
  c == '{' || c == '}'

def takeName : List Char → List Char × List Char
  | [] => ([], [])
  | c :: rest =>
    if isBrace c then ([], c :: rest) else ((c :: (takeName rest).1), (takeName rest).2)

def tokenAt? : List Char → Option (List Char)
  | '$' :: '{' :: rest =>
    match takeName rest with
    | ([], _) => none
    | (name, '}' :: _) => some name
    | _ => none
  | _ => none

def tokens : List Char → List (List Char)
  | [] => []
  | c :: rest =>
    match tokenAt? (c :: rest) with
    | some name => name :: tokens rest
    | none => tokens rest

def tokenText (name : List Char) : List Char :=
  '$' :: '{' :: name ++ ['}']

/-- Replaces the tokens of `name`; the first `skip` characters belong to a token already
replaced and are dropped. -/
def substituteAfter (name value : List Char) : (skip : Nat) → List Char → List Char
  | _, [] => []
  | skip + 1, _ :: rest => substituteAfter name value skip rest
  | 0, c :: rest =>
    if tokenAt? (c :: rest) = some name then
      value ++ substituteAfter name value (name.length + 2) rest
    else c :: substituteAfter name value 0 rest

def substitute (name value : List Char) (s : List Char) : List Char :=
  substituteAfter name value 0 s

/-- The names of the tokens of a text, each once, in order of first appearance. -/
def tokenNames (s : String) : List String :=
  ((tokens s.toList).map String.ofList).eraseDups

def containsTokens (s : String) : Bool :=
  !(tokens s.toList).isEmpty

end RequestFlow.Template
