import RequestFlow.Json.Basic
import RequestFlow.Text.Hex

/-!
# RequestFlow.Json.Printer

JSON text of a value, on one line (`render`) or indented by two blanks (`renderIndented`).
Fields are written in the order in which the object holds them.
-/

namespace RequestFlow.Json

/-- Quotes, backslashes and control characters are escaped; all else stands for itself. -/
def escapeChar (c : Char) : List Char :=
  if c == '"' then ['\\', '"']
  else if c == '\\' then ['\\', '\\']
  else if c == '\n' then ['\\', 'n']
  else if c == '\r' then ['\\', 'r']
  else if c == '\t' then ['\\', 't']
  else if c == '\x08' then ['\\', 'b']
  else if c == '\x0c' then ['\\', 'f']
  else if c.toNat < 0x20 then
    ['\\', 'u', '0', '0', Text.hexDigit (c.toNat / 16), Text.hexDigit c.toNat]
  else [c]

def quote (s : String) : List Char :=
  '"' :: s.toList.flatMap escapeChar ++ ['"']

mutual

def render : Json → List Char
  | .null => ['n', 'u', 'l', 'l']
  | .bool true => ['t', 'r', 'u', 'e']
  | .bool false => ['f', 'a', 'l', 's', 'e']
  | .num n => n.text
  | .str s => quote s
  | .arr items => '[' :: renderItems items
  | .obj fields => '{' :: renderFields fields

def renderItems : List Json → List Char
  | [] => [']']
  | [v] => render v ++ [']']
  | v :: rest => render v ++ ',' :: renderItems rest

def renderFields : List (String × Json) → List Char
  | [] => ['}']
  | [(k, v)] => quote k ++ ':' :: render v ++ ['}']
  | (k, v) :: rest => quote k ++ ':' :: render v ++ ',' :: renderFields rest

end

def text (v : Json) : String :=
  String.ofList v.render

def newline (depth : Nat) : List Char :=
  '\n' :: List.replicate (2 * depth) ' '

mutual

/-- The text of a value that stands `depth` levels deep. -/
def renderIndented (depth : Nat) : Json → List Char
  | .arr [] => ['[', ']']
  | .arr items => '[' :: newline (depth + 1) ++ indentedItems depth items
  | .obj [] => ['{', '}']
  | .obj fields => '{' :: newline (depth + 1) ++ indentedFields depth fields
  | .null => ['n', 'u', 'l', 'l']
  | .bool true => ['t', 'r', 'u', 'e']
  | .bool false => ['f', 'a', 'l', 's', 'e']
  | .num n => n.text
  | .str s => quote s

def indentedItems (depth : Nat) : List Json → List Char
  | [] => [']']
  | [v] => renderIndented (depth + 1) v ++ newline depth ++ [']']
  | v :: rest =>
    renderIndented (depth + 1) v ++ ',' :: newline (depth + 1) ++ indentedItems depth rest

def indentedFields (depth : Nat) : List (String × Json) → List Char
  | [] => ['}']
  | [(k, v)] =>
    quote k ++ ':' :: ' ' :: renderIndented (depth + 1) v ++ newline depth ++ ['}']
  | (k, v) :: rest =>
    quote k ++ ':' :: ' ' :: renderIndented (depth + 1) v ++ ',' :: newline (depth + 1) ++
      indentedFields depth rest

end

end RequestFlow.Json
