/-!
# RequestFlow.Document.Error

Why a document cannot be read.
-/

namespace RequestFlow

inductive DocumentError where
  | invalidUtf8 (offset : Nat)
  | reservedName (line : Nat)
  | duplicateLeaf (name : String) (line : Nat)
  | duplicateAnonymousBlock (line : Nat)
  | unterminatedBlock (name : String) (line : Nat)
  | unexpectedClose (line : Nat)
  | unterminatedCell (leaf cell : String) (line : Nat)
  | duplicateCell (leaf cell : String) (line : Nat)
  | invalidRequestLine (leaf text : String)
  | invalidHeaderLine (leaf text : String)
  | worker (text : String)
deriving Repr, DecidableEq

namespace DocumentError

def message : DocumentError → String
  | .invalidUtf8 offset => s!"document is not valid UTF-8 (at byte {offset})"
  | .reservedName line => s!"line {line}: `global` is a reserved leaf name"
  | .duplicateLeaf name line => s!"line {line}: duplicate leaf name: {name}"
  | .duplicateAnonymousBlock line =>
    s!"line {line}: only one anonymous block is allowed per document"
  | .unterminatedBlock name line => s!"line {line}: unterminated block `{name}` (missing ')')"
  | .unexpectedClose line => s!"line {line}: unexpected ')' outside of a block"
  | .unterminatedCell leaf cell line =>
    s!"leaf `{leaf}`, line {line}: unterminated `{cell}` cell (missing '\x7d')"
  | .duplicateCell leaf cell line =>
    s!"leaf `{leaf}`, line {line}: `{cell}` cell declared more than once"
  | .invalidRequestLine leaf text =>
    s!"leaf `{leaf}`: invalid request line `{text}` (expected `METHOD URL`)"
  | .invalidHeaderLine leaf text =>
    s!"leaf `{leaf}`: invalid header line `{text}` (expected `Key: Value`)"
  | .worker text => s!"parse worker failed: {text}"

/-- The line an error names, if it names one. -/
def line? : DocumentError → Option Nat
  | .reservedName line | .duplicateLeaf _ line | .duplicateAnonymousBlock line
  | .unterminatedBlock _ line | .unexpectedClose line | .unterminatedCell _ _ line
  | .duplicateCell _ _ line => some line
  | .invalidUtf8 _ | .invalidRequestLine _ _ | .invalidHeaderLine _ _ | .worker _ => none

end DocumentError

end RequestFlow
