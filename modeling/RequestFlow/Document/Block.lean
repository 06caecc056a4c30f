import RequestFlow.Document.Error
import RequestFlow.Document.Groups
import RequestFlow.Document.Leaf
import RequestFlow.Text.Blank

/-!
# RequestFlow.Document.Block

A document is a sequence of blocks `name (body)`. The name is the text before the bracket,
back to the line's start or the block before, without the blanks around it; a block without
a name is the global one, and the name `global` itself is reserved.
-/

namespace RequestFlow

structure Block where
  name : String
  body : List Char
  /-- Line of the opening bracket. -/
  line : Nat
deriving Repr, DecidableEq

namespace Block

open Text

/-- The name that a gap gives to the block after it; empty for the global block. -/
def nameOf (gap : List Char) : String :=
  String.ofList (trim (gap.reverse.takeWhile (· != '\n')).reverse)

def knownAs (name : String) : String :=
  if name.isEmpty then globalName else name

def checkName (taken : List String) (name : String) (line : Nat) : Except DocumentError Unit :=
  if name = globalName then .error (.reservedName line)
  else if taken.contains (knownAs name) then
    .error (if name.isEmpty then .duplicateAnonymousBlock line else .duplicateLeaf name line)
  else .ok ()

/-- A gap that starts on `line` may not hold a closing bracket. -/
def checkGap (gap : List Char) (line : Nat) : Except DocumentError Unit :=
  if gap.contains ')' then
    .error (.unexpectedClose (line + newlines (gap.takeWhile (· != ')'))))
  else .ok ()

def ofGroups (taken : List String) (line : Nat) (ending : Ending) :
    List Group → Except DocumentError (List Block)
  | [] =>
    match ending with
    | .closed gap =>
      match checkGap gap line with
      | .error e => .error e
      | .ok () => .ok []
    | .unclosed gap opened =>
      match checkGap gap line with
      | .error e => .error e
      | .ok () =>
        let name := nameOf gap
        match checkName taken name opened with
        | .error e => .error e
        | .ok () => .error (.unterminatedBlock (knownAs name) opened)
  | g :: rest =>
    match checkGap g.gap line with
    | .error e => .error e
    | .ok () =>
      let name := nameOf g.gap
      match checkName taken name g.line with
      | .error e => .error e
      | .ok () =>
        match ofGroups (knownAs name :: taken) (g.line + newlines g.body) ending rest with
        | .error e => .error e
        | .ok blocks => .ok (⟨knownAs name, g.body, g.line⟩ :: blocks)

def splitAll (text : List Char) : Except DocumentError (List Block) :=
  let s := Group.split '(' ')' 1 text
  ofGroups [] 1 s.ending s.groups

end Block

end RequestFlow
