/-!
# RequestFlow.Document.Groups

A text cut into bracketed groups and the gaps between them.

* `Group`  — a gap, the bracketed text after it, and the line of the opening bracket.
* `split`  — the groups of a text at depth zero, and how the text ends.

Brackets nest inside a group. A closing bracket outside every group belongs to its gap.
-/

namespace RequestFlow

structure Group where
  gap : List Char
  body : List Char
  line : Nat
deriving Repr, DecidableEq

/-- How a text ends: after a last gap, or inside a group that is never closed. -/
inductive Ending where
  | closed (gap : List Char)
  | unclosed (gap : List Char) (line : Nat)
deriving Repr, DecidableEq

structure Split where
  groups : List Group
  ending : Ending
deriving Repr, DecidableEq

namespace Group

def lineAfter (c : Char) (line : Nat) : Nat :=
  if c = '\n' then line + 1 else line

mutual

/-- Outside every group; `gap` holds the gap so far, its last character first. -/
def outside (opener closer : Char) (gap : List Char) (line : Nat) : List Char → Split
  | [] => ⟨[], .closed gap.reverse⟩
  | c :: rest =>
    if c = opener then inside opener closer gap.reverse line 0 [] line rest
    else outside opener closer (c :: gap) (lineAfter c line) rest

/-- Inside a group opened on line `opened`, `depth` brackets deeper than its own. -/
def inside (opener closer : Char) (gap : List Char) (opened depth : Nat) (body : List Char)
    (line : Nat) : List Char → Split
  | [] => ⟨[], .unclosed gap opened⟩
  | c :: rest =>
    if c = opener then
      inside opener closer gap opened (depth + 1) (c :: body) line rest
    else if c = closer then
      match depth with
      | 0 =>
        let after := outside opener closer [] line rest
        { after with groups := ⟨gap, body.reverse, opened⟩ :: after.groups }
      | depth + 1 => inside opener closer gap opened depth (c :: body) line rest
    else inside opener closer gap opened depth (c :: body) (lineAfter c line) rest

end

/-- The groups of a text whose first line has the number `line`. -/
def split (opener closer : Char) (line : Nat) (text : List Char) : Split :=
  outside opener closer [] line text

end Group

end RequestFlow
