import RequestFlow.Plan.Basic

/-!
# RequestFlow.Plan.Text

A plan as numbered lines, and as a graph in the DOT language.
-/

namespace RequestFlow.Plan

def needs (p : Plan) (leaf : String) : List String :=
  (p.dependsOn.get? leaf).getD []

def orderLine (p : Plan) (i : Nat) (leaf : String) : String :=
  let needs := p.needs leaf
  let after := if needs.isEmpty then "" else " (after " ++ ", ".intercalate needs ++ ")"
  s!"  {i + 1}. {leaf}{after}\n"

def levelLine (i : Nat) (leaves : List String) : String :=
  s!"  Level {i}: " ++ ", ".intercalate leaves ++ "\n"

def text (p : Plan) : String :=
  "execution order:\n" ++
    String.join (p.order.zipIdx.map fun (leaf, i) => p.orderLine i leaf) ++
    "\nlevels:\n" ++
    String.join (p.levels.zipIdx.map fun (leaves, i) => levelLine i leaves)

/-- Quotes and backslashes are escaped, a newline is written `\n`, and a carriage return is
left out. -/
def dotEscape (c : Char) : List Char :=
  if c == '"' then ['\\', '"']
  else if c == '\\' then ['\\', '\\']
  else if c == '\n' then ['\\', 'n']
  else if c == '\r' then []
  else [c]

def dotQuote (s : String) : String :=
  String.ofList ('"' :: s.toList.flatMap dotEscape ++ ['"'])

/-- The node of a leaf without dependencies, or the edges from its dependencies. -/
def dotLines (p : Plan) (leaf : String) : List String :=
  match p.needs leaf with
  | [] => [s!"  {dotQuote leaf};\n"]
  | needs => needs.map fun n => s!"  {dotQuote n} -> {dotQuote leaf};\n"

/-- A level of more than one leaf is drawn in one rank. -/
def dotRank (leaves : List String) : String :=
  if 1 < leaves.length then
    "  \x7b rank=same; " ++ String.join (leaves.map fun leaf => dotQuote leaf ++ "; ") ++ "\x7d\n"
  else ""

def dot (p : Plan) (title : String) : String :=
  "digraph pepper \x7b\n" ++ s!"  label={dotQuote title};\n" ++ "  labelloc=t;\n" ++
    "  rankdir=LR;\n" ++ String.join (p.order.flatMap p.dotLines) ++
    String.join (p.levels.map dotRank) ++ "\x7d\n"

end RequestFlow.Plan
