import RequestFlow.Json.Basic
import RequestFlow.Number.Literal
import RequestFlow.Yaml.Node

/-!
# RequestFlow.Yaml.Value

The value that a YAML document denotes.

A plain scalar denotes null, a truth value or a number if it is written like one, and a string
otherwise. A reference denotes what the node with its name denotes. Collections may be nested
128 levels deep, references included, and of the entries of a mapping with one key the last
one counts.

* `plainValue?` — the value of a plain scalar.
* `Node.value?` — the value of a node.
* `read`        — the value of a text.
-/

namespace RequestFlow.Yaml

/-! ## Plain scalars -/

def isNullWord (s : List Char) : Bool :=
  ["", "null", "Null", "NULL", "~"].contains (String.ofList s)

def boolWord? (s : List Char) : Option Bool :=
  let s := String.ofList s
  if ["true", "True", "TRUE"].contains s then some true
  else if ["false", "False", "FALSE"].contains s then some false
  else none

/-- Digits behind a zero are not a number. -/
def isZeroPadded (digits : List Char) : Bool :=
  1 < digits.length && digits.head? == some '0' && digits.all Char.isDigit

def based? : List Char → Option (Nat × List Char)
  | '0' :: 'x' :: digits => some (16, digits)
  | '0' :: 'o' :: digits => some (8, digits)
  | '0' :: 'b' :: digits => some (2, digits)
  | _ => none

def integerText? (s : List Char) : Option Int :=
  let (negative, s) : Bool × List Char := Decimal.splitSign s
  let magnitude : Option Nat :=
    match based? s with
    | some (base, digits) => if digits.isEmpty then none else Text.digitsIn? base digits
    | none => if Decimal.allDigits s then Text.digitsIn? 10 s else none
  magnitude.map fun n => if negative then -n else n

/-- Infinities and what is not a number; JSON has no such values. -/
def isUnreal (s : List Char) : Bool :=
  [".inf", ".Inf", ".INF", "+.inf", "+.Inf", "+.INF", "-.inf", "-.Inf", "-.INF", ".nan", ".NaN",
    ".NAN"].contains (String.ofList s)

/-- The value of a fraction; a number beyond the greatest one is a string. -/
def fractionValue (s : List Char) : Json :=
  if isUnreal s then .null
  else
    match (Decimal.ofText? s).bind Decimal.toDouble? with
    | some x => .num (.double x)
    | none => .str (String.ofList s)

/-- The value of an integer that is written as `s`. There is none outside of 64 bits, save
that beyond 128 bits an integer is read like a fraction. -/
def integerValue? (n : Int) (s : List Char) : Option Json :=
  match Number.ofInt? n with
  | some k => some (.num k)
  | none =>
    if -0x80000000000000000000000000000000 ≤ n ∧ n < 0x100000000000000000000000000000000 then none
    else some (fractionValue s)

def numberValue? (s : List Char) : Option Json :=
  if isZeroPadded (Decimal.splitSign s).2 then some (.str (String.ofList s))
  else
    match integerText? s with
    | some n => integerValue? n s
    | none => some (fractionValue s)

def plainValue? (s : List Char) : Option Json :=
  if isNullWord s then some .null
  else
    match boolWord? s with
    | some b => some (.bool b)
    | none => numberValue? s

/-! ## Tagged scalars -/

inductive CoreTag where
  | bool
  | int
  | float
  | null

def CoreTag.ofText? (tag : List Char) : Option CoreTag :=
  match String.ofList tag with
  | "tag:yaml.org,2002:bool" => some .bool
  | "tag:yaml.org,2002:int" => some .int
  | "tag:yaml.org,2002:float" => some .float
  | "tag:yaml.org,2002:null" => some .null
  | _ => none

def CoreTag.value? (s : List Char) : CoreTag → Option Json
  | .bool => (boolWord? s).map .bool
  | .int =>
    if isZeroPadded (Decimal.splitSign s).2 then none
    else
      (integerText? s).bind fun n => (Number.ofInt? n).map .num
  | .float =>
    if isUnreal s then some .null
    else ((Decimal.ofText? s).bind Decimal.toDouble?).map fun x => .num (.double x)
  | .null => if isNullWord s && !s.isEmpty then some .null else none

/-- A tag of the document's own has no value. -/
def isLocalTag (tag : Option (List Char)) : Bool :=
  tag.any fun t => t.head? == some '!'

def scalarValue? (p : Properties) (text : List Char) (isPlain : Bool) : Option Json :=
  match p.tag with
  | none => if isPlain then plainValue? text else some (.str (String.ofList text))
  | some tag =>
    if isLocalTag p.tag then none
    else
      match CoreTag.ofText? tag with
      | some kind => kind.value? text
      | none => some (.str (String.ofList text))

/-! ## Nodes -/

namespace Node

mutual

def size : Node → Nat
  | .reference _ _ => 1
  | .scalar _ _ _ => 1
  | .sequence _ items => sizeItems items + 2
  | .mapping _ entries => sizeEntries entries + 2

def sizeItems : List Node → Nat
  | [] => 0
  | n :: rest => size n + sizeItems rest

def sizeEntries : List (Node × Node) → Nat
  | [] => 0
  | (k, v) :: rest => size k + size v + sizeEntries rest

end

abbrev Anchored := List (List Char × Node)

def here (anchor : Option (List Char)) (n : Node) : Anchored :=
  (anchor.map fun name => (name, n)).toList

mutual

/-- The nodes that carry an anchor, in the order of the document. -/
def anchored : Node → Anchored
  | .reference _ _ => []
  | .scalar p text isPlain => here p.anchor (.scalar p text isPlain)
  | .sequence p items => here p.anchor (.sequence p items) ++ anchoredItems items
  | .mapping p entries => here p.anchor (.mapping p entries) ++ anchoredEntries entries

def anchoredItems : List Node → Anchored
  | [] => []
  | n :: rest => anchored n ++ anchoredItems rest

def anchoredEntries : List (Node × Node) → Anchored
  | [] => []
  | (k, v) :: rest => anchored k ++ anchored v ++ anchoredEntries rest

end

/-- Anchored nodes by number: as many as there are different names before each of them. -/
def numbered (nodes : Anchored) : List (Nat × List Char × Node) :=
  let step (acc : List (List Char) × List (Nat × List Char × Node)) (e : List Char × Node) :=
    let names := if acc.1.contains e.1 then acc.1 else e.1 :: acc.1
    (names, (acc.1.length, e) :: acc.2)
  (nodes.foldl step ([], [])).2.reverse

/-- What a reference stands for: the last node that has the number of the last node before the
reference with its name. Where all names differ, that is the one node with its name. -/
def target? (nodes : Anchored) (name : List Char) (before : Nat) : Option Node :=
  let all := numbered nodes
  match (all.take before).reverse.find? fun e => e.2.1 == name with
  | none => none
  | some (number, _) => (all.reverse.lookup number).map (·.2)

/-- A reading that may follow so many references yet. -/
abbrev Resolving := StateT Nat Option

def resolve (nodes : Anchored) : Node → Resolving Node
  | .reference name before => do
    let left ← get
    if left = 0 then failure
    set (left - 1)
    match target? nodes name before with
    | some n => return n
    | none => failure
  | n => return n

def keyText? (nodes : Anchored) (n : Node) : Resolving String := do
  match ← resolve nodes n with
  | .scalar _ text _ => return String.ofList text
  | _ => failure

def valueWithin (nodes : Anchored) : (depth : Nat) → Node → Resolving Json
  | depth, n => do
    match ← resolve nodes n, depth with
    | .scalar p text isPlain, _ => (scalarValue? p text isPlain : Option Json)
    | .sequence p items, depth + 1 =>
      if isLocalTag p.tag then failure
      return .arr (← items.mapM (valueWithin nodes depth))
    | .mapping p entries, depth + 1 =>
      if isLocalTag p.tag then failure
      let fields ← entries.mapM fun (k, v) => do
        let name ← keyText? nodes k
        return (name, ← valueWithin nodes depth v)
      return Json.ofFields fields
    | _, _ => failure

/-- The value of a root node, in which references may be followed a hundred times as often as
it has nodes. -/
def value? (root : Node) : Option Json :=
  ((valueWithin root.anchored 128 root).run (root.size * 100)).map (·.1)

end Node

def read (s : List Char) : Option Json := do
  let source ← source? s
  let tokens ← Token.ofSource? source
  match ← Node.ofTokens? tokens with
  | none => some .null
  | some root => root.value?

end RequestFlow.Yaml
