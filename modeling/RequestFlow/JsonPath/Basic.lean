import RequestFlow.Json.Compare
import RequestFlow.Pattern.Search

/-!
# RequestFlow.JsonPath.Basic

Paths through a value. A path starts at the root or at a current node and goes on by
segments, each of which selects children of the nodes reached, or also of all nodes below
them.

* `Path.select` — the nodes that a path reaches, in order.
* `Condition.holds` — whether a node passes a filter.
-/

namespace RequestFlow.JsonPath

inductive Relation where
  | eq
  | ne
  | lt
  | le
  | gt
  | ge
deriving Repr, DecidableEq

mutual

inductive Selector where
  | name (s : String)
  | wildcard
  | index (i : Int)
  | slice (start stop : Option Int) (step : Int)
  | filter (c : Condition)

inductive Segment where
  /-- With `deep`, the nodes below a node are searched too. -/
  | mk (deep : Bool) (selectors : List Selector)

inductive Path where
  | mk (absolute : Bool) (segments : List Segment)

inductive Condition where
  | either (a b : Condition)
  | both (a b : Condition)
  | not (c : Condition)
  /-- The path reaches some node. -/
  | reaches (p : Path)
  | relation (r : Relation) (lhs rhs : Operand)
  /-- The pattern matches the text, all of it or a part. -/
  | fits (whole : Bool) (text pattern : Operand)

inductive Operand where
  | literal (v : Json)
  /-- A path that reaches at most one node. -/
  | node (p : Path)
  | length (a : Operand)
  | count (p : Path)
  /-- The only node that the path reaches. -/
  | value (p : Path)

end

instance : Inhabited Selector := ⟨.wildcard⟩

def children : Json → List Json
  | .arr items => items
  | .obj fields => fields.map (·.2)
  | _ => []

mutual

/-- A node and all nodes below it, each before those below it. -/
def below : Json → List Json
  | .arr items => .arr items :: belowAll items
  | .obj fields => .obj fields :: belowFields fields
  | v => [v]

def belowAll : List Json → List Json
  | [] => []
  | v :: rest => below v ++ belowAll rest

def belowFields : List (String × Json) → List Json
  | [] => []
  | (_, v) :: rest => below v ++ belowFields rest

end

/-- The item at an index, counted from the end when negative. -/
def item? (v : Json) (i : Int) : Option Json :=
  match v with
  | .arr items =>
    let i := if i < 0 then i + items.length else i
    if i < 0 then none else items[i.toNat]?
  | _ => none

/-- An index counted from the start, held between two bounds. -/
def clamp (length low high i : Int) : Int :=
  max low (min high (if i < 0 then i + length else i))

/-- The items from `i` on by `step` up to, and without, `stop`. -/
def steps (items : List Json) (step stop : Int) : (fuel : Nat) → Int → List Json
  | 0, _ => []
  | fuel + 1, i =>
    if (0 < step ∧ i < stop) ∨ (step < 0 ∧ stop < i) then
      match items[i.toNat]? with
      | some v => v :: steps items step stop fuel (i + step)
      | none => []
    else []

def slice (v : Json) (start stop : Option Int) (step : Int) : List Json :=
  match v with
  | .arr items =>
    let n : Int := items.length
    if step = 0 then []
    else if 0 < step then
      steps items step (clamp n 0 n (stop.getD n)) items.length (clamp n 0 n (start.getD 0))
    else
      let stop := (stop.map (clamp n (-1) (n - 1))).getD (-1)
      let start := (start.map (clamp n (-1) (n - 1))).getD (n - 1)
      steps items step stop items.length start
  | _ => []

def lengthOf? : Json → Option Nat
  | .str s => some s.toList.length
  | .arr items => some items.length
  | .obj fields => some fields.length
  | _ => none

/-- The relation of two values, either of which may be missing. -/
def Relation.holds (r : Relation) (a b : Option Json) : Bool :=
  let equal : Bool :=
    match a, b with
    | none, none => true
    | some x, some y => x.eqv y
    | _, _ => false
  let less (a b : Option Json) : Bool :=
    match a, b with
    | some x, some y => x.compare? y == some .lt
    | _, _ => false
  match r with
  | .eq => equal
  | .ne => !equal
  | .lt => less a b
  | .le => less a b || equal
  | .gt => less b a
  | .ge => less b a || equal

/-- Whether a pattern matches a text, all of it or a part. A faulty pattern matches none. -/
def fits (whole : Bool) (text pattern : Option Json) : Bool :=
  match text, pattern with
  | some (.str s), some (.str p) =>
    let source := if whole then "(?R)^(" ++ p ++ ")$" else "(?R)(" ++ p ++ ")"
    match Regex.ofText? source.toList with
    | .ok r => r.isMatch s.toList
    | .error _ => false
  | _, _ => false

mutual

def Selector.select (root node : Json) : Selector → List Json
  | .name s => (node.get? s).toList
  | .wildcard => children node
  | .index i => (item? node i).toList
  | .slice start stop step => slice node start stop step
  | .filter c => (children node).filter fun child => Condition.holds root child c

def selectAll (root node : Json) : List Selector → List Json
  | [] => []
  | s :: rest => Selector.select root node s ++ selectAll root node rest

def Segment.select (root node : Json) : Segment → List Json
  | .mk false selectors => selectAll root node selectors
  | .mk true selectors => (below node).flatMap fun v => selectAll root v selectors

def follow (root : Json) (nodes : List Json) : List Segment → List Json
  | [] => nodes
  | s :: rest => follow root (nodes.flatMap fun v => Segment.select root v s) rest

def Path.select (root current : Json) : Path → List Json
  | .mk absolute segments => follow root [if absolute then root else current] segments

def Condition.holds (root current : Json) : Condition → Bool
  | .either a b => Condition.holds root current a || Condition.holds root current b
  | .both a b => Condition.holds root current a && Condition.holds root current b
  | .not c => !Condition.holds root current c
  | .reaches p => !(Path.select root current p).isEmpty
  | .relation r lhs rhs =>
    r.holds (Operand.value? root current lhs) (Operand.value? root current rhs)
  | .fits whole text pattern =>
    fits whole (Operand.value? root current text) (Operand.value? root current pattern)

def Operand.value? (root current : Json) : Operand → Option Json
  | .literal v => some v
  | .node p => (Path.select root current p).head?
  | .length a => ((Operand.value? root current a).bind lengthOf?).map .nat
  | .count p => some (.nat (Path.select root current p).length)
  | .value p =>
    match Path.select root current p with
    | [v] => some v
    | _ => none

end

def Path.nodes (p : Path) (v : Json) : List Json :=
  p.select v v

end RequestFlow.JsonPath
