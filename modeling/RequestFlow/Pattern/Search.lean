import RequestFlow.Pattern.Parser
import RequestFlow.Pattern.Program

/-!
# RequestFlow.Pattern.Search

The first match of a pattern in a text. All threads read the text together; they stand in
the order of preference, so the first one to accept decides the match and ends those after
it. A match that starts earlier is preferred to any that starts later.

* `closure`      — the threads that a thread becomes before it reads on.
* `search`       — the places noted by the preferred match.
* `Regex`        — a pattern with its instructions and the names of its groups.
* `Regex.capture`— the text of a group in the first match.
-/

namespace RequestFlow.Pattern

/-- Places in the text by slot. -/
abbrev Slots := List (Nat × Nat)

structure Thread where
  address : Nat
  slots : Slots

/-- A place in a text: how many characters precede it and the two beside it. -/
structure Place where
  index : Nat
  before : Option Char
  after : Option Char

/-- The reading or accepting threads that those of `work` lead to, in the order of
preference. An address is visited once. A visit adds at most two threads to the work, so
twice the number of instructions and the work itself bound the steps. -/
def closure (code : Code) (here : Place) :
    (steps : Nat) → (work : List Thread) → (seen : Array Bool) → (found : List Thread) →
    List Thread × Array Bool
  | 0, _, seen, found => (found, seen)
  | _, [], seen, found => (found, seen)
  | steps + 1, t :: work, seen, found =>
    if seen[t.address]?.getD true then closure code here steps work seen found
    else
      let seen := seen.setIfInBounds t.address true
      match code[t.address]?.getD .accept with
      | .char _ | .accept => closure code here steps work seen (t :: found)
      | .look l =>
        if l.holds here.before here.after then
          closure code here steps ({ t with address := t.address + 1 } :: work) seen found
        else closure code here steps work seen found
      | .save slot =>
        closure code here steps (⟨t.address + 1, (slot, here.index) :: t.slots⟩ :: work) seen found
      | .fork a b =>
        closure code here steps ({ t with address := a } :: { t with address := b } :: work)
          seen found
      | .jump a => closure code here steps ({ t with address := a } :: work) seen found

/-- The threads standing at a place, given those that arrive there. -/
def settleThreads (code : Code) (here : Place) (arrived : List Thread) : List Thread :=
  (closure code here (2 * code.size + arrived.length + 1) arrived
    (Array.replicate code.size false) []).1.reverse

def splitAccepting (code : Code) : List Thread → List Thread × Option Thread
  | [] => ([], none)
  | t :: rest =>
    match code[t.address]?.getD .accept with
    | .accept => ([], some t)
    | _ =>
      let (before, accepting) := splitAccepting code rest
      (t :: before, accepting)

def advance (code : Code) (c : Char) (threads : List Thread) : List Thread :=
  threads.filterMap fun t =>
    match code[t.address]?.getD .accept with
    | .char s => if s.has c.toNat then some { t with address := t.address + 1 } else none
    | _ => none

/-- The best match from a place on, given the threads that arrive there and the best match
so far. While there is none, a new thread may start at each place. -/
def searchFrom (code : Code) (index : Nat) (before : Option Char) (arrived : List Thread)
    (best : Option Slots) : List Char → Option Slots
  | [] =>
    let arrived := if best.isNone then arrived ++ [⟨0, []⟩] else arrived
    match splitAccepting code (settleThreads code ⟨index, before, none⟩ arrived) with
    | (_, some t) => some t.slots
    | (_, none) => best
  | c :: rest =>
    let arrived := if best.isNone then arrived ++ [⟨0, []⟩] else arrived
    let (threads, accepting) :=
      splitAccepting code (settleThreads code ⟨index, before, some c⟩ arrived)
    let best := (accepting.map (·.slots)).or best
    let arrived := advance code c threads
    if arrived.isEmpty && best.isSome then best
    else searchFrom code (index + 1) (some c) arrived best rest

def search (code : Code) (s : List Char) : Option Slots :=
  searchFrom code 0 none [] none s

end RequestFlow.Pattern

namespace RequestFlow

structure Regex where
  code : Pattern.Code
  /-- Names of the groups, from the first on. -/
  names : List (Option String)

namespace Regex

open Pattern

def ofText? (s : List Char) : Except Fault Regex :=
  match branches 0 (s.length + 1) {} [] [] [] s with
  | .error e => .error e
  | .ok r =>
    if nestingLimit < r.pattern.nesting then .error .tooDeep
    else if weightLimit < r.pattern.weight then .error .tooLarge
    else .ok ⟨r.pattern.code, r.names.reverse⟩

def isMatch (r : Regex) (s : List Char) : Bool :=
  (search r.code s).isSome

def groupText? (s : List Char) (slots : Slots) (index : Nat) : Option (List Char) :=
  match slots.lookup (2 * index), slots.lookup (2 * index + 1) with
  | some start, some stop => some ((s.drop start).take (stop - start))
  | _, _ => none

def groupIndex? (r : Regex) (name : String) : Option Nat :=
  (r.names.findIdx? (· == some name)).map (· + 1)

end Regex

end RequestFlow
