import RequestFlow.Pattern.Basic

/-!
# RequestFlow.Pattern.Program

A pattern as instructions for threads that read a text together. A thread at a fork goes on
at both places, and prefers the first.
-/

namespace RequestFlow.Pattern

inductive Inst where
  /-- Reads one character of the set. -/
  | char (s : CharSet)
  | look (l : Look)
  /-- Notes the place in the text. -/
  | save (slot : Nat)
  | fork (first second : Nat)
  | jump (target : Nat)
  | accept

instance : Inhabited Inst := ⟨.accept⟩

abbrev Code := Array Inst

def forkFor (greedy : Bool) (more done : Nat) : Inst :=
  if greedy then .fork more done else .fork done more

def emitTimes (emit : Code → Code) : Nat → Code → Code
  | 0, code => code
  | n + 1, code => emitTimes emit n (emit code)

/-- `emit` after a fork that may pass over it and all that `rest` emits. -/
def emitOptional (emit : Code → Code) (greedy : Bool) : Nat → Code → Code
  | 0, code => code
  | n + 1, code =>
    let start := code.size
    let code := emitOptional emit greedy n (emit (code.push .accept))
    code.setIfInBounds start (forkFor greedy (start + 1) code.size)

def emitPlus (emit : Code → Code) (greedy : Bool) (code : Code) : Code :=
  let start := code.size
  let code := emit code
  code.push (forkFor greedy start (code.size + 1))

/-- `emit` any number of times. A body that may match the empty text is first entered by a
fork of its own, so that a round without progress is not preferred. -/
def emitStar (emit : Code → Code) (greedy nullable : Bool) (code : Code) : Code :=
  let start := code.size
  let code := code.push .accept
  let code :=
    if nullable then emitPlus emit greedy code else (emit code).push (.jump start)
  code.setIfInBounds start (forkFor greedy (start + 1) code.size)

def emit : Pattern → Code → Code
  | .empty, code => code
  | .set s, code => code.push (.char s)
  | .look l, code => code.push (.look l)
  | .seq p q, code => q.emit (p.emit code)
  | .alt p q, code =>
    let start := code.size
    let code := p.emit (code.push .accept)
    let leave := code.size
    let code := (code.push .accept).setIfInBounds start (.fork (start + 1) (leave + 1))
    let code := q.emit code
    code.setIfInBounds leave (.jump code.size)
  | .repeated p least none greedy, code =>
    if least = 0 then emitStar p.emit greedy p.nullable code
    else emitPlus p.emit greedy (emitTimes p.emit (least - 1) code)
  | .repeated p least (some most) greedy, code =>
    emitOptional p.emit greedy (most - least) (emitTimes p.emit least code)
  | .group index p, code => (p.emit (code.push (.save (2 * index)))).push (.save (2 * index + 1))

/-- The instructions of a whole pattern; its match is noted as group 0. -/
def code (p : Pattern) : Code :=
  (emit (.group 0 p) #[]).push .accept

/-- How many instructions a set takes in an automaton on octets, roughly. -/
def CharSet.weight : CharSet → Nat
  | .none => 1
  | .range first last => if last < 0x80 || first = last then 1 else 8
  | .runs rs => if rs.size ≤ 8 then 2 else 8 * rs.size
  | .word => 350
  | .union a b => a.weight + b.weight
  | .inter a b => a.weight + b.weight
  | .complement a => a.weight + 8
  | .folded a => 2 * a.weight

def weight : Pattern → Nat
  | .empty => 1
  | .set s => s.weight
  | .look _ => 1
  | .seq p q => p.weight + q.weight
  | .alt p q => p.weight + q.weight + 2
  | .repeated p least most _ => (p.weight + 1) * max 1 (most.getD (least + 1))
  | .group _ p => p.weight + 2

/-- Patterns that weigh more are refused. -/
def weightLimit : Nat := 320000

end RequestFlow.Pattern
