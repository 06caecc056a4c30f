import RequestFlow.Document.Cell

/-!
# RequestFlow.Document.Reader

Documents read from octets.

* `Document.read` — every block in turn; the first faulty one decides the error.
* `Pool`          — blocks read by workers. A schedule says which of the blocks in flight is
  done next; a block is taken up as soon as fewer than `bound` are in flight. The pool keeps a
  list of its moves.
* `Document.readPooled` — the document of a pool run, with the leaves in declaration order.
-/

namespace RequestFlow

open Text.Utf8 (Bytes)

namespace Document

def blocksOf (bytes : Bytes) : Except DocumentError (List Block) :=
  match Text.Utf8.decode? bytes with
  | .error offset => .error (.invalidUtf8 offset)
  | .ok text => Block.splitAll text

def leavesOf : List Block → Except DocumentError (List Leaf)
  | [] => .ok []
  | b :: rest =>
    match Leaf.ofBlock b with
    | .error e => .error e
    | .ok leaf =>
      match leavesOf rest with
      | .error e => .error e
      | .ok leaves => .ok (leaf :: leaves)

def read (bytes : Bytes) : Except DocumentError Document :=
  match blocksOf bytes with
  | .error e => .error e
  | .ok blocks =>
    match leavesOf blocks with
    | .error e => .error e
    | .ok leaves => .ok ⟨leaves⟩

end Document

/-- What a pool does with a block, which is known by its place in the document. -/
inductive Move where
  | takenUp (place : Nat)
  | finished (place : Nat)
deriving Repr, DecidableEq

/-- Blocks with their places: waiting, in flight, and the leaves of those done. -/
structure Pool where
  waiting : List (Nat × Block)
  inFlight : List (Nat × Block)
  done : List (Nat × Leaf)
  /-- What the pool did so far. -/
  moves : List Move
deriving Repr

namespace Pool

def start (blocks : List Block) : Pool :=
  ⟨blocks.zipIdx.map fun (b, i) => (i, b), [], [], []⟩

def takeUp (p : Pool) (entry : Nat × Block) (rest : List (Nat × Block)) : Pool :=
  { p with
    waiting := rest
    inFlight := p.inFlight ++ [entry]
    moves := p.moves ++ [.takenUp entry.1] }

/-- Takes up blocks in turn while fewer than `bound` are in flight. -/
def fillFrom (bound : Nat) : List (Nat × Block) → Pool → Pool
  | [], p => p
  | entry :: rest, p =>
    if p.inFlight.length < bound then fillFrom bound rest (p.takeUp entry rest) else p

def fill (bound : Nat) (p : Pool) : Pool :=
  fillFrom bound p.waiting p

/-- A worker is done with the block of the document's place `place`, the one at `pick` among
those in flight. -/
def finish (p : Pool) (pick place : Nat) : Pool :=
  { p with
    inFlight := p.inFlight.eraseIdx pick
    moves := p.moves ++ [.finished place] }

/-- Lets the block at `pick` among those in flight be done, and the pool be filled up for the
next. The run ends with the first faulty block, or when no block is in flight. -/
def run (bound : Nat) (schedule : Nat → Nat) : (steps : Nat) → Pool →
    Pool × Option DocumentError
  | 0, p => (p, none)
  | steps + 1, p =>
    let p := p.fill bound
    let pick := schedule steps % p.inFlight.length
    match p.inFlight[pick]? with
    | none => (p, none)
    | some (place, block) =>
      let p := p.finish pick place
      match Leaf.ofBlock block with
      | .error e => (p, some e)
      | .ok leaf => run bound schedule steps { p with done := (place, leaf) :: p.done }

def readAll (workers : Nat) (schedule : Nat → Nat) (blocks : List Block) :
    Pool × Option DocumentError :=
  run (max workers 1) schedule (blocks.length + 1) (start blocks)

end Pool

namespace Document

/-- Reads with at most `max workers 1` blocks in flight. -/
def readPooled (workers : Nat) (schedule : Nat → Nat) (bytes : Bytes) :
    Except DocumentError Document :=
  match blocksOf bytes with
  | .error e => .error e
  | .ok blocks =>
    match Pool.readAll workers schedule blocks with
    | (_, some e) => .error e
    | (p, none) =>
      let leaves := (List.range blocks.length).filterMap fun place => p.done.lookup place
      if leaves.length = blocks.length then .ok ⟨leaves⟩
      else .error (.worker "parse worker produced no result")

/-- The schedule in which the block taken up first is done first. -/
def inTurn : Nat → Nat := fun _ => 0

end Document

end RequestFlow
