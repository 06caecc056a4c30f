import RequestFlow.Proofs.Run.Leaf

/-!
# RequestFlow.Proofs.Run.Steps

The ways in which a list of leaves is run.

* `leafStep` — one leaf with the events around it.
* `Runs`     — the ways in which `runLeaves` goes on: `runs_runLeaves` says that there are no
  others, so a property of whole runs is an induction over `Runs`.
-/

namespace RequestFlow
namespace Run

/-- A leaf with the events around it. -/
def leafStep (h : Host) (i : Nat) (s : State) (leaf : Leaf) : State × Record :=
  let (s, record) := runLeaf h leaf [i] (s.emit h (.leafStarted leaf.name leaf.isGlobal))
  (s.emit h (.leafFinished record), record)

def Outcome.after (o : Outcome) (record : Record) : Outcome :=
  { o with report := { o.report with records := record :: o.report.records } }

/-- Leaves numbered from `i` on, run from a state on, come to an outcome. -/
inductive Runs (h : Host) : Nat → State → List Leaf → Outcome → Prop where
  | done (i : Nat) (s : State) : Runs h i s [] ⟨s, ⟨[], none, false, []⟩⟩
  | stopped {i : Nat} {s : State} {leaf : Leaf} {rest : List Leaf} :
      s.cancelled = true →
      Runs h i s (leaf :: rest) ⟨s, ⟨[], none, true, leaf.name :: rest.map (·.name)⟩⟩
  | interrupted {i : Nat} {s s' : State} {leaf : Leaf} {rest : List Leaf} {r : Record} :
      s.cancelled = false → leafStep h i s leaf = (s', r) → r.wasCancelled = true →
      Runs h i s (leaf :: rest) ⟨s', ⟨[r], none, true, rest.map (·.name)⟩⟩
  | aborted {i : Nat} {s s' : State} {leaf : Leaf} {rest : List Leaf} {r : Record} :
      s.cancelled = false → leafStep h i s leaf = (s', r) → r.wasCancelled = false →
      leaf.mandatory = true → r.passed = false →
      Runs h i s (leaf :: rest)
        ⟨s'.emit h (.runAborted leaf.name), ⟨[r], some leaf.name, false, rest.map (·.name)⟩⟩
  | next {i : Nat} {s s' : State} {leaf : Leaf} {rest : List Leaf} {r : Record} {o : Outcome} :
      s.cancelled = false → leafStep h i s leaf = (s', r) → r.wasCancelled = false →
      (leaf.mandatory = true → r.passed = true) → Runs h (i + 1) s' rest o →
      Runs h i s (leaf :: rest) (o.after r)

theorem runLeaves_cons (h : Host) (i : Nat) (s : State) (leaf : Leaf) (rest : List Leaf) :
    runLeaves h i s (leaf :: rest) =
      if s.cancelled then ⟨s, ⟨[], none, true, leaf.name :: rest.map (·.name)⟩⟩
      else if (leafStep h i s leaf).2.wasCancelled then
        ⟨(leafStep h i s leaf).1, ⟨[(leafStep h i s leaf).2], none, true, rest.map (·.name)⟩⟩
      else if leaf.mandatory && !(leafStep h i s leaf).2.passed then
        ⟨(leafStep h i s leaf).1.emit h (.runAborted leaf.name),
          ⟨[(leafStep h i s leaf).2], some leaf.name, false, rest.map (·.name)⟩⟩
      else (runLeaves h (i + 1) (leafStep h i s leaf).1 rest).after (leafStep h i s leaf).2 := rfl

theorem runs_runLeaves (h : Host) (leaves : List Leaf) :
    ∀ (i : Nat) (s : State), Runs h i s leaves (runLeaves h i s leaves) := by
  induction leaves with
  | nil => intro i s; exact .done i s
  | cons leaf rest ih =>
    intro i s
    rw [runLeaves_cons]
    split
    · exact .stopped ‹_›
    · rename_i hc
      have hc : s.cancelled = false := by simpa using hc
      split
      · exact .interrupted hc rfl ‹_›
      · rename_i hw
        have hw : (leafStep h i s leaf).2.wasCancelled = false := by simpa using hw
        split
        · rename_i hm
          simp only [Bool.and_eq_true, Bool.not_eq_true'] at hm
          exact .aborted hc rfl hw hm.1 hm.2
        · rename_i hm
          refine .next hc rfl hw (fun hmandatory => ?_) (ih (i + 1) _)
          simpa [hmandatory] using hm

/-- The state in which the first of `leaves` is met. -/
def opened (h : Host) (globals : Vars) (leaves : List Leaf) : State :=
  (State.start h globals).emit h (.runStarted leaves.length)

/-- The outcome after the events that end a run. -/
def Outcome.closed (h : Host) (o : Outcome) : Outcome :=
  let s := if o.report.cancelled then o.state.emit h .runCancelled else o.state
  { o with state := s.emit h o.report.finished }

@[simp] theorem closed_report (h : Host) (o : Outcome) : (o.closed h).report = o.report := rfl

theorem runAll_eq (h : Host) (globals : Vars) (leaves : List Leaf) :
    runAll h globals leaves = (runLeaves h 0 (opened h globals leaves) leaves).closed h := rfl

section Step

variable {h : Host} {i : Nat} {s s' : State} {leaf : Leaf} {r : Record}

theorem leafStep_name (hs : leafStep h i s leaf = (s', r)) : r.name = leaf.name := by
  cases hs; rfl

theorem leafStep_mandatory (hs : leafStep h i s leaf = (s', r)) :
    r.mandatory = leaf.mandatory := by
  cases hs; rfl

theorem leafStep_isGlobal (hs : leafStep h i s leaf = (s', r)) : r.isGlobal = leaf.isGlobal := by
  cases hs; rfl

theorem leafStep_trace (hs : leafStep h i s leaf = (s', r)) :
    ∃ es globals, (∀ e ∈ es, OwnEffect leaf.name e) ∧
      s'.trace = s.trace ++ [.event (.leafStarted leaf.name leaf.isGlobal) s.globals] ++ es ++
        [.event (.leafFinished r) globals] := by
  obtain ⟨es, he, hown⟩ := (execute_sends h leaf [i]
    (s.emit h (.leafStarted leaf.name leaf.isGlobal))).own.trace
  refine ⟨es, s'.globals, hown, ?_⟩
  cases hs
  simp only [emit_trace, emit_globals, he]

end Step

end Run
end RequestFlow
