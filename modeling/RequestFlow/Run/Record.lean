import RequestFlow.Run.Error

/-!
# RequestFlow.Run.Record

What is recorded of a run: the stages of leaves, the record of each leaf that was started,
the events on the way, and the report at the end.
-/

namespace RequestFlow

inductive Stage where
  | pending
  | beforeHook
  | expansion
  | dispatch
  | afterHook
  | completed
deriving Repr, DecidableEq

def Stage.name : Stage → String
  | .pending => "pending"
  | .beforeHook => "pre_hook"
  | .expansion => "template_expand"
  | .dispatch => "dispatch"
  | .afterHook => "post_hook"
  | .completed => "completed"

structure Record where
  name : String
  stage : Stage
  /-- Absent when the leaf passed. -/
  error : Option LeafError := none
  /-- The status of the response, once there is one. -/
  httpStatus : Option Nat := none
  mandatory : Bool
  /-- Whether the leaf is the global one. -/
  isGlobal : Bool
deriving Repr, DecidableEq

namespace Record

def passed (r : Record) : Bool :=
  r.error.isNone

def status (r : Record) : String :=
  if r.passed then "pass" else "fail"

def wasCancelled (r : Record) : Bool :=
  r.error == some .cancelled

end Record

inductive Event where
  | runStarted (leaves : Nat)
  | leafStarted (leaf : String) (isGlobal : Bool)
  | leafFinished (record : Record)
  | runAborted (leaf : String)
  | runCancelled
  | runFinished (passed failed notRun : Nat)
deriving Repr, DecidableEq

def Event.name : Event → String
  | .runStarted _ => "run.started"
  | .leafStarted _ _ => "leaf.started"
  | .leafFinished r => if r.passed then "leaf.passed" else "leaf.failed"
  | .runAborted _ => "run.aborted"
  | .runCancelled => "run.cancelled"
  | .runFinished _ _ _ => "run.finished"

structure Report where
  /-- One record for each leaf that was started, in their order. -/
  records : List Record
  /-- The mandatory leaf whose failure ended the run. -/
  abortedBy : Option String
  cancelled : Bool
  notRun : List String
deriving Repr, DecidableEq

namespace Report

def passed (r : Report) : Nat :=
  r.records.countP (·.passed)

def failed (r : Report) : Nat :=
  r.records.length - r.passed

def isSuccess (r : Report) : Bool :=
  r.failed == 0 && r.abortedBy.isNone && !r.cancelled

def record? (r : Report) (name : String) : Option Record :=
  r.records.find? (·.name == name)

def finished (r : Report) : Event :=
  .runFinished r.passed r.failed r.notRun.length

end Report

end RequestFlow
