import RequestFlow.Hook.Program
import RequestFlow.Run.Outgoing
import RequestFlow.Run.Record

/-!
# RequestFlow.Run.Host

What a run meets outside: hooks, a client, whoever holds the variables, and whoever may
cancel it. All of these may depend on what the run has done so far, its trace.

* `Engine`  — how the hooks of a leaf are compiled and run; `Engine.script` is the hook
  language.
* `Host`    — everything outside.
* `State`   — the variables, the trace, and whether the run has been cancelled. Once
  cancelled, a run stays so.
-/

namespace RequestFlow

open Hook (Side Site Scene HookError)

/-- How a hook's call ends: with a scene and perhaps a failure, or never, with what it has
made of the shared variables so far. -/
inductive HookCall where
  | done (scene : Scene) (failure : Option HookError)
  | stuck (globals : Vars)

structure HookPair where
  /-- Whether a call waits for the variables. -/
  needsGlobals : Side → Bool
  call : Side → Site → Scene → HookCall

/-- What a run does that others may notice, and act on. -/
inductive Effect where
  /-- An event, and the variables at that moment. -/
  | event (e : Event) (globals : Vars)
  /-- A hook was run. -/
  | hook (leaf : String) (side : Side)
  /-- The variables were waited for in vain. -/
  | waited
  /-- The variables were there for the expansion of a request. -/
  | expansion (leaf : String)
  | sent (leaf : String) (r : Outgoing)

abbrev Trace := List Effect

structure Engine where
  /-- The hooks of a leaf that is compiled after a trace. -/
  compile : Trace → Leaf → Except HookError HookPair

/-- The hook language. A hook without statements waits for nothing. -/
def Engine.script (w : Hook.World) : Engine where
  compile _ leaf :=
    match leaf.hooks with
    | .error e => .error (.compile e)
    | .ok hooks =>
      let program : Side → List Hook.Statement
        | .before => hooks.before
        | .after => hooks.after
      .ok {
        needsGlobals := fun side => !(program side).isEmpty
        call := fun side site scene =>
          let (scene, failure) := Hook.run w site (program side) scene
          .done scene failure }

/-- How a client answers: with a response, with a failure, or never. -/
inductive Answer where
  | response (r : Response)
  | failure (e : TransportError)
  | silence
deriving Repr, DecidableEq

structure Host where
  engine : Engine
  /-- The answer to a request after a trace. -/
  client : Trace → Outgoing → Answer
  /-- Whether the variables are held elsewhere. -/
  lockHeld : Trace → Bool
  /-- Whether the run is cancelled by the end of a trace. -/
  cancels : Trace → Bool
  /-- How long a run waits for a hook or for the variables, in milliseconds. -/
  hookLimit : Nat := 10000

namespace Run

structure State where
  globals : Vars
  trace : Trace
  cancelled : Bool

namespace State

def start (h : Host) (globals : Vars) : State where
  globals := globals
  trace := []
  cancelled := h.cancels []

def perform (h : Host) (s : State) (e : Effect) : State :=
  let trace := s.trace ++ [e]
  { s with trace, cancelled := s.cancelled || h.cancels trace }

def emit (h : Host) (s : State) (e : Event) : State :=
  s.perform h (.event e s.globals)

end State

end Run

end RequestFlow
