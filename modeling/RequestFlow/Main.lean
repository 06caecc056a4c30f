import RequestFlow.Command.Execute
import Std.Time.DateTime.Timestamp

/-!
# RequestFlow.Main

The program: reads the files that the arguments name, executes the command and prints what it
leaves behind. It opens no connection; a request that could be sent ends as a network error.
-/

namespace RequestFlow.Command

def usage : String :=
  "usage: requestflow check PATH [options]\n" ++
  "       requestflow plan PATH [options]\n" ++
  "       requestflow run PATH [--var KEY=VALUE]... [--vars FILE] [options]\n" ++
  "options: --format text|json|dot, --quiet, --verbose, --parse-workers N;\n" ++
  "         for run also --timeout MS, --hook-timeout MS, --max-response-bytes N\n"

def faultOf : IO.Error → FileFault
  | .noFileOrDirectory _ _ _ => .notFound
  | .permissionDenied _ _ _ => .denied
  | .inappropriateType _ _ _ => .isDirectory
  | e => .other (toString e)

def contentOf (path : String) : IO (Except FileFault (List UInt8)) :=
  try return .ok (← IO.FS.readBinFile path).toList
  catch e => return .error (faultOf e)

/-- The files that a command reads. -/
def pathsOf (a : Arguments) : List String :=
  match a.action with
  | .run o => a.path :: o.varsFile.toList
  | _ => [a.path]

/-- The environment variables, each written `name=value` and ended by a zero octet. -/
def environment : IO (Dict String) := do
  match ← contentOf "/proc/self/environ" with
  | .error _ => return []
  | .ok octets =>
    let entries := (octets.splitOn 0).map Text.Utf8.lossy
    return Dict.ofList (entries.map splitValue |>.filterMap fun (name, value) =>
      value.map fun v => (name, v))

def now : IO Nat := do
  return (← Std.Time.Timestamp.now).toNanosecondsSinceUnixEpoch.toInt.toNat

def refuseAll (r : Outgoing) : TransportError :=
  (r.refusal?).getD (.network "connections are not supported")

def program (args : List String) : IO UInt32 := do
  match Arguments.ofList? args with
  | .error e =>
    IO.eprint s!"error: {e.message}\n\n{usage}"
    return 2
  | .ok a =>
    let files ← (pathsOf a).mapM fun path => return (path, ← contentOf path)
    let env ← environment
    let seed ← IO.rand 0 0x4000000000000000
    let world := Hook.World.ofSeed (env.get? ·) seed
    let startedAt := timestampText (← now)
    let host : Host := {
      engine := .script world
      client := fun _ r => .failure (refuseAll r)
      lockHeld := fun _ => false
      cancels := fun _ => false }
    let o := execute {
      fileAt := fun path => (files.lookup path).getD (.error .notFound)
      host := fun _ => host
      clock := ⟨world.uuid [], startedAt, timestampText (← now), fun _ => 0⟩ } a
    IO.print o.stdout
    IO.eprint o.stderr
    return o.exit.code.toUInt32

end RequestFlow.Command

def main (args : List String) : IO UInt32 :=
  RequestFlow.Command.program args
