import RequestFlow.Hook.Parser
import RequestFlow.Json.Reader
import RequestFlow.Pattern.Parser

/-!
# RequestFlow.Hook.Error

Why a hook does not compile, or fails when it runs.
-/

namespace RequestFlow.Hook

inductive CompileError where
  | unknownImport (name : String)
  | badToken (leaf : String) (e : TokenError)
  | badSyntax (leaf : String) (side : Side) (line : Nat) (fault : SyntaxFault)
deriving Repr, DecidableEq

def CompileError.message : CompileError → String
  | .unknownImport name => s!"unknown import `{name}`"
  | .badToken leaf e => s!"leaf `{leaf}`: line {e.line}: {e.fault.message}"
  | .badSyntax leaf side line fault =>
    s!"leaf `{leaf}`: {bracketed side.name} line {line}: {fault.message}"

/-- Kinds of values are given by name. -/
inductive EvalError where
  | incomparable (lhs rhs : String)
  | cannotAdd (lhs rhs : String)
  | cannotSubtract (lhs rhs : String)
  | cannotNegate (kind : String)
  | overflow
  | nameNotString (kind : String)
  | fieldNotString (field : String) (kind : String)
  | noRequest
  | cannotUnset
  | expectsString (f : Function) (kind : String)
  | notAccepted (f : Function) (kind : String)
  | notANumber (text : String)
  | badJson (text : String) (e : Json.ReadError)
  | badPath (path : String)
  | badPattern (pattern : String) (fault : Pattern.Fault)
  | badGroup (kind : String)
deriving Repr, DecidableEq

/-- Faults of paths and patterns are named by the text alone, but for its size. -/
def EvalError.message : EvalError → String
  | .incomparable lhs rhs => s!"cannot compare {lhs} with {rhs}"
  | .cannotAdd lhs rhs => s!"cannot add {lhs} and {rhs}"
  | .cannotSubtract lhs rhs => s!"cannot subtract {rhs} from {lhs}"
  | .cannotNegate kind => s!"cannot negate {kind}"
  | .overflow => "numeric overflow"
  | .nameNotString kind => s!"names must be strings, got {kind}"
  | .fieldNotString field kind => s!"request.{field} must be a string, got {kind}"
  | .noRequest => s!"this leaf has no request (no {bracketed word} cell)"
  | .cannotUnset => "only request.body and request headers can be unset"
  | .expectsString f kind => s!"{f.name}() expects a string, got {kind}"
  | .notAccepted f kind => s!"{f.name}() does not accept {kind}"
  | .notANumber text => s!"num(): `{text}` is not a number"
  | .badJson text e => s!"parse_json(): {e.message text.toList}"
  | .badPath path => s!"invalid JSONPath `{path}`"
  | .badPattern pattern .tooLarge =>
    s!"invalid regex `{pattern}`: Compiled regex exceeds size limit of 10485760 bytes."
  | .badPattern pattern _ => s!"invalid regex `{pattern}`"
  | .badGroup kind => s!"capture() group must be a name or index, got {kind}"
where
  word := "do"

/-- A span of milliseconds in the largest unit it holds: `10s`, `1.5s`, `30ms`. -/
def durationText (ms : Nat) : String :=
  let rest := ms % 1000
  if ms = 0 then "0ns"
  else if ms < 1000 then s!"{ms}ms"
  else if rest = 0 then s!"{ms / 1000}s"
  else
    let digits := (Nat.toDigits 10 (1000 + rest)).drop 1
    let shown := (digits.reverse.dropWhile (· == '0')).reverse
    s!"{ms / 1000}.{String.ofList shown}s"

inductive HookError where
  | compile (e : CompileError)
  | runtime (line : Nat) (e : EvalError)
  /-- A failure that the hook reports itself. -/
  | assertion (message : String)
  | timeout (ms : Nat)
deriving Repr, DecidableEq

def HookError.message : HookError → String
  | .compile e => s!"hook compile error: {e.message}"
  | .runtime line e => s!"hook runtime error: line {line}: {e.message}"
  | .assertion message => message
  | .timeout ms => s!"hook timed out after {durationText ms}"

end RequestFlow.Hook
