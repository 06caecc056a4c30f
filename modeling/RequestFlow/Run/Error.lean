import RequestFlow.Hook.Error
import RequestFlow.Template.Expand
import RequestFlow.Url.Basic

/-!
# RequestFlow.Run.Error

Why a leaf fails.
-/

namespace RequestFlow

/-- Why a request cannot be sent as it is. -/
inductive RequestFault where
  | badMethod (method : String)
  | badUrl (url : String) (e : Url.Error)
  | badHeaderName (name : String)
deriving Repr, DecidableEq

def RequestFault.message : RequestFault → String
  | .badMethod method => s!"invalid method `{method}`"
  | .badUrl url e => s!"invalid url `{url}`: {e.message}"
  | .badHeaderName name => s!"invalid header name `{name}`"

/-- Why a request has no response. -/
inductive TransportError where
  | invalidRequest (message : String)
  | timeout
  | network (message : String)
  | responseTooLarge (greatest : Nat)
  | other (message : String)
deriving Repr, DecidableEq

def TransportError.message : TransportError → String
  | .invalidRequest m => s!"invalid request: {m}"
  | .timeout => "timeout"
  | .network m => s!"connect/dns/tls error: {m}"
  | .responseTooLarge greatest => s!"response too large (>{greatest} bytes)"
  | .other m => s!"http error: {m}"

inductive LeafError where
  | template (e : TemplateError)
  | hook (e : Hook.HookError)
  | transport (e : TransportError)
  | globalsTimeout (ms : Nat)
  | cancelled
deriving Repr, DecidableEq

namespace LeafError

def kind : LeafError → String
  | .template _ => "template"
  | .hook (.compile _) => "hook_compile"
  | .hook (.runtime _ _) => "hook_runtime"
  | .hook (.assertion _) => "assertion"
  | .hook (.timeout _) => "hook_timeout"
  | .globalsTimeout _ => "globals_timeout"
  | .transport _ => "transport"
  | .cancelled => "cancelled"

def message : LeafError → String
  | .template e => s!"template error: {e.message}"
  | .hook e => e.message
  | .transport e => s!"transport error: {e.message}"
  | .globalsTimeout ms => s!"timed out after {Hook.durationText ms} waiting for globals"
  | .cancelled => "cancelled"

end LeafError

end RequestFlow
