import RequestFlow.Document.Leaf
import RequestFlow.Json.Basic
import RequestFlow.Template.Token

/-!
# RequestFlow.Template.Expand

Tokens replaced by the values of variables. Each pass takes the first token not passed over
so far: one bound to a string is replaced wherever it occurs, and the values put in may hold
tokens again; one that is not bound is an error in strict mode and passed over in lenient
mode. A text that is not done after `passLimit` passes is refused.

* `expand`         — the expansion of a text.
* `Request.expand` — the expansion of method, URL and header values, field by field.
-/

namespace RequestFlow

inductive TemplateError where
  | missingValue (name : String)
  | invalidType (name found : String)
  | expansionLimit (text : String)
deriving Repr, DecidableEq

def TemplateError.message : TemplateError → String
  | .missingValue name => s!"missing template value for `{name}`"
  | .invalidType name found =>
    s!"invalid type for template value `{name}`: expected string, got {found}"
  | .expansionLimit text => s!"template expansion did not terminate: {text}"

namespace Template

inductive Mode where
  /-- A missing value is an error. -/
  | strict
  /-- A missing value leaves its token in place. -/
  | lenient
deriving Repr, DecidableEq

def passLimit : Nat := 64

/-- Passes over `text`, which came from `source`; tokens in `skipped` stay. -/
def expandFrom (vars : Vars) (mode : Mode) (source : String) :
    (passes : Nat) → (skipped : List (List Char)) → (text : List Char) →
    Except TemplateError (List Char)
  | 0, _, _ => .error (.expansionLimit source)
  | passes + 1, skipped, text =>
    match (tokens text).find? (!skipped.contains ·) with
    | none => .ok text
    | some name =>
      match vars.get? (String.ofList name) with
      | none =>
        match mode with
        | .strict => .error (.missingValue (String.ofList name))
        | .lenient => expandFrom vars mode source passes (name :: skipped) text
      | some (.str value) =>
        expandFrom vars mode source passes skipped (substitute name value.toList text)
      | some other => .error (.invalidType (String.ofList name) other.kind)

def expand (vars : Vars) (mode : Mode) (s : String) : Except TemplateError String :=
  match expandFrom vars mode s passLimit [] s.toList with
  | .error e => .error e
  | .ok text => .ok (String.ofList text)

end Template

namespace Request

open Template (Mode)

/-- Header values in the order of their names; the first failure leaves its value and all
later ones as they are. -/
def expandHeaders (vars : Vars) (mode : Mode) : Dict String → Dict String × Option TemplateError
  | [] => ([], none)
  | (name, value) :: rest =>
    match Template.expand vars mode value with
    | .error e => ((name, value) :: rest, some e)
    | .ok value' =>
      let (rest', e) := expandHeaders vars mode rest
      ((name, value') :: rest', e)

/-- Expands method, URL and header values in turn, up to the first failure. The body is
never expanded. -/
def expand (vars : Vars) (mode : Mode) (r : Request) : Request × Option TemplateError :=
  match Template.expand vars mode r.method with
  | .error e => (r, some e)
  | .ok method =>
    let r := { r with method }
    match Template.expand vars mode r.url with
    | .error e => (r, some e)
    | .ok url =>
      let (headers, e) := expandHeaders vars mode r.headers
      ({ r with url, headers }, e)

end Request

end RequestFlow
