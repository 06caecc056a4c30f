import RequestFlow.Command.Output
import RequestFlow.Json.Reader
import RequestFlow.Text.Blank
import RequestFlow.Text.Utf8
import RequestFlow.Yaml.Value

/-!
# RequestFlow.Command.Vars

The variables with which a run starts: those of a file, which holds an object in JSON or in
YAML, and then those of the command line, which are strings.

* `varsOfText`  — the variables of a file's text.
* `withFlags`   — variables together with those of the command line.
* `initialVars` — both.
-/

namespace RequestFlow.Command

open Text.Utf8 (Bytes)

inductive VarsError where
  | unreadable (fault : FileFault)
  | notText
  | badSyntax
  | notObject
  /-- A variable of the command line without `=`. -/
  | noValue (written : String)
  | emptyKey (written : String)
deriving Repr, DecidableEq

def VarsError.message : VarsError → String
  | .unreadable fault => s!"failed to read vars: {fault.message}"
  | .notText => "failed to read vars: stream did not contain valid UTF-8"
  | .badSyntax => "vars file is neither valid JSON nor YAML"
  | .notObject => "vars file must contain an object"
  | .noValue written => s!"invalid --var `{written}` (expected KEY=VALUE)"
  | .emptyKey written => s!"invalid --var `{written}` (empty key)"

/-- The value of a text in JSON, or else in YAML. -/
def valueOfText? (s : List Char) : Option Json :=
  match Json.document s with
  | .ok v => some v
  | .error _ => Yaml.read s

def varsOfValue : Json → Except VarsError Vars
  | .obj fields => .ok fields
  | .null => .ok []
  | _ => .error .notObject

def varsOfText (s : List Char) : Except VarsError Vars :=
  match valueOfText? s with
  | some v => varsOfValue v
  | none => .error .badSyntax

def varsOfBytes (bytes : Bytes) : Except VarsError Vars :=
  match Text.Utf8.decode? bytes with
  | .ok s => varsOfText s
  | .error _ => .error .notText

/-- The variable that is written `key=value`. Blanks around the key do not count. -/
def varOf (written : String) : Except VarsError (String × Json) :=
  let s := written.toList
  let key := s.takeWhile (· != '=')
  match s.drop key.length with
  | [] => .error (.noValue written)
  | _ :: value =>
    let key := Text.trim key
    if key.isEmpty then .error (.emptyKey written)
    else .ok (String.ofList key, .str (String.ofList value))

/-- Variables of the command line, of which the later ones count. -/
def withFlags (vars : Vars) : List String → Except VarsError Vars
  | [] => .ok vars
  | written :: rest =>
    match varOf written with
    | .error e => .error e
    | .ok (key, value) => withFlags (vars.insert key value) rest

def initialVars (fileAt : String → Except FileFault Bytes) (o : RunOptions) :
    Except VarsError Vars :=
  match o.varsFile with
  | none => withFlags [] o.vars
  | some path =>
    match fileAt path with
    | .error fault => .error (.unreadable fault)
    | .ok bytes =>
      match varsOfBytes bytes with
      | .error e => .error e
      | .ok vars => withFlags vars o.vars

end RequestFlow.Command
