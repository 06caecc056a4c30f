import RequestFlow.Hook.Eval

/-!
# RequestFlow.Hook.Program

The two hooks of a leaf, compiled once and run any number of times.

* `Statement.run` — the scene after a statement, or why it fails. A statement that fails
  changes nothing.
* `run`           — the scene after a list of statements, up to the first failure.
* `Hooks.compile` — hooks from their sources.
-/

namespace RequestFlow.Hook

/-! ### Statements -/

namespace Scene

def setVariable (s : Scene) (scope : Scope) (name : String) (v : Json) : Scene :=
  match scope with
  | .globals => { s with globals := s.globals.insert name v }
  | .locals => { s with locals := s.locals.insert name v }

def unsetVariable (s : Scene) (scope : Scope) (name : String) : Scene :=
  match scope with
  | .globals => { s with globals := s.globals.erase name }
  | .locals => { s with locals := s.locals.erase name }

end Scene

/-- Equal but for the case of ASCII letters. -/
def sameHeader (a b : String) : Bool :=
  Text.asciiLower a.toList == Text.asciiLower b.toList

def unsetHeader (r : Request) (name : String) : Request :=
  { r with headers := r.headers.filter fun h => !sameHeader h.1 name }

/-- Sets a header under the given spelling of its name alone. -/
def setHeader (r : Request) (name value : String) : Request :=
  let r := unsetHeader r name
  { r with headers := r.headers.insert name value }

def bodyOf : Json → Text.Utf8.Bytes
  | .str s => Text.Utf8.encode s
  | .null => []
  | v => Text.Utf8.encode v.text

def setField (r : Request) (f : RequestField) (v : Json) : Except EvalError Request :=
  match f, v with
  | .method, .str s => .ok { r with method := s }
  | .method, v => .error (.fieldNotString "method" v.kind)
  | .url, .str s => .ok { r with url := s }
  | .url, v => .error (.fieldNotString "url" v.kind)
  | .body, v => .ok { r with body := bodyOf v }

def nameAt (w : World) (s : Scene) (site : Site) (key : Expr) : Except EvalError String :=
  match key.eval w s site with
  | .error e => .error e
  | .ok (.str name) => .ok name
  | .ok v => .error (.nameNotString v.kind)

def changeRequest (s : Scene) (change : Request → Except EvalError Request) :
    Except EvalError Scene :=
  match s.request with
  | none => .error .noRequest
  | some r =>
    match change r with
    | .error e => .error e
    | .ok r => .ok { s with request := some r }

def assign (w : World) (s : Scene) (site : Site) (target : Target) (v : Json) :
    Except EvalError Scene :=
  match target with
  | .var scope key =>
    match nameAt w s site key with
    | .error e => .error e
    | .ok name => .ok (s.setVariable scope name v)
  | .field f => changeRequest s fun r => setField r f v
  | .header key =>
    match nameAt w s site key with
    | .error e => .error e
    | .ok name => changeRequest s fun r => .ok (setHeader r name v.display)

def unset (w : World) (s : Scene) (site : Site) (target : Target) : Except EvalError Scene :=
  match target with
  | .var scope key =>
    match nameAt w s site key with
    | .error e => .error e
    | .ok name => .ok (s.unsetVariable scope name)
  | .field .body => changeRequest s fun r => .ok { r with body := [] }
  | .field _ => .error .cannotUnset
  | .header key =>
    match nameAt w s site key with
    | .error e => .error e
    | .ok name => changeRequest s fun r => .ok (unsetHeader r name)

/-- The value of an expression, a failure being that of the statement on `line`. -/
def valueOn (line : Nat) (r : Except EvalError α) : Except HookError α :=
  match r with
  | .ok v => .ok v
  | .error e => .error (.runtime line e)

def assertionText (w : World) (s : Scene) (site : Site) (message : Option Expr)
    (source : String) : Except EvalError String :=
  match message with
  | none => .ok s!"assertion failed: {source}"
  | some m =>
    match m.eval w s (1 :: site) with
    | .error e => .error e
    | .ok v => .ok v.display

def Statement.run (w : World) (s : Scene) (site : Site) (st : Statement) :
    Except HookError Scene :=
  match st.action with
  | .assign target value =>
    match value.eval w s (0 :: site) with
    | .error e => .error (.runtime st.line e)
    | .ok v => valueOn st.line (assign w s (1 :: site) target v)
  | .unset target => valueOn st.line (unset w s (1 :: site) target)
  | .assert condition message source =>
    match condition.eval w s (0 :: site) with
    | .error e => .error (.runtime st.line e)
    | .ok v =>
      if v.truthy then .ok s
      else
        match assertionText w s site message source with
        | .error e => .error (.runtime st.line e)
        | .ok m => .error (.assertion m)
  | .fail message =>
    match message.eval w s (0 :: site) with
    | .error e => .error (.runtime st.line e)
    | .ok v => .error (.assertion v.display)

/-- Runs statements, numbered from `i` on, up to the first failure; what they did before it
stays done. -/
def runFrom (w : World) (site : Site) (i : Nat) (s : Scene) :
    List Statement → Scene × Option HookError
  | [] => (s, none)
  | st :: rest =>
    match st.run w s (i :: site) with
    | .error e => (s, some e)
    | .ok s => runFrom w site (i + 1) s rest

def run (w : World) (site : Site) (program : List Statement) (s : Scene) :
    Scene × Option HookError :=
  runFrom w site 0 s program

/-! ### Compilation -/

/-- The name in a line of imports, without the quotes it may stand in. -/
def importName (line : String) : List Char :=
  let isQuote (c : Char) : Bool := c == '"' || c == '\''
  let s := (Text.trim line.toList).dropWhile isQuote
  Text.trim (s.reverse.dropWhile isQuote).reverse

def importsOf : List String → Except CompileError (List Library)
  | [] => .ok []
  | line :: rest =>
    let name := String.ofList (importName line)
    if name.isEmpty then importsOf rest
    else
      match Library.ofName? name with
      | none => .error (.unknownImport name)
      | some l =>
        match importsOf rest with
        | .error e => .error e
        | .ok ls => .ok (l :: ls)

def compileSide (leaf : String) (setting : Setting) (source : String) :
    Except CompileError (List Statement) :=
  match tokens source.toList with
  | .error e => .error (.badToken leaf e)
  | .ok ts =>
    match statements setting source.toList ts with
    | .error e => .error (.badSyntax leaf setting.side (e.line ts) e.fault)
    | .ok program => .ok program

end RequestFlow.Hook

namespace RequestFlow

open Hook

structure Hooks where
  before : List Statement := []
  after : List Statement := []

def Hooks.compile (leaf before after : String) (imports : List String) :
    Except CompileError Hooks :=
  match importsOf imports with
  | .error e => .error e
  | .ok libraries =>
    let libraries := Library.baseline ++ libraries
    match compileSide leaf { side := .before, libraries } before with
    | .error e => .error e
    | .ok before =>
      match compileSide leaf { side := .after, libraries } after with
      | .error e => .error e
      | .ok after => .ok ⟨before, after⟩

def Leaf.hooks (leaf : Leaf) : Except CompileError Hooks :=
  Hooks.compile leaf.name leaf.before leaf.after leaf.imports

end RequestFlow
