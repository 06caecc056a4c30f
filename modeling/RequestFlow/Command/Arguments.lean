import RequestFlow.Text.Hex

/-!
# RequestFlow.Command.Arguments

The command line: one of the commands `check`, `plan` and `run`, the path of a document, and
options in any order among them.

* `Flag`              — the options, with their names and the commands that take them.
* `Arguments.ofList?` — the arguments of a command line, or what is wrong with it.
-/

namespace RequestFlow.Command

inductive Format where
  | text
  | json
  | dot
deriving Repr, DecidableEq

structure Display where
  format : Format := .text
  quiet : Bool := false
deriving Repr, DecidableEq

/-- What only the command `run` takes. Times are in milliseconds. -/
structure RunOptions where
  /-- Pairs of a key and a value, as they are written. -/
  vars : List String := []
  varsFile : Option String := none
  requestLimit : Nat := 30000
  hookLimit : Nat := 10000
  greatestResponse : Nat := 4194304
deriving Repr, DecidableEq

inductive Action where
  | check
  | plan
  | run (options : RunOptions)
deriving Repr, DecidableEq

structure Arguments where
  action : Action
  path : String
  /-- How many blocks of a document are read at a time. -/
  workers : Nat := 10
  display : Display := {}
  verbose : Bool := false
deriving Repr, DecidableEq

inductive Flag where
  | format
  | quiet
  | verbose
  | workers
  | var
  | vars
  | timeout
  | hookTimeout
  | maxResponseBytes
deriving Repr, DecidableEq

namespace Flag

def name : Flag → String
  | .format => "format"
  | .quiet => "quiet"
  | .verbose => "verbose"
  | .workers => "parse-workers"
  | .var => "var"
  | .vars => "vars"
  | .timeout => "timeout"
  | .hookTimeout => "hook-timeout"
  | .maxResponseBytes => "max-response-bytes"

/-- The flags of every command. -/
def general : List Flag :=
  [.format, .quiet, .verbose, .workers]

def ofRun : List Flag :=
  general ++ [.var, .vars, .timeout, .hookTimeout, .maxResponseBytes]

def takesValue : Flag → Bool
  | .quiet => false
  | .verbose => false
  | _ => true

def mayRepeat (f : Flag) : Bool :=
  f == .var

end Flag

inductive UsageError where
  | noCommand
  | unknownCommand (name : String)
  | noPath
  | unexpected (argument : String)
  | missingValue (f : Flag)
  | unexpectedValue (f : Flag) (value : String)
  | badValue (f : Flag) (value : String)
  | repeated (f : Flag)
deriving Repr, DecidableEq

def UsageError.message : UsageError → String
  | .noCommand => "no command is given"
  | .unknownCommand name => s!"unknown command `{name}`"
  | .noPath => "no document is given"
  | .unexpected argument => s!"unexpected argument `{argument}`"
  | .missingValue f => s!"--{f.name} needs a value"
  | .unexpectedValue f value => s!"--{f.name} takes no value, but `{value}` is given"
  | .badValue f value => s!"`{value}` is no value for --{f.name}"
  | .repeated f => s!"--{f.name} is given twice"

structure Given where
  flags : List (Flag × String) := []
  paths : List String := []

namespace Given

def withFlag (f : Flag) (value : String) (g : Given) : Given :=
  { g with flags := (f, value) :: g.flags }

def withPath (path : String) (g : Given) : Given :=
  { g with paths := path :: g.paths }

def values (g : Given) (f : Flag) : List String :=
  (g.flags.filter (·.1 == f)).map (·.2)

def value? (g : Given) (f : Flag) : Option String :=
  (g.values f).head?

def has (g : Given) (f : Flag) : Bool :=
  g.flags.any (·.1 == f)

end Given

/-- The name and the value of an argument `--name=value`, without its hyphens. -/
def splitValue (s : List Char) : String × Option String :=
  let name := s.takeWhile (· != '=')
  (String.ofList name,
    match s.drop name.length with
    | _ :: value => some (String.ofList value)
    | [] => none)

def isValue (s : String) : Bool :=
  s == "-" || s.toList.head? != some '-'

/-- Tells flags and other arguments apart. After `--` there are no more flags. -/
def given? (flags : List Flag) : List String → Except UsageError Given
  | [] => .ok {}
  | "--" :: rest => .ok { paths := rest }
  | a :: rest =>
    match a.toList with
    | '-' :: '-' :: s =>
      let (name, value) := splitValue s
      match flags.find? (·.name == name), value, rest with
      | none, _, _ => .error (.unexpected a)
      | some f, some v, rest =>
        if f.takesValue then (given? flags rest).map (Given.withFlag f v)
        else .error (.unexpectedValue f v)
      | some f, none, rest =>
        if !f.takesValue then (given? flags rest).map (Given.withFlag f "")
        else
          match rest with
          | v :: rest =>
            if isValue v then (given? flags rest).map (Given.withFlag f v)
            else .error (.missingValue f)
          | [] => .error (.missingValue f)
    | '-' :: c :: cs =>
      if (c :: cs).all (· == 'q') then
        if cs.isEmpty then (given? flags rest).map (Given.withFlag .quiet "")
        else .error (.repeated .quiet)
      else .error (.unexpected a)
    | _ => (given? flags rest).map (Given.withPath a)

/-- A number of at most 64 bits. -/
def number? (s : String) : Option Nat :=
  let digits :=
    match s.toList with
    | '+' :: rest => rest
    | cs => cs
  if digits.isEmpty then none else (Text.digitsIn? 10 digits).filter (· < 0x10000000000000000)

def numberOf (g : Given) (f : Flag) (default : Nat) : Except UsageError Nat :=
  match g.value? f with
  | none => .ok default
  | some s =>
    match number? s with
    | some n => .ok n
    | none => .error (.badValue f s)

def formatOf (g : Given) : Except UsageError Format :=
  match g.value? .format with
  | none => .ok .text
  | some "text" => .ok .text
  | some "json" => .ok .json
  | some "dot" => .ok .dot
  | some s => .error (.badValue .format s)

def runOptionsOf (g : Given) : Except UsageError RunOptions := do
  let requestLimit ← numberOf g .timeout 30000
  let hookLimit ← numberOf g .hookTimeout 10000
  let greatestResponse ← numberOf g .maxResponseBytes 4194304
  match g.value? .vars with
  | some "" => .error (.badValue .vars "")
  | varsFile =>
    .ok { vars := g.values .var, varsFile, requestLimit, hookLimit, greatestResponse }

def repeated? (g : Given) : Option Flag :=
  Flag.ofRun.find? fun f => !f.mayRepeat && 1 < (g.values f).length

def argumentsOf (flags : List Flag) (action : Given → Except UsageError Action)
    (rest : List String) : Except UsageError Arguments := do
  let g ← given? flags rest
  match repeated? g, g.paths with
  | some f, _ => .error (.repeated f)
  | none, [] => .error .noPath
  | none, [""] => .error .noPath
  | none, _ :: extra :: _ => .error (.unexpected extra)
  | none, [path] =>
    let workers ← numberOf g .workers 10
    let format ← formatOf g
    let action ← action g
    .ok { action, path, workers, display := ⟨format, g.has .quiet⟩, verbose := g.has .verbose }

/-- The arguments of a command line. Before the command only `--verbose` may stand. -/
def Arguments.ofList? : List String → Except UsageError Arguments
  | [] => .error .noCommand
  | "--verbose" :: rest => (ofList? rest).map fun a => { a with verbose := true }
  | "check" :: rest => argumentsOf Flag.general (fun _ => .ok .check) rest
  | "plan" :: rest => argumentsOf Flag.general (fun _ => .ok .plan) rest
  | "run" :: rest => argumentsOf Flag.ofRun (fun g => (runOptionsOf g).map .run) rest
  | a :: _ => .error (if isValue a then .unknownCommand a else .unexpected a)

end RequestFlow.Command
