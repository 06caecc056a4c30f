import RequestFlow.Command.Arguments
import RequestFlow.Json.Printer

/-!
# RequestFlow.Command.Output

What a command leaves behind: an exit code and the text of its two streams.
-/

namespace RequestFlow.Command

inductive Exit where
  | success
  /-- The document cannot be read, planned or compiled. -/
  | invalid
  /-- A leaf failed, or the run was aborted or cancelled. -/
  | failed
  /-- A file cannot be read, or the arguments make no sense. -/
  | unusable
deriving Repr, DecidableEq

def Exit.code : Exit → Nat
  | .success => 0
  | .invalid => 2
  | .failed => 3
  | .unusable => 4

structure Output where
  exit : Exit
  stdout : String := ""
  stderr : String := ""
deriving Repr, DecidableEq

namespace Output

def errorLine (format : Format) (message : String) : String :=
  match format with
  | .json => Json.text (.obj [("error", .str message)]) ++ "\n"
  | .text => s!"error: {message}\n"
  | .dot => s!"error: {message}\n"

def ofError (d : Display) (exit : Exit) (message : String) : Output where
  exit := exit
  stderr := if d.quiet then "" else errorLine d.format message

/-- A result as JSON, on one line if JSON is asked for. -/
def resultText (format : Format) (v : Json) : String :=
  match format with
  | .json => v.text ++ "\n"
  | .text => String.ofList (v.renderIndented 0) ++ "\n"
  | .dot => String.ofList (v.renderIndented 0) ++ "\n"

end Output

/-! ## Files -/

inductive FileFault where
  | notFound
  | notDirectory
  | isDirectory
  | denied
  | other (message : String)
deriving Repr, DecidableEq

def FileFault.message : FileFault → String
  | .notFound => "No such file or directory (os error 2)"
  | .notDirectory => "Not a directory (os error 20)"
  | .isDirectory => "Is a directory (os error 21)"
  | .denied => "Permission denied (os error 13)"
  | .other m => m

/-- The last part of a path without its extension. A point at its start begins none. -/
def stem? (path : String) : Option String :=
  let parts := (path.toList.splitOn '/').filter fun p => p != [] && p != ['.']
  match parts.getLast? with
  | none => none
  | some ['.', '.'] => none
  | some name =>
    let reversed := name.reverse
    let extension := reversed.takeWhile (· != '.')
    match reversed.drop (extension.length + 1) with
    | [] => some (String.ofList name)
    | before => some (String.ofList before.reverse)

end RequestFlow.Command
