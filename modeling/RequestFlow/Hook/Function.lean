/-!
# RequestFlow.Hook.Function

The functions that hooks may call and the libraries they come from. A hook always has the
baseline libraries; the others have to be imported.
-/

namespace RequestFlow.Hook

inductive Library where
  | core
  | json
  | regex
  | env
  | uuid
deriving Repr, DecidableEq

namespace Library

def all : List Library := [.core, .json, .regex, .env, .uuid]

def name : Library → String
  | .core => "core"
  | .json => "json"
  | .regex => "regex"
  | .env => "env"
  | .uuid => "uuid"

def ofName? (s : String) : Option Library :=
  all.find? (·.name == s)

def baseline : List Library := [.core, .json]

end Library

inductive Function where
  | len
  | contains
  | startsWith
  | endsWith
  | lower
  | upper
  | trim
  | str
  | num
  | «exists»
  | typeOf
  | parseJson
  | toJson
  | jsonPath
  | jsonPathAll
  | «matches»
  | capture
  | env
  | uuid
deriving Repr, DecidableEq

namespace Function

def all : List Function :=
  [.len, .contains, .startsWith, .endsWith, .lower, .upper, .trim, .str, .num, .exists, .typeOf,
    .parseJson, .toJson, .jsonPath, .jsonPathAll, .matches, .capture, .env, .uuid]

def name : Function → String
  | .len => "len"
  | .contains => "contains"
  | .startsWith => "starts_with"
  | .endsWith => "ends_with"
  | .lower => "lower"
  | .upper => "upper"
  | .trim => "trim"
  | .str => "str"
  | .num => "num"
  | .exists => "exists"
  | .typeOf => "type_of"
  | .parseJson => "parse_json"
  | .toJson => "to_json"
  | .jsonPath => "jsonpath"
  | .jsonPathAll => "jsonpath_all"
  | .matches => "matches"
  | .capture => "capture"
  | .env => "env"
  | .uuid => "uuid"

def ofName? (s : String) : Option Function :=
  all.find? (·.name == s)

def library : Function → Library
  | .parseJson | .toJson | .jsonPath | .jsonPathAll => .json
  | .matches | .capture => .regex
  | .env => .env
  | .uuid => .uuid
  | _ => .core

/-- How many arguments a call gives. -/
def arity : Function → Nat
  | .uuid => 0
  | .contains | .startsWith | .endsWith | .jsonPath | .jsonPathAll | .matches => 2
  | .capture => 3
  | _ => 1

end Function

end RequestFlow.Hook
