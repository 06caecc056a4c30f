import RequestFlow.Hook.Error
import RequestFlow.Hook.World
import RequestFlow.JsonPath.Parser
import RequestFlow.Text.Casing

/-!
# RequestFlow.Hook.Apply

What the functions of the hook language compute. An argument that a call does not give is
null.
-/

namespace RequestFlow.Hook

abbrev Result := Except EvalError Json

def stringFor (f : Function) : Json → Except EvalError String
  | .str s => .ok s
  | v => .error (.expectsString f v.kind)

def onString (f : Function) (v : Json) (g : List Char → Json) : Result :=
  match stringFor f v with
  | .error e => .error e
  | .ok s => .ok (g s.toList)

def onStrings (f : Function) (a b : Json) (g : List Char → List Char → Json) : Result :=
  match stringFor f a with
  | .error e => .error e
  | .ok s =>
    match stringFor f b with
    | .error e => .error e
    | .ok t => .ok (g s.toList t.toList)

def text (s : List Char) : Json :=
  .str (String.ofList s)

/-- The number of characters, items or fields. -/
def size : Json → Result
  | .str s => .ok (.nat s.toList.length)
  | .arr items => .ok (.nat items.length)
  | .obj fields => .ok (.nat fields.length)
  | .null => .ok (.nat 0)
  | v => .error (.notAccepted .len v.kind)

def isInfixOf (part : List Char) : List Char → Bool
  | [] => part.isEmpty
  | c :: rest => part.isPrefixOf (c :: rest) || isInfixOf part rest

/-- Whether a string holds a text, an array an equal item, or an object a name. -/
def holds (whole part : Json) : Bool :=
  match whole with
  | .str s =>
    match part with
    | .str t => isInfixOf t.toList s.toList
    | _ => false
  | .arr items => items.any fun v => v.eqv part
  | .obj fields =>
    match part with
    | .str name => Dict.has fields name
    | _ => false
  | _ => false

def toNumber : Json → Result
  | .num n => .ok (.num n)
  | .bool b => .ok (.nat (if b then 1 else 0))
  | .str s =>
    let s := Text.trim s.toList
    match Number.ofText? s with
    | some n => .ok (.num n)
    | none => .error (.notANumber (String.ofList s))
  | v => .error (.notAccepted .num v.kind)

def readJson (s : String) : Result :=
  match Json.document s.toList with
  | .ok v => .ok v
  | .error e => .error (.badJson s e)

def nodesAt (f : Function) (v path : Json) : Except EvalError (List Json) :=
  match stringFor f path with
  | .error e => .error e
  | .ok s =>
    match JsonPath.Path.ofText? s.toList with
    | none => .error (.badPath s)
    | some p => .ok (p.nodes v)

def regexOf (f : Function) (pattern : Json) : Except EvalError Regex :=
  match stringFor f pattern with
  | .error e => .error e
  | .ok s =>
    match Regex.ofText? s.toList with
    | .error fault => .error (.badPattern s fault)
    | .ok r => .ok r

/-- The text of a group in the first match; null if there is none. -/
def captured (v pattern group : Json) : Result :=
  match regexOf .capture pattern with
  | .error e => .error e
  | .ok r =>
    let s := v.display.toList
    match Pattern.search r.code s with
    | none => .ok .null
    | some slots =>
      let pick (index : Option Nat) : Result :=
        .ok (((index.bind (Regex.groupText? s slots)).map text).getD .null)
      match group with
      | .str name => pick (r.groupIndex? name)
      | .num n => pick n.index?
      | v => .error (.badGroup v.kind)

def Function.apply (w : World) (site : Site) (f : Function) (args : List Json) : Result :=
  let a := args.getD 0 .null
  let b := args.getD 1 .null
  let c := args.getD 2 .null
  match f with
  | .len => size a
  | .contains => .ok (.bool (holds a b))
  | .startsWith => onStrings f a b fun s t => .bool (t.isPrefixOf s)
  | .endsWith => onStrings f a b fun s t => .bool (t.isSuffixOf s)
  | .lower => onString f a fun s => text (Text.toLower s)
  | .upper => onString f a fun s => text (Text.toUpper s)
  | .trim => onString f a fun s => text (Text.trim s)
  | .str => .ok (.str a.display)
  | .num => toNumber a
  | .exists =>
    match a with
    | .null => .ok (.bool false)
    | _ => .ok (.bool true)
  | .typeOf => .ok (.str a.kind)
  | .parseJson =>
    match stringFor f a with
    | .error e => .error e
    | .ok s => readJson s
  | .toJson => .ok (.str a.text)
  | .jsonPath =>
    match nodesAt f a b with
    | .error e => .error e
    | .ok nodes => .ok (nodes.head?.getD .null)
  | .jsonPathAll =>
    match nodesAt f a b with
    | .error e => .error e
    | .ok nodes => .ok (.arr nodes)
  | .matches =>
    match regexOf f b with
    | .error e => .error e
    | .ok r => .ok (.bool (r.isMatch a.display.toList))
  | .capture => captured a b c
  | .env =>
    match stringFor f a with
    | .error e => .error e
    | .ok name => .ok (((w.env name).map .str).getD .null)
  | .uuid => .ok (.str (w.uuid site))

end RequestFlow.Hook
