import RequestFlow.Document.Block
import RequestFlow.Text.Word

/-!
# RequestFlow.Document.Cell

A block's body holds cells `marker { content }` in any order, each at most once. Bracketed
groups without a marker are passed over whole.

* `CellKind.ofGap` — the marker that ends a gap, at a word boundary.
* `cells`          — the contents of the marked groups.
* `Leaf.ofBlock`   — the leaf that the cells describe.
-/

namespace RequestFlow

inductive CellKind where
  | request
  | headers
  | body
  | before
  | after
  | dependsOn
  | imports
  | mandatory
deriving Repr, DecidableEq

namespace CellKind

def all : List CellKind :=
  [.request, .headers, .body, .before, .after, .dependsOn, .imports, .mandatory]

def marker : CellKind → String
  | .request => "do"
  | .headers => "headers"
  | .body => "body"
  | .before => "before"
  | .after => "after"
  | .dependsOn => "depends_on"
  | .imports => "import"
  | .mandatory => "mandatory"

/-- Whether `gap` ends in `word` and blanks, and no word character stands before it. -/
def endsInWord (word gap : List Char) : Bool :=
  match word.reverse.isPrefixOf? (Text.trimEnd gap).reverse with
  | none => false
  | some [] => true
  | some (c :: _) => !Text.isWord c

def ofGap (gap : List Char) : Option CellKind :=
  all.find? fun k => endsInWord k.marker.toList gap

end CellKind

abbrev Cells := List (CellKind × List Char)

namespace Cells

def get? (cells : Cells) (kind : CellKind) : Option (List Char) :=
  cells.lookup kind

def ofGroups (leaf : String) (found : Cells) (ending : Ending) :
    List Group → Except DocumentError Cells
  | [] =>
    match ending with
    | .closed _ => .ok found
    | .unclosed gap line =>
      let cell := ((CellKind.ofGap gap).map (·.marker)).getD "\x7b"
      .error (.unterminatedCell leaf cell line)
  | g :: rest =>
    match CellKind.ofGap g.gap with
    | none => ofGroups leaf found ending rest
    | some kind =>
      if (found.get? kind).isSome then .error (.duplicateCell leaf kind.marker g.line)
      else ofGroups leaf ((kind, g.body) :: found) ending rest

def ofBlock (block : Block) : Except DocumentError Cells :=
  let s := Group.split '{' '}' block.line block.body
  ofGroups block.name [] s.ending s.groups

end Cells

namespace Leaf

open Text

def requestLine (leaf : String) (content : List Char) : Except DocumentError Request :=
  match words content with
  | [method, url] => .ok { method := String.ofList method, url := String.ofList url }
  | _ => .error (.invalidRequestLine leaf (String.ofList (trim content)))

/-- A name and a value around the only colon of a line. -/
def headerLine (leaf : String) (line : List Char) : Except DocumentError (String × String) :=
  match line.splitOn ':' with
  | [key, value] =>
    if (trim key).isEmpty then .error (.invalidHeaderLine leaf (String.ofList line))
    else .ok (String.ofList (trim key), String.ofList (trim value))
  | _ => .error (.invalidHeaderLine leaf (String.ofList line))

def headerLines (leaf : String) : List (List Char) → Except DocumentError (List (String × String))
  | [] => .ok []
  | line :: rest =>
    match headerLine leaf line with
    | .error e => .error e
    | .ok header =>
      match headerLines leaf rest with
      | .error e => .error e
      | .ok headers => .ok (header :: headers)

/-- Headers; of two with one name the later counts. -/
def headersOf (leaf : String) (content : List Char) : Except DocumentError (Dict String) :=
  match headerLines leaf (lines content) with
  | .error e => .error e
  | .ok headers => .ok (Dict.ofList headers)

/-- The names between commas, each once. -/
def dependenciesOf (content : List Char) : List String :=
  (((content.splitOn ',').map trim).filter (!·.isEmpty)).map String.ofList |>.eraseDups

def lineIn (leaf : String) (cells : Cells) : Except DocumentError (Option Request) :=
  match cells.get? .request with
  | none => .ok none
  | some content =>
    match requestLine leaf content with
    | .error e => .error e
    | .ok r => .ok (some r)

def headersIn (leaf : String) (cells : Cells) : Except DocumentError (Dict String) :=
  match cells.get? .headers with
  | none => .ok []
  | some content => headersOf leaf content

def bodyIn (cells : Cells) : Utf8.Bytes :=
  match cells.get? .body with
  | none => []
  | some content => Utf8.encode (String.ofList content)

/-- The request that the cells describe. Headers and body belong to a request; without one
they are checked and dropped. -/
def requestOf (leaf : String) (cells : Cells) : Except DocumentError (Option Request) :=
  match lineIn leaf cells with
  | .error e => .error e
  | .ok request =>
    match headersIn leaf cells with
    | .error e => .error e
    | .ok headers => .ok (request.map fun r => { r with headers, body := bodyIn cells })

def ofCells (name : String) (cells : Cells) : Except DocumentError Leaf :=
  match requestOf name cells with
  | .error e => .error e
  | .ok request =>
    let source (kind : CellKind) : String :=
      String.ofList (trim ((cells.get? kind).getD []))
    .ok {
      name
      request
      before := source .before
      after := source .after
      dependsOn := dependenciesOf ((cells.get? .dependsOn).getD [])
      imports := (lines ((cells.get? .imports).getD [])).map String.ofList
      mandatory := (cells.get? .mandatory).isSome }

def ofBlock (block : Block) : Except DocumentError Leaf :=
  match Cells.ofBlock block with
  | .error e => .error e
  | .ok cells => ofCells block.name cells

end Leaf

end RequestFlow
