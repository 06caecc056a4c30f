import RequestFlow.Text.Blank
import RequestFlow.Url.Host

/-!
# RequestFlow.Url.Parser

Absolute URLs read from text.

* `cleaned`     — the text without control characters and blanks around it, and without tabs
  and newlines inside it.
* `pathOf`      — a path from its segments, with `.` and `..` carried out.
* `Url.ofText`  — the URL of a text.
-/

namespace RequestFlow.Url

inductive Kind where
  | file
  | special
  | other
deriving Repr, DecidableEq

def kindOf (scheme : List Char) : Kind :=
  if isFileScheme scheme then .file else if isSpecialScheme scheme then .special else .other

def Kind.isSpecial : Kind → Bool
  | .other => false
  | _ => true

def isEdge (c : Char) : Bool :=
  c.toNat ≤ 0x20

def cleaned (s : List Char) : List Char :=
  let s := ((s.dropWhile isEdge).reverse.dropWhile isEdge).reverse
  s.filter fun c => c != '\t' && c != '\n' && c != '\r'

def splitScheme (s : List Char) : Option (List Char × List Char) :=
  let scheme := s.takeWhile fun c => c.isAlphanum || c == '+' || c == '-' || c == '.'
  match scheme, s.drop scheme.length with
  | c :: _, ':' :: rest => if c.isAlpha then some (scheme.map Char.toLower, rest) else none
  | _, _ => none

/-! ### Authority -/

def endsAuthority (kind : Kind) (c : Char) : Bool :=
  c == '/' || c == '?' || c == '#' || (kind.isSpecial && c == '\\')

def splitLastAt (s : List Char) : Option (List Char × List Char) :=
  if s.contains '@' then
    let after := (s.reverse.takeWhile (· != '@')).reverse
    some (s.take (s.length - after.length - 1), after)
  else none

def userinfo (s : List Char) : List Char × List Char :=
  let user := s.takeWhile (· != ':')
  (percentEncode inUserinfoSet user,
    percentEncode inUserinfoSet (s.drop (user.length + 1)))

/-- The text of a host: up to a colon outside square brackets. -/
def hostText : (inBrackets : Bool) → List Char → List Char
  | _, [] => []
  | inBrackets, c :: rest =>
    if c == ':' && !inBrackets then []
    else c :: hostText (c == '[' || (inBrackets && c != ']')) rest

/-- The port after a colon; the usual one of the scheme is left out. -/
def portOf (scheme digits : List Char) : Except Error (Option Nat) :=
  if digits.all Char.isDigit then
    let n := digits.foldl (fun n d => n * 10 + (d.toNat - '0'.toNat)) 0
    if 65535 < n then .error .invalidPort
    else if digits.isEmpty || defaultPort? scheme == some n then .ok none
    else .ok (some n)
  else .error .invalidPort

/-- The authority written by a text that holds nothing else. -/
def authorityOf (scheme : List Char) (s : List Char) : Except Error Authority :=
  let kind := kindOf scheme
  let (user, password, hostAndPort, hasAt) : List Char × List Char × List Char × Bool :=
    match splitLastAt s with
    | some (info, rest) =>
      let (user, password) := userinfo info
      (user, password, rest, true)
    | none => ([], [], s, false)
  let host := hostText false hostAndPort
  let rest := hostAndPort.drop host.length
  if host.isEmpty && (kind.isSpecial || hasAt || !rest.isEmpty) then .error .emptyHost
  else
    match if kind.isSpecial then Host.ofText host else Host.opaqueOfText host with
    | .error e => .error e
    | .ok host =>
      match portOf scheme (rest.drop 1) with
      | .error e => .error e
      | .ok port => .ok { user, password, host, port }

/-! ### Path -/

def isOneDot (s : List Char) : Bool :=
  [".", "%2e"].contains (String.ofList (s.map Char.toLower))

def isTwoDots (s : List Char) : Bool :=
  ["..", ".%2e", "%2e.", "%2e%2e"].contains (String.ofList (s.map Char.toLower))

def isDriveLetter : List Char → Bool
  | [c, m] => c.isAlpha && (m == ':' || m == '|')
  | _ => false

/-- The segments without the last one. A file's drive letter, when alone, stays. -/
def dropLastSegment (kind : Kind) : List (List Char) → List (List Char)
  | [] => []
  | [s] => if kind == .file && isDriveLetter s then [s] else []
  | ss => ss.dropLast

/-- The segments of a path, given those before. After the last segment `.` and `..` leave an
empty one. -/
def resolve (kind : Kind) (done : List (List Char)) : List (List Char) → List (List Char)
  | [] => done
  | s :: rest =>
    let slot : List (List Char) := if rest.isEmpty then [[]] else []
    if isTwoDots s then resolve kind (dropLastSegment kind done ++ slot) rest
    else if isOneDot s then resolve kind (done ++ slot) rest
    else
      let s :=
        if kind == .file && done.isEmpty && isDriveLetter s then s.take 1 ++ [':'] else s
      resolve kind (done ++ [s]) rest

def segmentsOf (kind : Kind) (s : List Char) : List (List Char) :=
  s.splitOnP fun c => c == '/' || (kind.isSpecial && c == '\\')

def joinSegments (segments : List (List Char)) : List Char :=
  segments.flatMap ('/' :: ·)

def pathOf (kind : Kind) (s : List Char) : List Char :=
  let startsWithSlash :=
    (s.head?.map fun c => c == '/' || (kind.isSpecial && c == '\\')).getD false
  let body := if startsWithSlash then s.drop 1 else s
  let segments := resolve kind [] (segmentsOf kind (percentEncode inPathSet body))
  let segments :=
    if kind == .file then
      match segments.dropWhile (·.isEmpty) with
      | [] => [[]]
      | ss => ss
    else segments
  joinSegments segments

/-! ### Query and fragment -/

def splitAt (mark : Char) (s : List Char) : List Char × Option (List Char) :=
  let front := s.takeWhile (· != mark)
  match s.drop front.length with
  | _ :: rest => (front, some rest)
  | [] => (front, none)

/-! ### URLs -/

/-- The parts after the scheme: how many slashes stand there decides whether an authority
follows. -/
def authorityAndPath (scheme : List Char) (s : List Char) :
    Except Error (Option Authority × List Char) :=
  let kind := kindOf scheme
  let withAuthority (s : List Char) : Except Error (Option Authority × List Char) :=
    let text := s.takeWhile (!endsAuthority kind ·)
    let rest := s.drop text.length
    match authorityOf scheme text with
    | .error e => .error e
    | .ok a =>
      .ok (some a, if kind == .other && rest.isEmpty then [] else pathOf kind rest)
  match kind with
  | .special => withAuthority (s.dropWhile fun c => c == '/' || c == '\\')
  | .file =>
    let isSlash (c : Char) : Bool := c == '/' || c == '\\'
    match s with
    | a :: b :: rest =>
      if isSlash a && isSlash b then
        let host := rest.takeWhile (!endsAuthority kind ·)
        let rest' := rest.drop host.length
        if host.isEmpty then .ok (some { host := .domain [] }, pathOf kind rest')
        else if isDriveLetter host then .ok (some { host := .domain [] }, pathOf kind rest)
        else
          match Host.ofText host with
          | .error e => .error e
          | .ok h =>
            let h := if h = .domain "localhost".toList then .domain [] else h
            .ok (some { host := h }, pathOf kind rest')
      else .ok (some { host := .domain [] }, pathOf kind s)
    | s => .ok (some { host := .domain [] }, pathOf kind s)
  | .other =>
    match s with
    | '/' :: '/' :: rest => withAuthority rest
    | '/' :: _ => .ok (none, pathOf kind s)
    | s => .ok (none, percentEncode isControl s)

def ofText (s : List Char) : Except Error Url :=
  match splitScheme (cleaned s) with
  | none => .error .relativeWithoutBase
  | some (scheme, rest) =>
    let (rest, fragment) := splitAt '#' rest
    let (rest, query) := splitAt '?' rest
    match authorityAndPath scheme rest with
    | .error e => .error e
    | .ok (authority, path) =>
      .ok {
        scheme, authority, path
        query := query.map (percentEncode (inQuerySet (isSpecialScheme scheme)))
        fragment := fragment.map (percentEncode inFragmentSet) }

end RequestFlow.Url
