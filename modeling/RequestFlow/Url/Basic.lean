import RequestFlow.Url.Percent

/-!
# RequestFlow.Url.Basic

Absolute URLs, in parts and as text.
-/

namespace RequestFlow

namespace Url

inductive Host where
  /-- May be empty only outside special URLs. -/
  | domain (name : List Char)
  | ipv4 (address : Nat)
  | ipv6 (pieces : List Nat)
deriving Repr, DecidableEq

structure Authority where
  user : List Char := []
  password : List Char := []
  host : Host
  port : Option Nat := none
deriving Repr, DecidableEq

inductive Error where
  | relativeWithoutBase
  | emptyHost
  | invalidPort
  | invalidIpv4
  | invalidIpv6
  | invalidDomain
  | invalidDomainCharacter
deriving Repr, DecidableEq

def Error.message : Error → String
  | .relativeWithoutBase => "relative URL without a base"
  | .emptyHost => "empty host"
  | .invalidPort => "invalid port number"
  | .invalidIpv4 => "invalid IPv4 address"
  | .invalidIpv6 => "invalid IPv6 address"
  | .invalidDomain => "invalid international domain name"
  | .invalidDomainCharacter => "invalid domain character"

end Url

/-- All parts are percent-encoded as they are written. -/
structure Url where
  scheme : List Char
  authority : Option Url.Authority := none
  path : List Char
  query : Option (List Char) := none
  fragment : Option (List Char) := none
deriving Repr, DecidableEq

namespace Url

def defaultPort? (scheme : List Char) : Option Nat :=
  match String.ofList scheme with
  | "http" | "ws" => some 80
  | "https" | "wss" => some 443
  | "ftp" => some 21
  | _ => none

def isFileScheme (scheme : List Char) : Bool :=
  String.ofList scheme == "file"

/-- Special schemes always have a path, and take backslashes for slashes. -/
def isSpecialScheme (scheme : List Char) : Bool :=
  (defaultPort? scheme).isSome || isFileScheme scheme

/-! ### Text -/

/-- The longest run of zeros from some place on, if it has two pieces or more: where it
starts and how long it is. Of equally long runs it is the first. -/
def zeroRun (pieces : List Nat) : Option (Nat × Nat) :=
  let runAt (i : Nat) : Nat := ((pieces.drop i).takeWhile (· == 0)).length
  let best := (List.range pieces.length).foldl
    (fun (best : Nat × Nat) i => if best.2 < runAt i then (i, runAt i) else best) (0, 0)
  if 2 ≤ best.2 then some best else none

def pieceText (n : Nat) : List Char :=
  Nat.toDigits 16 n

def piecesText (pieces : List Nat) : List Char :=
  [':'].intercalate (pieces.map pieceText)

def ipv6Text (pieces : List Nat) : List Char :=
  match zeroRun pieces with
  | none => piecesText pieces
  | some (start, count) =>
    piecesText (pieces.take start) ++ [':', ':'] ++ piecesText (pieces.drop (start + count))

def ipv4Text (address : Nat) : List Char :=
  ['.'].intercalate ([24, 16, 8, 0].map fun shift => Nat.toDigits 10 (address / Nat.pow 2 shift % 256))

def Host.text : Host → List Char
  | .domain name => name
  | .ipv4 address => ipv4Text address
  | .ipv6 pieces => '[' :: ipv6Text pieces ++ [']']

def Authority.userinfoText (a : Authority) : List Char :=
  let password := if a.password.isEmpty then [] else ':' :: a.password
  if a.user.isEmpty && password.isEmpty then [] else a.user ++ password ++ ['@']

def Authority.text (a : Authority) : List Char :=
  let port := (a.port.map fun p => ':' :: Nat.toDigits 10 p).getD []
  '/' :: '/' :: a.userinfoText ++ a.host.text ++ port

/-- A path that could be taken for an authority is written after `/.`. -/
def pathText (u : Url) : List Char :=
  match u.authority, u.path with
  | none, '/' :: '/' :: _ => '/' :: '.' :: u.path
  | _, path => path

def chars (u : Url) : List Char :=
  u.scheme ++ ':' :: ((u.authority.map Authority.text).getD []) ++ u.pathText ++
    ((u.query.map ('?' :: ·)).getD []) ++ ((u.fragment.map ('#' :: ·)).getD [])

def text (u : Url) : String :=
  String.ofList u.chars

def isDecodable (s : List Char) : Bool :=
  (Text.Utf8.decode? (percentDecode s)).toOption.isSome

/-- The URL without user and password, as far as these denote texts. -/
def withoutUserinfo (u : Url) : Url :=
  let bare (a : Authority) : Authority :=
    if isDecodable a.user && (!a.user.isEmpty || isDecodable a.password) then
      { a with user := [], password := [] }
    else a
  { u with authority := u.authority.map bare }

def hasHost (u : Url) : Bool :=
  u.authority.any fun a => a.host != .domain []

end Url

end RequestFlow
