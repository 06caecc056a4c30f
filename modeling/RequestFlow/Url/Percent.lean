import RequestFlow.Text.Hex
import RequestFlow.Text.Utf8

/-!
# RequestFlow.Url.Percent

Percent encoding: octets written `%XX`. Characters beyond ASCII are always encoded; which
ASCII characters are, depends on the part of the URL.
-/

namespace RequestFlow.Url

open Text.Utf8 (Bytes)

def octetText (b : UInt8) : List Char :=
  ['%', (Text.hexDigit (b.toNat / 16)).toUpper, (Text.hexDigit b.toNat).toUpper]

def isControl (c : Char) : Bool :=
  c.toNat < 0x20 || 0x7F ≤ c.toNat

def inFragmentSet (c : Char) : Bool :=
  isControl c || " \"<>`".toList.contains c

def inPathSet (c : Char) : Bool :=
  inFragmentSet c || "#?\x7b\x7d".toList.contains c

def inUserinfoSet (c : Char) : Bool :=
  inPathSet c || "/:;=@[\\]^|".toList.contains c

/-- In a special URL the apostrophe is encoded too. -/
def inQuerySet (special : Bool) (c : Char) : Bool :=
  isControl c || " \"#<>".toList.contains c || (special && c == '\'')

def percentEncode (inSet : Char → Bool) (s : List Char) : List Char :=
  s.flatMap fun c =>
    if inSet c then (Text.Utf8.encode (String.ofList [c])).flatMap octetText else [c]

/-- The octets of a text, with those that are written `%XX`. -/
def percentDecode : List Char → Bytes
  | [] => []
  | '%' :: a :: b :: rest =>
    match Text.hexDigit? a, Text.hexDigit? b with
    | some x, some y => UInt8.ofNat (x * 16 + y) :: percentDecode rest
    | _, _ => Text.Utf8.encode "%" ++ percentDecode (a :: b :: rest)
  | c :: rest => Text.Utf8.encode (String.ofList [c]) ++ percentDecode rest

end RequestFlow.Url
