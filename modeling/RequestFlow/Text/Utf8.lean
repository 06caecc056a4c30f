/-!
# RequestFlow.Text.Utf8

Octets read as UTF-8.

* `pieces`  — the characters of an octet sequence and, between them, the maximal starts of
  characters that never come to an end.
* `decode?` — the text, or the number of octets before the first malformed piece.
* `lossy`   — the text with U+FFFD for every malformed piece.
-/

namespace RequestFlow.Text.Utf8

abbrev Bytes := List UInt8

/-- A character that has begun: the bits so far, how many octets are owed, the bounds of
the next one and how many were taken. -/
structure Begun where
  bits : Nat
  owed : Nat
  least : Nat
  greatest : Nat
  taken : Nat
deriving Repr, DecidableEq

/-- What one octet is at the start of a character. -/
inductive Lead where
  | ascii (c : Char)
  | begins (b : Begun)
  | stray
deriving Repr, DecidableEq

def lead (octet : UInt8) : Lead :=
  let n := octet.toNat
  if n < 0x80 then .ascii (Char.ofNat n)
  else if n < 0xC2 then .stray
  else if n < 0xE0 then .begins ⟨n - 0xC0, 1, 0x80, 0xBF, 1⟩
  else if n < 0xF0 then
    .begins ⟨n - 0xE0, 2, if n == 0xE0 then 0xA0 else 0x80, if n == 0xED then 0x9F else 0xBF, 1⟩
  else if n < 0xF5 then
    .begins ⟨n - 0xF0, 3, if n == 0xF0 then 0x90 else 0x80, if n == 0xF4 then 0x8F else 0xBF, 1⟩
  else .stray

/-- The character with one more octet, unless the octet is out of bounds. -/
def Begun.take? (b : Begun) (octet : UInt8) : Option Begun :=
  if b.least ≤ octet.toNat ∧ octet.toNat ≤ b.greatest then
    some ⟨b.bits * 64 + (octet.toNat - 0x80), b.owed - 1, 0x80, 0xBF, b.taken + 1⟩
  else none

inductive Piece where
  | char (c : Char) (width : Nat)
  | malformed (width : Nat)
deriving Repr, DecidableEq

def piecesFrom : Option Begun → Bytes → List Piece
  | none, [] => []
  | some b, [] => [.malformed b.taken]
  | none, o :: rest =>
    match lead o with
    | .ascii c => .char c 1 :: piecesFrom none rest
    | .begins b => piecesFrom (some b) rest
    | .stray => .malformed 1 :: piecesFrom none rest
  | some b, o :: rest =>
    match b.take? o with
    | some b' =>
      if b'.owed == 0 then .char (Char.ofNat b'.bits) b'.taken :: piecesFrom none rest
      else piecesFrom (some b') rest
    | none =>
      .malformed b.taken ::
        match lead o with
        | .ascii c => .char c 1 :: piecesFrom none rest
        | .begins b' => piecesFrom (some b') rest
        | .stray => .malformed 1 :: piecesFrom none rest

def pieces (bytes : Bytes) : List Piece :=
  piecesFrom none bytes

def decodePieces (offset : Nat) : List Piece → Except Nat (List Char)
  | [] => .ok []
  | .char c w :: rest =>
    match decodePieces (offset + w) rest with
    | .ok cs => .ok (c :: cs)
    | .error e => .error e
  | .malformed _ :: _ => .error offset

def decode? (bytes : Bytes) : Except Nat (List Char) :=
  decodePieces 0 (pieces bytes)

def lossy (bytes : Bytes) : List Char :=
  (pieces bytes).map fun
    | .char c _ => c
    | .malformed _ => Char.ofNat 0xFFFD

def encode (s : String) : Bytes :=
  s.toUTF8.data.toList

end RequestFlow.Text.Utf8
