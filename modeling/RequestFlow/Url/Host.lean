import RequestFlow.Url.Domain

/-!
# RequestFlow.Url.Host

Hosts read from text: domains, and addresses in their several spellings.
-/

namespace RequestFlow.Url

/-! ### IPv4 -/

def ipv4Number? (s : List Char) : Option Nat :=
  match s with
  | [] => none
  | '0' :: 'x' :: rest => Text.digitsIn? 16 rest
  | '0' :: 'X' :: rest => Text.digitsIn? 16 rest
  | '0' :: c :: rest => Text.digitsIn? 8 (c :: rest)
  | s => Text.digitsIn? 10 s

/-- The parts between dots, without a last one that is empty. -/
def dotParts (s : List Char) : List (List Char) :=
  let parts := s.splitOn '.'
  if parts.getLast? == some [] && 1 < parts.length then parts.dropLast else parts

def endsInNumber (domain : List Char) : Bool :=
  match (dotParts domain).getLast? with
  | none => false
  | some last => (!last.isEmpty && last.all Char.isDigit) || (ipv4Number? last).isSome

/-- Each number but the last is one octet; the last one fills the rest. -/
def ipv4Of (domain : List Char) : Except Error Host :=
  match (dotParts domain).mapM ipv4Number? with
  | none => .error .invalidIpv4
  | some numbers =>
    let front := numbers.dropLast
    let last := numbers.getLast?.getD 0
    if 4 < numbers.length ∨ front.any (255 < ·) ∨ Nat.pow 256 (4 - front.length) ≤ last then
      .error .invalidIpv4
    else
      .ok (.ipv4 ((front.zipIdx.map fun (n, i) => n * Nat.pow 256 (3 - i)).foldl (· + ·) last))

/-! ### IPv6 -/

def piece? (s : List Char) : Option Nat :=
  if s.isEmpty || 4 < s.length then none else Text.digitsIn? 16 s

/-- One octet of an address in dots, without needless zeros. -/
def octet? (s : List Char) : Option Nat :=
  if s.isEmpty || 3 < s.length || (s.head? == some '0' && 1 < s.length) then none
  else (Text.digitsIn? 10 s).bind fun n => if n ≤ 255 then some n else none

def dottedPieces? (s : List Char) : Option (List Nat) :=
  match (s.splitOn '.').mapM octet? with
  | some [a, b, c, d] => some [a * 256 + b, c * 256 + d]
  | _ => none

/-- Pieces between colons; the last one may be an address with dots. -/
def pieces? (dotted : Bool) : List (List Char) → Option (List Nat)
  | [] => some []
  | [last] =>
    if dotted && last.contains '.' then dottedPieces? last else (piece? last).map fun n => [n]
  | p :: rest =>
    match piece? p, pieces? dotted rest with
    | some n, some ns => some (n :: ns)
    | _, _ => none

def colonParts (s : List Char) : List (List Char) :=
  if s.isEmpty then [] else s.splitOn ':'

def cutAtGap : List Char → Option (List Char × List Char)
  | ':' :: ':' :: rest => some ([], rest)
  | [] => none
  | c :: rest => (cutAtGap rest).map fun (a, b) => (c :: a, b)

/-- Eight pieces; `::` stands for one zero or more. -/
def ipv6Of (s : List Char) : Except Error Host :=
  let pieces : Option (List Nat) :=
    match cutAtGap s with
    | none =>
      (pieces? true (colonParts s)).bind fun ps => if ps.length = 8 then some ps else none
    | some (front, back) =>
      match pieces? false (colonParts front), pieces? true (colonParts back) with
      | some a, some b =>
        if a.length + b.length ≤ 7 then
          some (a ++ List.replicate (8 - a.length - b.length) 0 ++ b)
        else none
      | _, _ => none
  match pieces with
  | some ps => .ok (.ipv6 ps)
  | none => .error .invalidIpv6

/-! ### Hosts -/

def bracketed (s : List Char) : Except Error Host :=
  if s.getLast? == some ']' then ipv6Of (s.drop 1).dropLast else .error .invalidIpv6

def Host.ofText (s : List Char) : Except Error Host :=
  if s.head? == some '[' then bracketed s
  else
    match Text.Utf8.decode? (percentDecode s) with
    | .error _ => .error .invalidDomain
    | .ok decoded =>
      match toAscii decoded with
      | .error e => .error e
      | .ok name =>
        if name.isEmpty then .error .emptyHost
        else if endsInNumber name then ipv4Of name
        else .ok (.domain name)

def isForbiddenOpaque (c : Char) : Bool :=
  "\x00\t\n\r #/:<>?@[\\]^|".toList.contains c

def Host.opaqueOfText (s : List Char) : Except Error Host :=
  if s.head? == some '[' then bracketed s
  else if s.any isForbiddenOpaque then .error .invalidDomainCharacter
  else .ok (.domain (percentEncode isControl s))

end RequestFlow.Url
