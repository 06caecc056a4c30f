/-!
# RequestFlow.Hook.World

What hooks read from outside: environment variables and fresh identifiers. Each place of a
run at which an identifier is drawn has a number path of its own, so a world is a function
and evaluation needs no state for it.
-/

namespace RequestFlow.Hook

/-- Where in a run something is evaluated: the number of each part inside its whole, the
innermost first. -/
abbrev Site := List Nat

structure World where
  env : String → Option String
  uuid : Site → String

namespace Uuid

def mix (n k : Nat) : Nat :=
  let m := (n + k + 1) * 0x2360ED051FC65DA44385DF649FCCF645 + 0x5851F42D4C957F2D14057B7EF767814F
  (m ^^^ (m / 0x2000000000000000)) % 0x100000000000000000000000000000000

def bits (seed : Nat) (site : Site) : Nat :=
  mix (site.foldr (fun k n => mix n k) (mix seed 0)) site.length

def hexDigits (width n : Nat) : List Char :=
  let digits := Nat.toDigits 16 (n % Nat.pow 16 width)
  List.replicate (width - digits.length) '0' ++ digits

/-- The text of a version 4 identifier made of random bits. -/
def text (n : Nat) : String :=
  let d := hexDigits 32 n
  let variant := hexDigits 1 (8 + n / 0x1000000000000000 % 4)
  String.ofList (d.take 8 ++ '-' :: (d.drop 8).take 4 ++ ['-', '4'] ++ (d.drop 13).take 3 ++
    '-' :: variant ++ (d.drop 17).take 3 ++ '-' :: d.drop 20)

end Uuid

def World.ofSeed (env : String → Option String) (seed : Nat) : World where
  env := env
  uuid site := Uuid.text (Uuid.bits seed site)

end RequestFlow.Hook
