import RequestFlow.Text.CaseTable
import RequestFlow.Text.Word
import RequestFlow.Text.Category.Symbol
import RequestFlow.Text.Category.Other

/-!
# RequestFlow.Text.Casing

Full case conversion. Every character is mapped on its own, but for the capital sigma,
whose lowercase is `ς` at the end of a word and `σ` elsewhere.
-/

namespace RequestFlow.Text

open Category

def isCased (c : Char) : Bool :=
  let n := c.toNat
  uppercaseLetters.has n || lowercaseLetters.has n || titlecaseLetters.has n ||
    Property.otherLowercase.has n || Property.otherUppercase.has n

/-- Punctuation that does not end a word. -/
def midWord : Runs := #[
  (0x27, 0x27, 1), (0x2E, 0x2E, 1), (0x3A, 0x3A, 1), (0xB7, 0xB7, 1), (0x387, 0x387, 1),
  (0x55F, 0x55F, 1), (0x5F4, 0x5F4, 1), (0x2018, 0x2019, 1), (0x2024, 0x2024, 1),
  (0x2027, 0x2027, 1), (0xFE13, 0xFE13, 1), (0xFE52, 0xFE52, 1), (0xFE55, 0xFE55, 1),
  (0xFF07, 0xFF07, 1), (0xFF0E, 0xFF0E, 1), (0xFF1A, 0xFF1A, 1)]

def isCaseIgnorable (c : Char) : Bool :=
  let n := c.toNat
  nonspacingMarks.has n || enclosingMarks.has n || formats.has n || modifierLetters.has n ||
    modifierSymbols.has n || midWord.has n

/-- Whether the first character that counts for case is a cased one. -/
def startsCased (s : List Char) : Bool :=
  match s.dropWhile isCaseIgnorable with
  | [] => false
  | c :: _ => isCased c

def mapCase (long : Array (Nat × List Nat)) (short : CaseTable.Shifts) (c : Char) : List Char :=
  match long.find? (·.1 == c.toNat) with
  | some (_, image) => image.map Char.ofNat
  | none => [Char.ofNat (short.apply c.toNat)]

def toUpper (s : List Char) : List Char :=
  s.flatMap (mapCase CaseTable.upperLong CaseTable.upper)

/-- Lowercase of `s` after the characters `before`, the nearest first. -/
def toLowerAfter (before : List Char) : List Char → List Char
  | [] => []
  | c :: rest =>
    let image :=
      if c == 'Σ' then
        if startsCased before && !startsCased rest then ['ς'] else ['σ']
      else mapCase CaseTable.lowerLong CaseTable.lower c
    image ++ toLowerAfter (c :: before) rest

def toLower (s : List Char) : List Char :=
  toLowerAfter [] s

def asciiLower (s : List Char) : List Char :=
  s.map Char.toLower

end RequestFlow.Text
