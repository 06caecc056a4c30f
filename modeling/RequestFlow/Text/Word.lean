import RequestFlow.Text.Category.Letter
import RequestFlow.Text.Category.Mark
import RequestFlow.Text.Category.Numeral
import RequestFlow.Text.Category.Punctuation
import RequestFlow.Text.Property

/-!
# RequestFlow.Text.Word

Word characters: letters, marks, decimal digits, connectors and joiners. A word boundary
lies between a word character and a character that is none (or an end of the text).
-/

namespace RequestFlow.Text

open Category

def isLetter (n : Nat) : Bool :=
  uppercaseLetters.has n || lowercaseLetters.has n || titlecaseLetters.has n ||
    modifierLetters.has n || otherLetters.has n

def isMark (n : Nat) : Bool :=
  nonspacingMarks.has n || spacingMarks.has n || enclosingMarks.has n

def isAlphabetic (n : Nat) : Bool :=
  isLetter n || letterNumbers.has n || Property.otherAlphabetic.has n

def isWord (c : Char) : Bool :=
  let n := c.toNat
  if n < 0x80 then c.isAlphanum || c == '_'
  else isAlphabetic n || isMark n || decimalDigits.has n || connectors.has n ||
    n == 0x200C || n == 0x200D

end RequestFlow.Text
