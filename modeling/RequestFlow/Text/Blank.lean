/-!
# RequestFlow.Text.Blank

Blank characters and the cuts that go by them.

* `isBlank` — the Unicode property White_Space.
* `trim`    — a text without the blanks at its two ends.
* `words`   — the maximal runs of characters that are not blank.
* `lines`   — the pieces between newlines, trimmed, without the empty ones.
-/

namespace RequestFlow.Text

def isBlank (c : Char) : Bool :=
  let n := c.toNat
  (0x9 ≤ n && n ≤ 0xD) || n == 0x20 || n == 0x85 || n == 0xA0 || n == 0x1680 ||
    (0x2000 ≤ n && n ≤ 0x200A) || n == 0x2028 || n == 0x2029 || n == 0x202F ||
    n == 0x205F || n == 0x3000

def trimStart (s : List Char) : List Char :=
  s.dropWhile isBlank

def trimEnd (s : List Char) : List Char :=
  (s.reverse.dropWhile isBlank).reverse

def trim (s : List Char) : List Char :=
  trimEnd (trimStart s)

def words (s : List Char) : List (List Char) :=
  (s.splitOnP isBlank).filter (!·.isEmpty)

def lines (s : List Char) : List (List Char) :=
  ((s.splitOn '\n').map trim).filter (!·.isEmpty)

/-- How many newlines a text holds. -/
def newlines (s : List Char) : Nat :=
  s.count '\n'

end RequestFlow.Text
