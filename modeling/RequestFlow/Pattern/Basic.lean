import RequestFlow.Pattern.CharSet

/-!
# RequestFlow.Pattern.Basic

Regular expressions. A pattern prefers, from left to right, the first branch of an
alternation and, for a greedy repetition, one more round over none.
-/

namespace RequestFlow

namespace Pattern

inductive Look where
  | textStart
  | textEnd
  | lineStart
  | lineEnd
  /-- Line ends that may be `\r`, `\n` or both. -/
  | wideLineStart
  | wideLineEnd
  | boundary (ascii : Bool)
  | noBoundary (ascii : Bool)
  | wordStart (ascii : Bool)
  | wordEnd (ascii : Bool)
  /-- No word character before the place. -/
  | wordStartHalf (ascii : Bool)
  /-- No word character after it. -/
  | wordEndHalf (ascii : Bool)
deriving Repr, DecidableEq

def isWordIn (ascii : Bool) : Option Char → Bool
  | none => false
  | some c => if ascii then CharSet.asciiWord.has c.toNat else Text.isWord c

/-- Whether the condition holds between two characters, either of which may be missing. -/
def Look.holds (look : Look) (before after : Option Char) : Bool :=
  match look with
  | .textStart => before.isNone
  | .textEnd => after.isNone
  | .lineStart => before.isNone || before == some '\n'
  | .lineEnd => after.isNone || after == some '\n'
  | .wideLineStart =>
    before.isNone || before == some '\n' || (before == some '\r' && after != some '\n')
  | .wideLineEnd =>
    after.isNone || after == some '\r' || (after == some '\n' && before != some '\r')
  | .boundary ascii => isWordIn ascii before != isWordIn ascii after
  | .noBoundary ascii => isWordIn ascii before == isWordIn ascii after
  | .wordStart ascii => !isWordIn ascii before && isWordIn ascii after
  | .wordEnd ascii => isWordIn ascii before && !isWordIn ascii after
  | .wordStartHalf ascii => !isWordIn ascii before
  | .wordEndHalf ascii => !isWordIn ascii after

end Pattern

inductive Pattern where
  | empty
  | set (s : Pattern.CharSet)
  | look (l : Pattern.Look)
  | seq (first second : Pattern)
  | alt (first second : Pattern)
  | repeated (p : Pattern) (least : Nat) (most : Option Nat) (greedy : Bool)
  | group (index : Nat) (p : Pattern)

namespace Pattern

def isEmpty : Pattern → Bool
  | empty => true
  | _ => false

def seqs : List Pattern → Pattern
  | [] => empty
  | [p] => p
  | p :: rest => seq p (seqs rest)

def alts : List Pattern → Pattern
  | [] => empty
  | [p] => p
  | p :: rest => alt p (alts rest)

/-- Whether the pattern may match the empty text. -/
def nullable : Pattern → Bool
  | empty | look _ => true
  | set _ => false
  | seq p q => p.nullable && q.nullable
  | alt p q => p.nullable || q.nullable
  | repeated p least _ _ => least == 0 || p.nullable
  | group _ p => p.nullable

end Pattern

end RequestFlow
