import RequestFlow.Text.Folding
import RequestFlow.Text.Word
import RequestFlow.Text.Category.Other
import RequestFlow.Text.Category.Symbol
import RequestFlow.Text.Script

/-!
# RequestFlow.Pattern.CharSet

Sets of characters as patterns write them.

* `CharSet.has`      — membership of a code point.
* `CharSet.ofClass?` — the set that `\p{…}` names: a property, a general category or a script.
* `CharSet.posix?`   — the ASCII set that `[:name:]` names.
-/

namespace RequestFlow.Pattern

open Text

inductive CharSet where
  | none
  | range (first last : Nat)
  | runs (rs : Runs)
  | word
  | union (a b : CharSet)
  | inter (a b : CharSet)
  | complement (a : CharSet)
  /-- Every character that some member equals when case is ignored. -/
  | folded (a : CharSet)

namespace CharSet

def has : CharSet → Nat → Bool
  | none, _ => false
  | range first last, n => first ≤ n && n ≤ last
  | runs rs, n => rs.has n
  | word, n => isWord (Char.ofNat n)
  | union a b, n => a.has n || b.has n
  | inter a b, n => a.has n && b.has n
  | complement a, n => !a.has n
  | folded a, n => (foldClass n).any a.has

def char (c : Char) : CharSet :=
  range c.toNat c.toNat

def any : CharSet := complement none

def diff (a b : CharSet) : CharSet :=
  inter a (complement b)

def symmDiff (a b : CharSet) : CharSet :=
  union (diff a b) (diff b a)

def ofRanges (ranges : List (Nat × Nat)) : CharSet :=
  runs (ranges.map fun (a, b) => (a, b, 1)).toArray

def unions : List CharSet → CharSet
  | [] => none
  | [a] => a
  | a :: rest => union a (unions rest)

/-- The blanks of Unicode. -/
def blank : CharSet :=
  ofRanges [(0x9, 0xD), (0x20, 0x20), (0x85, 0x85), (0xA0, 0xA0), (0x1680, 0x1680),
    (0x2000, 0x200A), (0x2028, 0x2029), (0x202F, 0x202F), (0x205F, 0x205F), (0x3000, 0x3000)]

def digit : CharSet := runs Category.decimalDigits

def asciiDigit : CharSet := range 0x30 0x39

def asciiBlank : CharSet := ofRanges [(0x9, 0xD), (0x20, 0x20)]

def asciiWord : CharSet :=
  ofRanges [(0x30, 0x39), (0x41, 0x5A), (0x5F, 0x5F), (0x61, 0x7A)]

def posix? : String → Option CharSet
  | "alnum" => some (ofRanges [(0x30, 0x39), (0x41, 0x5A), (0x61, 0x7A)])
  | "alpha" => some (ofRanges [(0x41, 0x5A), (0x61, 0x7A)])
  | "ascii" => some (range 0 0x7F)
  | "blank" => some (ofRanges [(0x9, 0x9), (0x20, 0x20)])
  | "cntrl" => some (ofRanges [(0, 0x1F), (0x7F, 0x7F)])
  | "digit" => some asciiDigit
  | "graph" => some (range 0x21 0x7E)
  | "lower" => some (range 0x61 0x7A)
  | "print" => some (range 0x20 0x7E)
  | "punct" => some (ofRanges [(0x21, 0x2F), (0x3A, 0x40), (0x5B, 0x60), (0x7B, 0x7E)])
  | "space" => some asciiBlank
  | "upper" => some (range 0x41 0x5A)
  | "word" => some asciiWord
  | "xdigit" => some (ofRanges [(0x30, 0x39), (0x41, 0x46), (0x61, 0x66)])
  | _ => Option.none

/-! ### Named classes -/

open Category

def letter : CharSet :=
  unions [runs uppercaseLetters, runs lowercaseLetters, runs titlecaseLetters,
    runs modifierLetters, runs otherLetters]

def casedLetter : CharSet :=
  unions [runs uppercaseLetters, runs lowercaseLetters, runs titlecaseLetters]

def mark : CharSet :=
  unions [runs nonspacingMarks, runs spacingMarks, runs enclosingMarks]

def number : CharSet :=
  unions [runs decimalDigits, runs letterNumbers, runs otherNumbers]

def punctuation : CharSet :=
  unions [runs connectors, runs dashes, runs openers, runs closers, runs initialQuotes,
    runs finalQuotes, runs otherPunctuation]

def symbol : CharSet :=
  unions [runs mathSymbols, runs currencySymbols, runs modifierSymbols, runs otherSymbols]

def separator : CharSet :=
  unions [runs spaceSeparators, runs lineSeparators, runs paragraphSeparators]

def assigned : CharSet :=
  unions [letter, mark, number, punctuation, symbol, separator, runs controls, runs formats,
    runs privateUse, range 0xD800 0xDFFF]

/-- A name in lower case without blanks, hyphens, underscores and a leading `is`. -/
def plainName (s : List Char) : String :=
  let name := (s.filter fun c => c.toNat < 0x80 && c != ' ' && c != '_' && c != '-').map Char.toLower
  match name with
  | ['i', 's', 'c'] => "isc"
  | 'i' :: 's' :: rest => String.ofList rest
  | _ => String.ofList name

def property? : String → Option CharSet
  | "alphabetic" | "alpha" =>
    some (unions [letter, runs letterNumbers, runs Property.otherAlphabetic])
  | "lowercase" | "lower" =>
    some (union (runs lowercaseLetters) (runs Property.otherLowercase))
  | "uppercase" | "upper" =>
    some (union (runs uppercaseLetters) (runs Property.otherUppercase))
  | "whitespace" | "wspace" | "space" => some blank
  | "emoji" => some (runs Property.emoji)
  | "asciihexdigit" | "ahex" =>
    some (ofRanges [(0x30, 0x39), (0x41, 0x46), (0x61, 0x66)])
  | _ => Option.none

def category? : String → Option CharSet
  | "any" => some any
  | "ascii" => some (range 0 0x7F)
  | "assigned" => some assigned
  | "l" | "letter" => some letter
  | "lc" | "casedletter" => some casedLetter
  | "lu" | "uppercaseletter" => some (runs uppercaseLetters)
  | "ll" | "lowercaseletter" => some (runs lowercaseLetters)
  | "lt" | "titlecaseletter" => some (runs titlecaseLetters)
  | "lm" | "modifierletter" => some (runs modifierLetters)
  | "lo" | "otherletter" => some (runs otherLetters)
  | "m" | "mark" | "combiningmark" => some mark
  | "mn" | "nonspacingmark" => some (runs nonspacingMarks)
  | "mc" | "spacingmark" => some (runs spacingMarks)
  | "me" | "enclosingmark" => some (runs enclosingMarks)
  | "n" | "number" => some number
  | "nd" | "decimalnumber" | "digit" => some digit
  | "nl" | "letternumber" => some (runs letterNumbers)
  | "no" | "othernumber" => some (runs otherNumbers)
  | "p" | "punctuation" | "punct" => some punctuation
  | "pc" | "connectorpunctuation" => some (runs connectors)
  | "pd" | "dashpunctuation" => some (runs dashes)
  | "ps" | "openpunctuation" => some (runs openers)
  | "pe" | "closepunctuation" => some (runs closers)
  | "pi" | "initialpunctuation" => some (runs initialQuotes)
  | "pf" | "finalpunctuation" => some (runs finalQuotes)
  | "po" | "otherpunctuation" => some (runs otherPunctuation)
  | "s" | "symbol" => some symbol
  | "sm" | "mathsymbol" => some (runs mathSymbols)
  | "sc" | "currencysymbol" => some (runs currencySymbols)
  | "sk" | "modifiersymbol" => some (runs modifierSymbols)
  | "so" | "othersymbol" => some (runs otherSymbols)
  | "z" | "separator" => some separator
  | "zs" | "spaceseparator" => some (runs spaceSeparators)
  | "zl" | "lineseparator" => some (runs lineSeparators)
  | "zp" | "paragraphseparator" => some (runs paragraphSeparators)
  | "c" | "other" =>
    some (unions [runs controls, runs formats, runs privateUse, complement assigned])
  | "cc" | "control" | "cntrl" => some (runs controls)
  | "cf" | "format" => some (runs formats)
  | "co" | "privateuse" => some (runs privateUse)
  | "cn" | "unassigned" => some (complement assigned)
  | _ => Option.none

def script? : String → Option CharSet
  | "latin" | "latn" => some (runs Script.latin)
  | "greek" | "grek" => some (runs Script.greek)
  | "cyrillic" | "cyrl" => some (runs Script.cyrillic)
  | "armenian" | "armn" => some (runs Script.armenian)
  | "hebrew" | "hebr" => some (runs Script.hebrew)
  | "arabic" | "arab" => some (runs Script.arabic)
  | "devanagari" | "deva" => some (runs Script.devanagari)
  | "thai" => some (runs Script.thai)
  | "georgian" | "geor" => some (runs Script.georgian)
  | "hangul" | "hang" => some (runs Script.hangul)
  | "hiragana" | "hira" => some (runs Script.hiragana)
  | "katakana" | "kana" => some (runs Script.katakana)
  | "han" | "hani" => some (runs Script.han)
  | "common" | "zyyy" => some (runs Script.common)
  | "inherited" | "zinh" | "qaai" => some (runs Script.inherited)
  | _ => Option.none

def ofName? (name : List Char) : Option CharSet :=
  let name := plainName name
  (property? name).or ((category? name).or (script? name))

/-- The set of characters whose property `name` has the given value. -/
def ofValue? (name value : List Char) : Option CharSet :=
  match plainName name with
  | "gc" | "generalcategory" => category? (plainName value)
  | "sc" | "script" => script? (plainName value)
  | _ => Option.none

def cut? (mark : List Char) : List Char → Option (List Char × List Char)
  | [] => Option.none
  | c :: rest =>
    if mark.isPrefixOf (c :: rest) then some ([], (c :: rest).drop mark.length)
    else (cut? mark rest).map fun (a, b) => (c :: a, b)

/-- The set that the text between the braces of `\p{…}` names. -/
def ofClass? (s : List Char) : Option CharSet :=
  match cut? ['!', '='] s with
  | some (name, value) => (ofValue? name value).map complement
  | Option.none =>
    match (cut? [':'] s).or (cut? ['='] s) with
    | some (name, value) => ofValue? name value
    | Option.none => ofName? s

end CharSet

end RequestFlow.Pattern
