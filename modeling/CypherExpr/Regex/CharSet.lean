import CypherExpr.Text.Blank
import CypherExpr.Text.Case

/-!
# Character sets of patterns

The sets of characters that a pattern can name: ranges, Unicode properties, the set operations of
bracketed classes, and closing a set under case.
-/

namespace CypherExpr.Regex

open Text (Ranges)

/-- A set of characters as it is written. -/
inductive CharSet where
  | ranges (ranges : Ranges)
  | complement (set : CharSet)
  | union (left right : CharSet)
  | intersection (left right : CharSet)
  | difference (left right : CharSet)
  | symmetricDifference (left right : CharSet)
  /-- Every character that differs from one of the set at most in case -/
  | caseless (set : CharSet)
  /-- The same for the letters of ASCII only -/
  | asciiCaseless (set : CharSet)

namespace CharSet

/-- The character in the two cases of ASCII. -/
def asciiVariants (c : Char) : List Char := [c, c.toUpper, c.toLower]

def contains : CharSet → Char → Bool
  | ranges pairs, c => pairs.contains c
  | complement set, c => !set.contains c
  | union left right, c => left.contains c || right.contains c
  | intersection left right, c => left.contains c && right.contains c
  | difference left right, c => left.contains c && !right.contains c
  | symmetricDifference left right, c => left.contains c != right.contains c
  | caseless set, c => (c :: Text.caseVariants c).any set.contains
  | asciiCaseless set, c => (asciiVariants c).any set.contains

def empty : CharSet := ranges ⟨[]⟩

def ofPairs (pairs : List (Nat × Nat)) : CharSet := ranges ⟨pairs⟩

/-- The set that is written as ranges of code points. -/
def ofText (text : String) : CharSet := ranges (.ofText text)

def singleton (c : Char) : CharSet := ofPairs [(c.toNat, c.toNat)]

/-- Every character except the given ones. -/
def except (chars : List Char) : CharSet :=
  complement (ofPairs (chars.map fun c => (c.toNat, c.toNat)))

instance : Coe Ranges CharSet := ⟨ranges⟩

instance : Union CharSet := ⟨union⟩

instance : Inter CharSet := ⟨intersection⟩

instance : SDiff CharSet := ⟨difference⟩

/-- Whether no code point from 128 to 255 is in the set. -/
def isAscii (set : CharSet) : Bool :=
  (List.range 128).all fun offset => !set.contains (Char.ofNat (128 + offset))

/-! ## Named sets -/

def digits : CharSet := ranges (Text.categoryRanges "Nd")

def blanks : CharSet := ranges Text.blankRanges

/-- Letters, marks, digits, connectors and joiners: the characters of words. -/
def wordChars : CharSet :=
  ranges (.union [Text.Property.alphabetic, Text.markRanges, Text.categoryRanges "Nd",
    Text.categoryRanges "Pc", Text.Property.joinControl])

def asciiDigits : CharSet := ofPairs [(0x30, 0x39)]

def asciiBlanks : CharSet := ofPairs [(0x09, 0x0D), (0x20, 0x20)]

def asciiWordChars : CharSet := ofPairs [(0x30, 0x39), (0x41, 0x5A), (0x5F, 0x5F), (0x61, 0x7A)]

/-- The classes with a name in brackets and colons. -/
def posixClass (name : String) : Option CharSet :=
  match name with
  | "alnum" => some (ofPairs [(0x30, 0x39), (0x41, 0x5A), (0x61, 0x7A)])
  | "alpha" => some (ofPairs [(0x41, 0x5A), (0x61, 0x7A)])
  | "ascii" => some (ofPairs [(0x00, 0x7F)])
  | "blank" => some (ofPairs [(0x09, 0x09), (0x20, 0x20)])
  | "cntrl" => some (ofPairs [(0x00, 0x1F), (0x7F, 0x7F)])
  | "digit" => some asciiDigits
  | "graph" => some (ofPairs [(0x21, 0x7E)])
  | "lower" => some (ofPairs [(0x61, 0x7A)])
  | "print" => some (ofPairs [(0x20, 0x7E)])
  | "punct" => some (ofPairs [(0x21, 0x2F), (0x3A, 0x40), (0x5B, 0x60), (0x7B, 0x7E)])
  | "space" => some asciiBlanks
  | "upper" => some (ofPairs [(0x41, 0x5A)])
  | "word" => some asciiWordChars
  | "xdigit" => some (ofPairs [(0x30, 0x39), (0x41, 0x46), (0x61, 0x66)])
  | _ => none

end CharSet

end CypherExpr.Regex
