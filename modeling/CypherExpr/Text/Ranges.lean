/-!
# Ranges of code points

Character properties are sets of code points, kept as inclusive ranges and written in hexadecimal
with blanks or line ends between them: `41-5A B5` is the set of the capital letters of ASCII and the
micro sign.
-/

namespace CypherExpr.Text

/-- A set of code points: the union of inclusive ranges. -/
structure Ranges where
  pairs : List (Nat × Nat)

namespace Ranges

def contains (ranges : Ranges) (c : Char) : Bool :=
  ranges.pairs.any fun pair => decide (pair.1 ≤ c.toNat) && decide (c.toNat ≤ pair.2)

def union (parts : List Ranges) : Ranges :=
  ⟨parts.flatMap pairs⟩

/-- The value of a hexadecimal digit, in either case. -/
def hexDigit (c : Char) : Option Nat :=
  if c.isDigit then some (c.toNat - '0'.toNat)
  else if 'a' ≤ c ∧ c ≤ 'f' then some (c.toNat - 'a'.toNat + 10)
  else if 'A' ≤ c ∧ c ≤ 'F' then some (c.toNat - 'A'.toNat + 10)
  else none

/-- The range that ends with `current`; without a `start` it is a single code point. -/
def close (start current : Option Nat) : List (Nat × Nat) :=
  current.toList.map fun last => (start.getD last, last)

/-- Reads ranges up to the end of the text.  A code point under way is `current`; the start of a
range whose end is under way is `start`. -/
def scan : List Char → Option Nat → Option Nat → List (Nat × Nat)
  | [], start, current => close start current
  | ' ' :: rest, start, current => close start current ++ scan rest none none
  | '\n' :: rest, start, current => close start current ++ scan rest none none
  | '-' :: rest, _, current => scan rest current none
  | c :: rest, start, current =>
      scan rest start (some (16 * current.getD 0 + (hexDigit c).getD 0))

def ofText (text : String) : Ranges := ⟨scan text.toList none none⟩

end Ranges

end CypherExpr.Text
