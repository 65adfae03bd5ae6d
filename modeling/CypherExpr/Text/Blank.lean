import CypherExpr.Text.Ranges

/-!
# White space

The 25 characters with the `White_Space` property, and trimming by it.
-/

namespace CypherExpr.Text

def blankRanges : Ranges :=
  ⟨[(0x09, 0x0D), (0x20, 0x20), (0x85, 0x85), (0xA0, 0xA0), (0x1680, 0x1680), (0x2000, 0x200A),
    (0x2028, 0x2029), (0x202F, 0x202F), (0x205F, 0x205F), (0x3000, 0x3000)]⟩

def isBlank (c : Char) : Bool := blankRanges.contains c

/-- The text without the white space at either end. -/
def trim (text : String) : String :=
  let chars := text.toList.dropWhile isBlank
  String.ofList (chars.reverse.dropWhile isBlank).reverse

end CypherExpr.Text
