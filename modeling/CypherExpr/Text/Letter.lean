import CypherExpr.Text.Property

/-!
# Letters, numbers and cased characters

What names of groups and conversions of case go by: the properties of version 17.0 of Unicode, as
those of version 16.0 with the code points that the later version adds and the one that it drops.
-/

namespace CypherExpr.Text

def alphabeticRanges : Ranges :=
  .union [Property.alphabetic, .ofText
    "88F C5C CDC A7CE-A7CF A7D2 A7D4 A7F1 10940-10959 10EC5-10EC7 10EFA-10EFB 11B60-11B67
    11DB0-11DDB 16EA0-16EB8 16EBB-16ED3 16FF2-16FF6 187F8-187FF 18D09-18D1E 18D80-18DF2
    1E6C0-1E6DE 1E6E0-1E6F5 1E6FE-1E6FF 2B73A-2B73F 2CEA2-2CEAD 323B0-33479"]

def isAlphabetic (c : Char) : Bool := alphabeticRanges.contains c

def numberRanges : Ranges := .union [numericRanges, .ofText "11DE0-11DE9 16FF4-16FF6"]

def isNumeric (c : Char) : Bool := numberRanges.contains c

def casedRanges : Ranges :=
  .union [Property.cased, .ofText "A7CE-A7CF A7D2 A7D4 A7F1 16EA0-16EB8 16EBB-16ED3"]

/-- The voiced pharyngeal fricative has no case any more. -/
def isCased (c : Char) : Bool := c != 'ʕ' && casedRanges.contains c

def caseIgnorableRanges : Ranges :=
  .union [Property.caseIgnorable, .ofText
    "1ACF-1ADD 1AE0-1AEB A7F1 10EC5 10EFA-10EFB 11B60 11B62-11B64 11B66 11DD9 16FF2-16FF3 1E6E3
    1E6E6 1E6EE-1E6EF 1E6F5 1E6FF"]

def isCaseIgnorable (c : Char) : Bool := caseIgnorableRanges.contains c

end CypherExpr.Text
