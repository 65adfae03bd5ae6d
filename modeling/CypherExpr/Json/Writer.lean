import CypherExpr.Json.Basic

/-!
# Writing JSON text

Documents are written without blanks.  Quotes, backslashes and control characters are escaped.
-/

namespace CypherExpr.Json

namespace Writer

/-- A digit from 0 to 15 in hexadecimal. -/
def hexChar (digit : Nat) : Char :=
  if digit < 10 then Char.ofNat ('0'.toNat + digit) else Char.ofNat ('a'.toNat + (digit - 10))

/-- The lowest `width` hexadecimal digits of a number. -/
def hexText (width number : Nat) : String :=
  String.ofList <| (List.range width).reverse.map fun place =>
    hexChar (number / Nat.pow 16 place % 16)

def escape (c : Char) : List Char :=
  if c = '"' then ['\\', '"']
  else if c = '\\' then ['\\', '\\']
  else if c.toNat < 32 then '\\' :: 'u' :: (hexText 4 c.toNat).toList
  else [c]

def stringText (text : String) : String :=
  "\"" ++ String.ofList (text.toList.flatMap escape) ++ "\""

end Writer

mutual

def write : Json → String
  | .null => "null"
  | .boolean value => toString value
  | .integer value => toString value
  | .float value => if Binary64.isFinite value then Decimal.render ⟨"", ""⟩ value else "null"
  | .string value => Writer.stringText value
  | .array items => "[" ++ ",".intercalate (writeItems items) ++ "]"
  | .object members => "\x7b" ++ ",".intercalate (writeMembers members) ++ "\x7d"
termination_by structural document => document

def writeItems : List Json → List String
  | [] => []
  | item :: rest => write item :: writeItems rest
termination_by structural items => items

def writeMembers : List (String × Json) → List String
  | [] => []
  | (key, value) :: rest => (Writer.stringText key ++ ":" ++ write value) :: writeMembers rest
termination_by structural members => members

end

end CypherExpr.Json
