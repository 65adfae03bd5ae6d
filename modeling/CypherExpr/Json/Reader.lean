import CypherExpr.Json.Basic
import CypherExpr.Text.Ranges

/-!
# Reading JSON text

A number without a point and an exponent is an integer, except for `-0`, which is the negative zero
of doubles; every other number is the nearest double.  Of two members with one key the later counts.
-/

namespace CypherExpr.Json.Reader

def isBlank (c : Char) : Bool := c == ' ' || c == '\t' || c == '\n' || c == '\r'

def skipBlanks (chars : List Char) : List Char := chars.dropWhile isBlank

/-! ## Strings -/

/-- The number that hexadecimal digits stand for. -/
def hexNumber (digits : List Char) : Option Nat :=
  digits.foldlM (fun total c => (Text.Ranges.hexDigit c).map fun digit => 16 * total + digit) 0

/-- The character that a backslash and a letter stand for. -/
def escaped (letter : Char) : Option Char :=
  match letter with
  | 'b' => some '\x08'
  | 'f' => some '\x0c'
  | 'n' => some '\n'
  | 'r' => some '\r'
  | 't' => some '\t'
  | '"' => some '"'
  | '\\' => some '\\'
  | '/' => some '/'
  | _ => none

/-- The code points and code units of a string up to its closing quote, and what follows. -/
def splitString : List Char → Option (List Nat × List Char)
  | [] => none
  | '"' :: rest => some ([], rest)
  | '\\' :: 'u' :: a :: b :: c :: d :: rest =>
      (hexNumber [a, b, c, d]).bind fun unit =>
        (splitString rest).map fun (units, more) => (unit :: units, more)
  | '\\' :: letter :: rest =>
      (escaped letter).bind fun c =>
        (splitString rest).map fun (units, more) => (c.toNat :: units, more)
  | c :: rest => (splitString rest).map fun (units, more) => (c.toNat :: units, more)

def isHighHalf (unit : Nat) : Bool := decide (0xD800 ≤ unit) && decide (unit < 0xDC00)

def isLowHalf (unit : Nat) : Bool := decide (0xDC00 ≤ unit) && decide (unit < 0xE000)

/-- The characters of code points, some of which are written as two halves.  A lone half has none.
-/
def joinHalves : List Nat → Option (List Char)
  | [] => some []
  | unit :: rest =>
      if isHighHalf unit then
        match rest with
        | low :: more =>
            if isLowHalf low then
              (joinHalves more).map
                (Char.ofNat (0x10000 + (unit - 0xD800) * 0x400 + (low - 0xDC00)) :: ·)
            else none
        | [] => none
      else if isLowHalf unit then none
      else (joinHalves rest).map (Char.ofNat unit :: ·)

/-- A string after its opening quote. -/
def readString (chars : List Char) : Option (String × List Char) :=
  (splitString chars).bind fun (units, rest) =>
    (joinHalves units).map fun text => (String.ofList text, rest)

/-! ## Numbers -/

def isNumberChar (c : Char) : Bool :=
  c.isDigit || c == '-' || c == '+' || c == '.' || c == 'e' || c == 'E'

/-- The number that a numeral stands for. -/
def numberOf (numeral : List Char) : Option Json :=
  let (negative, digits) := Decimal.splitSign numeral
  if digits.isEmpty || (numeral.head? == some '+') then none
  else if digits.all Char.isDigit && !(negative && digits == ['0']) then
    some (.integer (Binary64.signed negative (Decimal.naturalOf digits)))
  else (Decimal.readFloat (String.ofList numeral)).map .float

/-! ## Documents -/

mutual

/-- Splits off one document.  Each level and each item spends one unit of `fuel`. -/
def splitDocument : Nat → List Char → Option (Json × List Char)
  | 0, _ => none
  | fuel + 1, chars =>
      match skipBlanks chars with
      | '"' :: rest => (readString rest).map fun (text, more) => (.string text, more)
      | '[' :: rest =>
          match skipBlanks rest with
          | ']' :: more => some (.array [], more)
          | _ => (splitItems fuel rest).map fun (items, more) => (.array items, more)
      | '\x7b' :: rest =>
          match skipBlanks rest with
          | '\x7d' :: more => some (.object [], more)
          | _ =>
              (splitMembers fuel rest).map fun (members, more) =>
                (.ofMembers members.reverse, more)
      | 'n' :: 'u' :: 'l' :: 'l' :: rest => some (.null, rest)
      | 't' :: 'r' :: 'u' :: 'e' :: rest => some (.boolean true, rest)
      | 'f' :: 'a' :: 'l' :: 's' :: 'e' :: rest => some (.boolean false, rest)
      | rest =>
          (numberOf (rest.takeWhile isNumberChar)).map fun number =>
            (number, rest.dropWhile isNumberChar)

/-- Splits off the items of an array up to its closing bracket. -/
def splitItems : Nat → List Char → Option (List Json × List Char)
  | 0, _ => none
  | fuel + 1, chars =>
      (splitDocument fuel chars).bind fun (item, rest) =>
        match skipBlanks rest with
        | ',' :: more => (splitItems fuel more).map fun (items, after) => (item :: items, after)
        | ']' :: more => some ([item], more)
        | _ => none

/-- Splits off the members of an object up to its closing brace. -/
def splitMembers : Nat → List Char → Option (List (String × Json) × List Char)
  | 0, _ => none
  | fuel + 1, chars =>
      match skipBlanks chars with
      | '"' :: rest =>
          (readString rest).bind fun (key, rest) =>
            match skipBlanks rest with
            | ':' :: rest =>
                (splitDocument fuel rest).bind fun (value, rest) =>
                  match skipBlanks rest with
                  | ',' :: more =>
                      (splitMembers fuel more).map fun (members, after) =>
                        ((key, value) :: members, after)
                  | '\x7d' :: more => some ([(key, value)], more)
                  | _ => none
            | _ => none
      | _ => none

end

end CypherExpr.Json.Reader

namespace CypherExpr.Json

/-- The document that a text holds.  Every level and item takes a character, so twice their number
is fuel enough. -/
def read? (text : String) : Option Json :=
  let chars := text.toList
  match Reader.splitDocument (2 * chars.length + 2) chars with
  | some (document, rest) => if (Reader.skipBlanks rest).isEmpty then some document else none
  | none => none

end CypherExpr.Json
