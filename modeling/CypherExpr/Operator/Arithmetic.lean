import CypherExpr.Error
import CypherExpr.Duration.Shift

/-!
# Arithmetic operators

A null operand gives null.  Integers stay integers and are checked, an integer with a float is
promoted, and `^` always gives a float.  `+` also joins strings and lists, and `+` and `-` move
calendar points by durations.
-/

namespace CypherExpr.Arithmetic

open Value (asFloat?)

def unsupportedPair {α : Type} (symbol : String) (left right : Value) : Result α :=
  .error (.typeMismatch ("operands supported by " ++ symbol)
    (left.kindName ++ ", " ++ right.kindName))

/-- A checked result, or overflow in the named operation. -/
def checked {α : Type} (operation : String) (wrap : α → Value) : Option α → Result Value
  | some value => .ok (wrap value)
  | none => .error (.overflow operation)

/-- The operation on doubles, for two numbers of which either may be an integer. -/
def promoted (symbol : String) (operation : Float → Float → Float) (left right : Value) :
    Result Value :=
  match asFloat? left, asFloat? right with
  | some l, some r => .ok (.float (operation l r))
  | _, _ => unsupportedPair symbol left right

/-- Moves a calendar point; `none` for a value that is not one. -/
def shift? (duration : Duration) : Value → Option (Option Value)
  | .date day => some ((duration.addToDate day).map .date)
  | .time clock => some ((duration.addToTime clock).map .time)
  | .localDateTime point => some ((duration.addToLocal point).map .localDateTime)
  | .dateTime point => some ((duration.addToZoned point).map .dateTime)
  | _ => none

def moved (symbol : String) (duration : Duration) (point left right : Value) : Result Value :=
  match shift? duration point with
  | some result => checked symbol id result
  | none => unsupportedPair symbol left right

def add : Value → Value → Result Value
  | .null, _ => .ok .null
  | _, .null => .ok .null
  | .integer left, .integer right => checked "+" .integer (Checked.add left right)
  | .string left, right => .ok (.string (left ++ right.plainText))
  | .list left, .list right => .ok (.list (left ++ right))
  | .list left, right => .ok (.list (left ++ [right]))
  | left, .list right => .ok (.list (left :: right))
  | left, .string right => .ok (.string (left.plainText ++ right))
  | .duration left, .duration right => checked "+" .duration (left.add right)
  | left, .duration right => moved "+" right left left (.duration right)
  | .duration left, right => moved "+" left right (.duration left) right
  | left, right => promoted "+" (· + ·) left right

def subtract : Value → Value → Result Value
  | .null, _ => .ok .null
  | _, .null => .ok .null
  | .integer left, .integer right => checked "-" .integer (Checked.subtract left right)
  | .duration left, .duration right => checked "-" .duration (left.subtract right)
  | left, .duration right =>
      match right.negate with
      | some negated => moved "-" negated left left (.duration right)
      | none =>
          match shift? right left with
          | some _ => .error (.overflow "-")
          | none => unsupportedPair "-" left (.duration right)
  | left, right => promoted "-" (· - ·) left right

def multiply : Value → Value → Result Value
  | .null, _ => .ok .null
  | _, .null => .ok .null
  | .integer left, .integer right => checked "*" .integer (Checked.multiply left right)
  | .duration left, .integer right => checked "*" .duration (left.multiply right)
  | .integer left, .duration right => checked "*" .duration (right.multiply left)
  | left, right => promoted "*" (· * ·) left right

/-- Integers are divided toward zero; floats divide by zero as IEEE 754 has it. -/
def divide : Value → Value → Result Value
  | .null, _ => .ok .null
  | _, .null => .ok .null
  | .integer left, .integer right =>
      if right = 0 then .error .divisionByZero
      else checked "/" .integer (Checked.quotient left right)
  | .duration left, .integer right =>
      if right = 0 then .error .divisionByZero else checked "/" .duration (left.divide right)
  | left, right => promoted "/" (· / ·) left right

/-- The remainder is defined for integers alone and has the sign of the dividend. -/
def modulo : Value → Value → Result Value
  | .null, _ => .ok .null
  | _, .null => .ok .null
  | .integer left, .integer right =>
      if right = 0 then .error .divisionByZero
      else checked "%" .integer (Checked.remainder left right)
  | left, right => unsupportedPair "%" left right

def power : Value → Value → Result Value
  | .null, _ => .ok .null
  | _, .null => .ok .null
  | left, right => promoted "^" Float.pow left right

def negate : Value → Result Value
  | .null => .ok .null
  | .integer value => checked "negation" .integer (Checked.negate value)
  | .float value => .ok (.float (-value))
  | .duration span => checked "negation" .duration span.negate
  | other => .error (.mismatch "Integer, Float or Duration" other)

end CypherExpr.Arithmetic
