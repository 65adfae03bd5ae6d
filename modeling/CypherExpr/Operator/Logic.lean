import CypherExpr.Error

/-!
# Three-valued logic

Truth values are true, false and unknown, written as optional Booleans; as values, unknown is null.
-/

namespace CypherExpr.Logic

def and : Option Bool → Option Bool → Option Bool
  | some false, _ => some false
  | _, some false => some false
  | some true, some true => some true
  | _, _ => none

def or : Option Bool → Option Bool → Option Bool
  | some true, _ => some true
  | _, some true => some true
  | some false, some false => some false
  | _, _ => none

def xor : Option Bool → Option Bool → Option Bool
  | some left, some right => some (left != right)
  | _, _ => none

def not : Option Bool → Option Bool := Option.map Bool.not

/-- The truth value that a Boolean or null stands for. -/
def ofValue : Value → Result (Option Bool)
  | .null => .ok none
  | .boolean value => .ok (some value)
  | other => .error (.mismatch "Boolean" other)

/-- A connective on values.  The left operand is checked first. -/
def lift (connective : Option Bool → Option Bool → Option Bool) (left right : Value) :
    Result Value :=
  match ofValue left with
  | .error cause => .error cause
  | .ok l =>
      match ofValue right with
      | .error cause => .error cause
      | .ok r => .ok (.ofTruth (connective l r))

def negation (operand : Value) : Result Value :=
  match ofValue operand with
  | .error cause => .error cause
  | .ok truth => .ok (.ofTruth (not truth))

/-- Whether an operand of a conjunction or disjunction counts as true: a Boolean by itself, a list
when it has elements, null never. -/
def isTruthy : Value → Result Bool
  | .boolean value => .ok value
  | .list items => .ok !items.isEmpty
  | .null => .ok false
  | other => .error (.mismatch "Boolean or List" other)

/-- Whether the outcome of a filter predicate keeps an element; null drops it. -/
def keeps : Value → Result Bool
  | .boolean value => .ok value
  | .null => .ok false
  | other => .error (.mismatch "Boolean" other)

end CypherExpr.Logic
