import CypherExpr.Value.Basic

/-!
# Static types

The types that inference assigns to expressions.  `any` is both the type of null and the type above
all others; `number` stands above integers and floats, and lists are covariant.
-/

namespace CypherExpr

inductive ValueType where
  | any
  | boolean
  | integer
  | float
  | number
  | string
  | list (element : ValueType)
  | map
  | node
  | relationship
  | path
  | date
  | time
  | localDateTime
  | dateTime
  | duration
  deriving DecidableEq, Repr

namespace ValueType

def name : ValueType → String
  | any => "ANY"
  | boolean => "BOOLEAN"
  | integer => "INTEGER"
  | float => "FLOAT"
  | number => "NUMBER"
  | string => "STRING"
  | list element => "LIST<" ++ element.name ++ ">"
  | map => "MAP"
  | node => "NODE"
  | relationship => "RELATIONSHIP"
  | path => "PATH"
  | date => "DATE"
  | time => "LOCAL TIME"
  | localDateTime => "LOCAL DATETIME"
  | dateTime => "ZONED DATETIME"
  | duration => "DURATION"

def isAny : ValueType → Bool
  | any => true
  | _ => false

def isNumeric : ValueType → Bool
  | integer | float | number => true
  | _ => false

/-- Dates, times and datetimes: the types of calendar points. -/
def isPoint : ValueType → Bool
  | date | time | localDateTime | dateTime => true
  | _ => false

def isTemporal : ValueType → Bool
  | duration => true
  | other => other.isPoint

def element? : ValueType → Option ValueType
  | list element => some element
  | _ => none

/-- Whether a value of the second type can be used where the first is expected. -/
def accepts : ValueType → ValueType → Bool
  | any, _ => true
  | _, any => true
  | number, other => other.isNumeric
  | list left, list right => left.accepts right
  | left, right => decide (left = right)

/-- The least type above two types, where `any` gives way to the other one. -/
def join : ValueType → ValueType → ValueType
  | any, right => right
  | left, any => left
  | list left, list right => list (left.join right)
  | left, right =>
      if left = right then left
      else if left.isNumeric && right.isNumeric then number
      else any

/-- The join of a sequence of types from left to right, `any` for none. -/
def joinAll : List ValueType → ValueType
  | [] => any
  | first :: rest => rest.foldl join first

end ValueType

mutual

/-- The type of a value; null has the type `any`. -/
def Value.type : Value → ValueType
  | .null => .any
  | .boolean _ => .boolean
  | .integer _ => .integer
  | .float _ => .float
  | .string _ => .string
  | .list items => .list (ValueType.joinAll (Value.types items))
  | .map _ => .map
  | .node _ => .node
  | .relationship _ => .relationship
  | .path _ => .path
  | .date _ => .date
  | .time _ => .time
  | .localDateTime _ => .localDateTime
  | .dateTime _ => .dateTime
  | .duration _ => .duration
termination_by structural value => value

def Value.types : List Value → List ValueType
  | [] => []
  | item :: rest => item.type :: Value.types rest
termination_by structural items => items

end

theorem Value.types_eq_map (items : List Value) : Value.types items = items.map Value.type := by
  induction items with
  | nil => rfl
  | cons item rest ih => simp [Value.types, ih]

end CypherExpr
