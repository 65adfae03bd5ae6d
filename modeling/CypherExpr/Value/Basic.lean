import CypherExpr.Graph.Path
import CypherExpr.Number.Binary64
import CypherExpr.Duration.Basic

/-!
# Values

The values that expressions are evaluated to: null, scalars, lists and maps, graph entities and
paths, and temporal values.
-/

namespace CypherExpr

inductive Value where
  | null
  | boolean (value : Bool)
  | integer (value : Int64)
  | float (value : Float)
  | string (value : String)
  | list (items : List Value)
  | map (entries : List (String × Value))
  | node (value : Node Value)
  | relationship (value : Relationship Value)
  | path (value : Path Value)
  | date (value : Date)
  | time (value : TimeOfDay)
  | localDateTime (value : LocalDateTime)
  | dateTime (value : ZonedDateTime)
  | duration (value : Duration)

namespace Value

instance : Inhabited Value := ⟨.null⟩

/-- The name of the kind of a value, as error messages give it. -/
def kindName : Value → String
  | null => "Null"
  | boolean _ => "Boolean"
  | integer _ => "Integer"
  | float _ => "Float"
  | string _ => "String"
  | list _ => "List"
  | map _ => "Map"
  | node _ => "Node"
  | relationship _ => "Relationship"
  | path _ => "Path"
  | date _ => "Date"
  | time _ => "Time"
  | localDateTime _ => "LocalDateTime"
  | dateTime _ => "DateTime"
  | duration _ => "Duration"

def isNull : Value → Bool
  | null => true
  | _ => false

def isTrue : Value → Bool
  | boolean value => value
  | _ => false

def isNumber : Value → Bool
  | integer _ | float _ => true
  | _ => false

/-- Whether the value has properties or named components. -/
def hasComponents : Value → Bool
  | null | boolean _ | integer _ | float _ | string _ | list _ | path _ => false
  | _ => true

/-- The value as a double; integers are rounded to the nearest one. -/
def asFloat? : Value → Option Float
  | float value => some value
  | integer value => some (Binary64.ofInteger value)
  | _ => none

/-- The properties of a map, a node or a relationship. -/
def properties? : Value → Option (Properties Value)
  | map entries => some entries
  | node value => some value.properties
  | relationship value => some value.properties
  | _ => none

def ofOption : Option Value → Value
  | some value => value
  | none => null

/-- The three-valued outcome of a predicate. -/
def ofTruth : Option Bool → Value
  | some value => boolean value
  | none => null

end Value

end CypherExpr
