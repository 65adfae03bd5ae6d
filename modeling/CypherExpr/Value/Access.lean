import CypherExpr.Value.Basic
import CypherExpr.Calendar.Iso

/-!
# Access to parts of values

Properties and named components, and the accessors that demand one kind of value.
-/

namespace CypherExpr

namespace Value

/-- An exact component as an integer value.  Every component of a calendar point fits. -/
def ofComponent (number : Int) : Value := .integer (Int64.ofInt number)

/-- The property or component under a key.  Maps, nodes and relationships have properties, temporal
values have calendar components. -/
def component? (value : Value) (key : String) : Option Value :=
  match value with
  | .map entries => Properties.get? entries key
  | .node entity => Properties.get? entity.properties key
  | .relationship entity => Properties.get? entity.properties key
  | .date day => (day.component key).map ofComponent
  | .time clock => (clock.component key).map ofComponent
  | .localDateTime point => (point.component key).map ofComponent
  | .dateTime point =>
      match key with
      | "offset" => some (.string (Iso.fullOffsetText point.offset))
      | "offsetSeconds" => some (ofComponent point.offset)
      | "epochSeconds" => some (ofComponent point.moment.second)
      | "epochMillis" => some (ofComponent (point.instant / 1000000))
      | _ => (point.clock.component key).map ofComponent
  | .duration span => (span.component key).map ofComponent
  | _ => none

/-- A value was not of the kind that an accessor demands. -/
structure Mismatch where
  expected : String
  found : String
  deriving DecidableEq

def Mismatch.message (mismatch : Mismatch) : String :=
  "type mismatch: expected " ++ mismatch.expected ++ ", found " ++ mismatch.found

def mismatch {α : Type} (expected : String) (value : Value) : Except Mismatch α :=
  .error ⟨expected, value.kindName⟩

def expectBoolean : Value → Except Mismatch Bool
  | .boolean value => .ok value
  | other => mismatch "Boolean" other

def expectInteger : Value → Except Mismatch Int64
  | .integer value => .ok value
  | other => mismatch "Integer" other

/-- A number as a double; integers are promoted. -/
def expectFloat (value : Value) : Except Mismatch Float :=
  match value.asFloat? with
  | some number => .ok number
  | none => mismatch "Float" value

def expectString : Value → Except Mismatch String
  | .string value => .ok value
  | other => mismatch "String" other

def expectList : Value → Except Mismatch (List Value)
  | .list items => .ok items
  | other => mismatch "List" other

def expectMap : Value → Except Mismatch (Properties Value)
  | .map entries => .ok entries
  | other => mismatch "Map" other

def expectNode : Value → Except Mismatch (Node Value)
  | .node value => .ok value
  | other => mismatch "Node" other

def expectRelationship : Value → Except Mismatch (Relationship Value)
  | .relationship value => .ok value
  | other => mismatch "Relationship" other

def expectPath : Value → Except Mismatch (Path Value)
  | .path value => .ok value
  | other => mismatch "Path" other

end Value

end CypherExpr
