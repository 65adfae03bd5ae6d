import CypherExpr.Json.Basic
import CypherExpr.Value.Render

/-!
# Plain JSON

Documents become values as they are, and null, booleans, numbers, strings, lists and maps become
documents again.  Graph entities become objects with their identity, temporal values their text.  A
double that JSON cannot write becomes null.
-/

namespace CypherExpr.Value

/-- An integer that fits stays one; any other becomes the nearest double. -/
def ofNumeral (value : Int) : Value :=
  match Checked.narrow value with
  | some word => .integer word
  | none => .float (Decimal.nearest value)

mutual

def ofJson : Json → Value
  | .null => .null
  | .boolean value => .boolean value
  | .integer value => ofNumeral value
  | .float value => .float value
  | .string value => .string value
  | .array items => .list (ofJsonItems items)
  | .object members => .map (ofJsonMembers members)
termination_by structural document => document

def ofJsonItems : List Json → List Value
  | [] => []
  | item :: rest => ofJson item :: ofJsonItems rest
termination_by structural items => items

def ofJsonMembers : List (String × Json) → List (String × Value)
  | [] => []
  | (key, value) :: rest => (key, ofJson value) :: ofJsonMembers rest
termination_by structural members => members

end

/-- A finite double as it is, any other as null. -/
def numeral (value : Float) : Json :=
  if Binary64.isFinite value then .float value else .null

/-- A 64-bit integer as a document. -/
def word (value : Int64) : Json := .integer value.toInt

mutual

def toJson : Value → Json
  | .null => .null
  | .boolean value => .boolean value
  | .integer value => word value
  | .float value => numeral value
  | .string value => .string value
  | .list items => .array (toJsonItems items)
  | .map entries => .ofMembers (toJsonMembers entries)
  | .node value => nodeToJson value
  | .relationship value => relationshipToJson value
  | .path value => pathToJson value
  | .date value => .string value.render
  | .time value => .string value.render
  | .localDateTime value => .string value.render
  | .dateTime value => .string value.render
  | .duration value => .string value.render
termination_by structural value => value

def toJsonItems : List Value → List Json
  | [] => []
  | item :: rest => toJson item :: toJsonItems rest
termination_by structural items => items

def toJsonMembers : List (String × Value) → List (String × Json)
  | [] => []
  | (key, value) :: rest => (key, toJson value) :: toJsonMembers rest
termination_by structural entries => entries

def nodeToJson : Node Value → Json
  | ⟨id, labels, properties⟩ =>
      .ofMembers
        [("id", word id), ("labels", .array (labels.map .string)),
          ("properties", .ofMembers (toJsonMembers properties))]
termination_by structural value => value

def relationshipToJson : Relationship Value → Json
  | ⟨id, kind, source, target, properties⟩ =>
      .ofMembers
        [("id", word id), ("type", .string kind), ("start", word source), ("end", word target),
          ("properties", .ofMembers (toJsonMembers properties))]
termination_by structural value => value

def pathToJson : Path Value → Json
  | ⟨start, hops⟩ =>
      .ofMembers
        [("nodes", .array (nodeToJson start :: hopNodesToJson hops)),
          ("relationships", .array (hopRelationshipsToJson hops))]
termination_by structural value => value

def hopNodesToJson : List (Relationship Value × Node Value) → List Json
  | [] => []
  | (_, next) :: rest => nodeToJson next :: hopNodesToJson rest
termination_by structural hops => hops

def hopRelationshipsToJson : List (Relationship Value × Node Value) → List Json
  | [] => []
  | (rel, _) :: rest => relationshipToJson rel :: hopRelationshipsToJson rest
termination_by structural hops => hops

end

end CypherExpr.Value
