import CypherExpr.Calendar.IsoReader
import CypherExpr.Json.Conversion

/-!
# Tagged JSON

The form of values that loses nothing: an object with the kind of the value under `type` and its
content under `value`.  Entities and paths are objects of their parts, calendar points are ISO 8601
text, and the values inside lists, maps and properties are tagged in turn.
-/

namespace CypherExpr.Tagged

/-! ## Writing -/

/-- An object of a kind and a content. -/
def tagged (kind : String) (content : Json) : Json :=
  .ofMembers [("type", .string kind), ("value", content)]

def encodeDuration (duration : Duration) : Json :=
  .ofMembers
    [("months", Value.word duration.months), ("days", Value.word duration.days),
      ("seconds", Value.word duration.seconds), ("nanos", .integer duration.nanos)]

mutual

def encode : Value → Json
  | .null => .ofMembers [("type", .string "Null")]
  | .boolean value => tagged "Boolean" (.boolean value)
  | .integer value => tagged "Integer" (Value.word value)
  | .float value => tagged "Float" (Value.numeral value)
  | .string value => tagged "String" (.string value)
  | .list items => tagged "List" (.array (encodeItems items))
  | .map entries => tagged "Map" (.ofMembers (encodeMembers entries))
  | .node value => tagged "Node" (encodeNode value)
  | .relationship value => tagged "Relationship" (encodeRelationship value)
  | .path value => tagged "Path" (encodePath value)
  | .date value => tagged "Date" (.string value.render)
  | .time value => tagged "Time" (.string value.render)
  | .localDateTime value => tagged "LocalDateTime" (.string value.render)
  | .dateTime value => tagged "DateTime" (.string value.renderUtc)
  | .duration value => tagged "Duration" (encodeDuration value)
termination_by structural value => value

def encodeItems : List Value → List Json
  | [] => []
  | item :: rest => encode item :: encodeItems rest
termination_by structural items => items

def encodeMembers : List (String × Value) → List (String × Json)
  | [] => []
  | (key, value) :: rest => (key, encode value) :: encodeMembers rest
termination_by structural entries => entries

def encodeNode : Node Value → Json
  | ⟨id, labels, properties⟩ =>
      .ofMembers
        [("id", Value.word id), ("labels", .array (labels.map .string)),
          ("properties", .ofMembers (encodeMembers properties))]
termination_by structural value => value

def encodeRelationship : Relationship Value → Json
  | ⟨id, kind, source, target, properties⟩ =>
      .ofMembers
        [("id", Value.word id), ("rel_type", .string kind), ("start", Value.word source),
          ("end", Value.word target), ("properties", .ofMembers (encodeMembers properties))]
termination_by structural value => value

def encodePath : Path Value → Json
  | ⟨start, hops⟩ =>
      .ofMembers
        [("nodes", .array (encodeNode start :: encodeHopNodes hops)),
          ("relationships", .array (encodeHopRelationships hops))]
termination_by structural value => value

def encodeHopNodes : List (Relationship Value × Node Value) → List Json
  | [] => []
  | (_, node) :: rest => encodeNode node :: encodeHopNodes rest
termination_by structural hops => hops

def encodeHopRelationships : List (Relationship Value × Node Value) → List Json
  | [] => []
  | (relationship, _) :: rest => encodeRelationship relationship :: encodeHopRelationships rest
termination_by structural hops => hops

end

/-! ## Reading -/

/-- What a document stands for in each place of a tagged document that could hold it. -/
structure Reading where
  /-- As a tagged value -/
  value : Option Value
  /-- As the content of a list -/
  values : Option (List Value)
  /-- As the content of a map, or as properties -/
  properties : Option (Properties Value)
  node : Option (Node Value)
  relationship : Option (Relationship Value)
  nodes : Option (List (Node Value))
  relationships : Option (List (Relationship Value))
  /-- As a path, which may yet turn out to be defective -/
  path : Option (Except PathDefect (Path Value))

def Reading.none : Reading := ⟨.none, .none, .none, .none, .none, .none, .none, .none⟩

/-- A member of an object together with its reading. -/
structure Member where
  document : Json
  reading : Reading

/-- Members of an object under their keys. -/
abbrev Members := List (String × Member)

def Members.document? (members : Members) (key : String) : Option Json :=
  (members.lookup key).map Member.document

def Members.reading? (members : Members) (key : String) : Option Reading :=
  (members.lookup key).map Member.reading

def decodeDuration (document : Json) : Option Duration := do
  let months ← (← document.member? "months").integer?
  let days ← (← document.member? "days").integer?
  let seconds ← (← document.member? "seconds").integer?
  let nanos ← (← document.member? "nanos").integer?
  return Duration.ofFields months days seconds nanos

/-- The value of a kind with the given content. -/
def decodeContent (kind : String) (content : Member) : Option Value :=
  match kind with
  | "Boolean" => content.document.boolean?.map .boolean
  | "Integer" => content.document.integer?.map .integer
  | "Float" => content.document.float?.map .float
  | "String" => content.document.string?.map .string
  | "List" => content.reading.values.map .list
  | "Map" => content.reading.properties.map .map
  | "Node" => content.reading.node.map .node
  | "Relationship" => content.reading.relationship.map .relationship
  | "Path" => (content.reading.path.bind Except.toOption).map .path
  | "Date" => (content.document.string?.bind Date.read?).map .date
  | "Time" => (content.document.string?.bind TimeOfDay.read?).map .time
  | "LocalDateTime" => (content.document.string?.bind LocalDateTime.read?).map .localDateTime
  | "DateTime" => (content.document.string?.bind ZonedDateTime.read?).map .dateTime
  | "Duration" => (decodeDuration content.document).map .duration
  | _ => none

/-- Null has no content, so only null may stand where it would. -/
def decodeTagged (members : Members) : Option Value := do
  let kind ← (← members.document? "type").string?
  match members.lookup "value" with
  | none => if kind = "Null" then some .null else none
  | some content =>
      if kind = "Null" then if content.document.isNull then some .null else none
      else decodeContent kind content

def decodeNode (members : Members) : Option (Node Value) := do
  let id ← (← members.document? "id").integer?
  let labels ← (← members.document? "labels").strings?
  let properties ← (← members.reading? "properties").properties
  return ⟨id, labels, properties⟩

def decodeRelationship (members : Members) : Option (Relationship Value) := do
  let id ← (← members.document? "id").integer?
  let kind ← (← members.document? "rel_type").string?
  let source ← (← members.document? "start").integer?
  let target ← (← members.document? "end").integer?
  let properties ← (← members.reading? "properties").properties
  return ⟨id, kind, source, target, properties⟩

def decodePath (members : Members) : Option (Except PathDefect (Path Value)) := do
  let nodes ← (← members.reading? "nodes").nodes
  let relationships ← (← members.reading? "relationships").relationships
  return Path.ofParts nodes relationships

def ofItems (items : List Reading) : Reading :=
  { Reading.none with
    values := items.mapM Reading.value
    nodes := items.mapM Reading.node
    relationships := items.mapM Reading.relationship }

def ofMembers (members : Members) : Reading :=
  { Reading.none with
    value := decodeTagged members
    properties := members.mapM fun (key, member) =>
      member.reading.value.map fun value => (key, value)
    node := decodeNode members
    relationship := decodeRelationship members
    path := decodePath members }

mutual

/-- Reads a document in every role at once, so that each part of it is read once. -/
def read : Json → Reading
  | .array items => ofItems (readItems items)
  | .object members => ofMembers (readMembers members)
  | _ => Reading.none
termination_by structural document => document

def readItems : List Json → List Reading
  | [] => []
  | item :: rest => read item :: readItems rest
termination_by structural items => items

def readMembers : List (String × Json) → Members
  | [] => []
  | (key, value) :: rest => (key, ⟨value, read value⟩) :: readMembers rest
termination_by structural members => members

end

/-- The value that a tagged document stands for.  The form that is read is the one that `encode`
writes: tagged values, entities, paths and durations are objects, with their members in any order
and among any others.  An array of the contents alone, in place of such an object, is refused.  A
duration is made by `Duration.ofFields`, so whole seconds are carried out of its nanoseconds. -/
def decode (document : Json) : Option Value := (read document).value

/-- The path that a document of nodes and relationships describes. -/
def decodePath? (document : Json) : Option (Except PathDefect (Path Value)) := (read document).path

end CypherExpr.Tagged
