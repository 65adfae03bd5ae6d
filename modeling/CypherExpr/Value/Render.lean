import CypherExpr.Value.Basic
import CypherExpr.Number.Decimal
import CypherExpr.Duration.Iso

/-!
# Text of values

Values are written as in the query language: strings in single quotes, graph entities as patterns,
temporal values in ISO 8601.
-/

namespace CypherExpr

/-- A string in single quotes.  A quote inside is escaped, a backslash is not. -/
def quoted (text : String) : String :=
  "'" ++ String.ofList (text.toList.flatMap fun c => if c = '\'' then ['\\', '\''] else [c]) ++ "'"

namespace Value

/-- The doubles without a numeral, as values name them. -/
def floatWords : Decimal.SpecialWords := ⟨"NaN", "Infinity"⟩

/-- Rendered entries in braces. -/
def braced (entries : List String) : String :=
  "\x7b" ++ ", ".intercalate entries ++ "\x7d"

mutual

def render : Value → String
  | .null => "null"
  | .boolean value => toString value
  | .integer value => toString value.toInt
  | .float value => Decimal.render floatWords value
  | .string value => quoted value
  | .list items => "[" ++ ", ".intercalate (renderList items) ++ "]"
  | .map entries => braced (renderEntries entries)
  | .node value => renderNode value
  | .relationship value => renderRelationship value
  | .path value => renderPath value
  | .date value => value.render
  | .time value => value.render
  | .localDateTime value => value.render
  | .dateTime value => value.render
  | .duration value => value.render
termination_by structural value => value

def renderList : List Value → List String
  | [] => []
  | item :: rest => render item :: renderList rest
termination_by structural items => items

def renderEntries : List (String × Value) → List String
  | [] => []
  | (key, value) :: rest => (key ++ ": " ++ render value) :: renderEntries rest
termination_by structural entries => entries

def renderNode : Node Value → String
  | ⟨_, labels, properties⟩ =>
      let marks := String.join (labels.map (":" ++ ·))
      let gap := if labels.isEmpty then "" else " "
      "(" ++ marks
        ++ (if properties.isEmpty then "" else gap ++ braced (renderEntries properties)) ++ ")"
termination_by structural value => value

def renderRelationship : Relationship Value → String
  | ⟨_, kind, _, _, properties⟩ =>
      "[:" ++ kind
        ++ (if properties.isEmpty then "" else " " ++ braced (renderEntries properties)) ++ "]"
termination_by structural value => value

def renderPath : Path Value → String
  | ⟨start, hops⟩ => renderNode start ++ renderHops start.id hops
termination_by structural value => value

/-- The hops that follow a node, each with an arrow in the direction of its relationship. -/
def renderHops (id : Int64) : List (Relationship Value × Node Value) → String
  | [] => ""
  | (rel, next) :: rest =>
      (if rel.source = id then "-" ++ renderRelationship rel ++ "->"
       else "<-" ++ renderRelationship rel ++ "-")
        ++ renderNode next ++ renderHops next.id rest
termination_by structural hops => hops

end

/-- The text of a value without quotes around a string. -/
def plainText : Value → String
  | .string value => value
  | other => other.render

end Value

end CypherExpr
