import CypherExpr.Value.Properties

/-!
# Graph entities

Nodes and relationships, with properties of any type of value.
-/

namespace CypherExpr

structure Node (α : Type) where
  id : Int64
  labels : List String
  properties : List (String × α)

def Node.hasLabel {α : Type} (node : Node α) (label : String) : Bool := node.labels.contains label

/-- A directed relationship from the node `source` to the node `target`. -/
structure Relationship (α : Type) where
  id : Int64
  kind : String
  source : Int64
  target : Int64
  properties : List (String × α)

namespace Relationship

variable {α : Type}

/-- Whether the relationship joins two nodes, in either direction. -/
def connects (relationship : Relationship α) (left right : Int64) : Bool :=
  (relationship.source == left && relationship.target == right)
    || (relationship.source == right && relationship.target == left)

/-- The end opposite to a node, if the node is an end at all. -/
def otherEnd (relationship : Relationship α) (id : Int64) : Option Int64 :=
  if relationship.source = id then some relationship.target
  else if relationship.target = id then some relationship.source
  else none

end Relationship

end CypherExpr
