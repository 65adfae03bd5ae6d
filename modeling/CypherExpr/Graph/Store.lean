import CypherExpr.Expr.Basic
import CypherExpr.Graph.Path
import CypherExpr.Value.Equality

/-!
# Graphs and the paths in them

Patterns are answered by a source of paths, of which evaluation knows nothing else.  A graph is a
list of nodes and a list of relationships, in the order in which they were added; as a source it
answers requests for the one-hop paths between nodes that match filters. -/

namespace CypherExpr

/-- Whether properties meet the required ones.  A required null is never met. -/
def propertiesMeet (required actual : Properties Value) : Bool :=
  required.all fun (key, expected) =>
    !expected.isNull && (actual.get? key).any fun value => value.equals expected

/-- Labels and properties that a node must have. -/
structure NodeFilter where
  labels : List String
  properties : Properties Value

def NodeFilter.matches (filter : NodeFilter) (node : Node Value) : Bool :=
  filter.labels.all node.hasLabel && propertiesMeet filter.properties node.properties

/-- Kinds of which a relationship must have one, any if there are none, and properties it must
have. -/
structure RelationshipFilter where
  kinds : List String
  properties : Properties Value

def RelationshipFilter.matches (filter : RelationshipFilter) (relationship : Relationship Value) :
    Bool :=
  (filter.kinds.isEmpty || filter.kinds.contains relationship.kind)
    && propertiesMeet filter.properties relationship.properties

/-- What answers a request for the paths from a node that matches the first filter to one that
matches the last, over between the given numbers of relationships that match the middle one.  A
request may fail with a text that says why.  The source is assumed to keep no state: its answer
depends on the request alone, and no request changes what a later one is answered. -/
structure PathSource where
  paths : NodeFilter → RelationshipFilter → NodeFilter → Direction → (least most : Nat) →
    Except String (List (Path Value))

inductive GraphError where
  /-- The request is outside what the graph can answer -/
  | unsupported (least most : Nat)
  /-- A relationship ends at a node that the graph does not have -/
  | missingNode (relationship : Int64)
  | disconnected (defect : PathDefect)
  deriving DecidableEq

def GraphError.message : GraphError → String
  | .unsupported least most =>
      "unsupported graph request: " ++ toString least ++ ".." ++ toString most ++ " hops"
  | .missingNode relationship =>
      "graph backend failure: relationship " ++ toString relationship ++ " refers to a missing node"
  | .disconnected defect => "graph backend failure: invalid path: " ++ defect.message

structure Graph where
  nodes : List (Node Value)
  relationships : List (Relationship Value)

namespace Graph

def empty : Graph := ⟨[], []⟩

def addNode (graph : Graph) (node : Node Value) : Graph :=
  { graph with nodes := graph.nodes ++ [node] }

def addRelationship (graph : Graph) (relationship : Relationship Value) : Graph :=
  { graph with relationships := graph.relationships ++ [relationship] }

/-- The first node with an id. -/
def node? (graph : Graph) (id : Int64) : Option (Node Value) :=
  graph.nodes.find? fun node => node.id == id

/-- The path over a relationship from one of its ends to the other, if the nodes there match. -/
def hop (graph : Graph) (start finish : NodeFilter) (relationship : Relationship Value)
    (ends : Int64 × Int64) : Except GraphError (Option (Path Value)) :=
  match graph.node? ends.1, graph.node? ends.2 with
  | some first, some last =>
      if start.matches first && finish.matches last then
        match (Path.single first).push relationship last with
        | .ok path => .ok (some path)
        | .error defect => .error (.disconnected defect)
      else .ok none
  | _, _ => .error (.missingNode relationship.id)

/-- The ways in which a direction crosses a relationship.  A loop is crossed once. -/
def orientations (direction : Direction) (relationship : Relationship Value) :
    List (Int64 × Int64) :=
  let forward := (relationship.source, relationship.target)
  let backward := (relationship.target, relationship.source)
  match direction with
  | .outgoing => [forward]
  | .incoming => [backward]
  | .both => if relationship.source = relationship.target then [forward] else [forward, backward]

/-- The relationships that match a filter, each with every way of crossing it. -/
def crossings (graph : Graph) (filter : RelationshipFilter) (direction : Direction) :
    List (Relationship Value × Int64 × Int64) :=
  (graph.relationships.filter filter.matches).flatMap fun relationship =>
    (orientations direction relationship).map fun ends => (relationship, ends)

/-- The paths over the crossings, in order. -/
def pathsOver (graph : Graph) (start finish : NodeFilter) :
    List (Relationship Value × Int64 × Int64) → Except GraphError (List (Path Value))
  | [] => .ok []
  | (relationship, ends) :: rest =>
      match graph.hop start finish relationship ends with
      | .error error => .error error
      | .ok found =>
          match graph.pathsOver start finish rest with
          | .error error => .error error
          | .ok paths => .ok (found.toList ++ paths)

/-- All paths from a node that matches `start` to one that matches `finish` over between `least` and
`most` relationships.  Only one hop is supported. -/
def paths (graph : Graph) (start : NodeFilter) (filter : RelationshipFilter) (finish : NodeFilter)
    (direction : Direction) (least most : Nat) : Except GraphError (List (Path Value)) :=
  if least ≠ 1 ∨ most ≠ 1 then .error (.unsupported least most)
  else graph.pathsOver start finish (graph.crossings filter direction)

def toPathSource (graph : Graph) : PathSource :=
  ⟨fun start filter finish direction least most =>
    (graph.paths start filter finish direction least most).mapError GraphError.message⟩

end Graph

end CypherExpr
