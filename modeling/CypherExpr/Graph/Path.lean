import CypherExpr.Graph.Entity

/-!
# Paths

A path is a node followed by hops, each a relationship with the node it leads to, so it always has
one node more than relationships.  In a connected path every relationship joins its two neighbours.
Only connected paths are built from elements, and their elements give them back.
-/

namespace CypherExpr

structure Path (α : Type) where
  start : Node α
  hops : List (Relationship α × Node α)

/-- One place of the alternating sequence of a path. -/
inductive PathElement (α : Type) where
  | node (node : Node α)
  | relationship (relationship : Relationship α)

/-- Why a sequence of elements is not a path. -/
inductive PathDefect where
  | noStart
  | startsWithRelationship
  | twoNodesInARow
  | endsWithRelationship
  | disconnected (relationship left right : Int64)
  | wrongCounts (nodes relationships : Nat)
  deriving DecidableEq

def PathDefect.message : PathDefect → String
  | .noStart => "path must contain a node"
  | .startsWithRelationship => "path must start with a node"
  | .twoNodesInARow => "expected a relationship between two nodes"
  | .endsWithRelationship => "path must end with a node"
  | .disconnected relationship left right =>
      "relationship " ++ toString relationship ++ " does not connect nodes " ++ toString left
        ++ " and " ++ toString right
  | .wrongCounts nodes relationships =>
      toString nodes ++ " nodes cannot be joined by " ++ toString relationships ++ " relationships"

namespace Path

variable {α : Type}

def single (node : Node α) : Path α := ⟨node, []⟩

def length (path : Path α) : Nat := path.hops.length

def nodes (path : Path α) : List (Node α) := path.start :: path.hops.map Prod.snd

def relationships (path : Path α) : List (Relationship α) := path.hops.map Prod.fst

/-- The node at which a walk of hops ends when it begins at `start`. -/
def lastOf (start : Node α) (hops : List (Relationship α × Node α)) : Node α :=
  (hops.getLast?.map Prod.snd).getD start

def last (path : Path α) : Node α := lastOf path.start path.hops

/-- The hops that follow a node are connected, each to the one before. -/
def ConnectedFrom : Int64 → List (Relationship α × Node α) → Prop
  | _, [] => True
  | id, (relationship, node) :: rest =>
      relationship.connects id node.id = true ∧ ConnectedFrom node.id rest

def Connected (path : Path α) : Prop := ConnectedFrom path.start.id path.hops

/-- Extends a path by one hop that leads on from its last node. -/
def push (path : Path α) (relationship : Relationship α) (node : Node α) :
    Except PathDefect (Path α) :=
  let last := path.last.id
  if relationship.connects last node.id then
    .ok ⟨path.start, path.hops ++ [(relationship, node)]⟩
  else .error (.disconnected relationship.id last node.id)

/-- Pushes the hops that a sequence of elements holds. -/
def extend (path : Path α) : List (PathElement α) → Except PathDefect (Path α)
  | [] => .ok path
  | .node _ :: _ => .error .twoNodesInARow
  | .relationship relationship :: .node node :: rest =>
      match path.push relationship node with
      | .ok longer => longer.extend rest
      | .error defect => .error defect
  | .relationship _ :: _ => .error .endsWithRelationship

/-- The path through a sequence of elements. -/
def ofElements : List (PathElement α) → Except PathDefect (Path α)
  | [] => .error .noStart
  | .relationship _ :: _ => .error .startsWithRelationship
  | .node node :: rest => (single node).extend rest

def hopElements (hops : List (Relationship α × Node α)) : List (PathElement α) :=
  hops.flatMap fun hop => [.relationship hop.1, .node hop.2]

/-- The alternating sequence of a path. -/
def elements (path : Path α) : List (PathElement α) :=
  .node path.start :: hopElements path.hops

/-- The path through nodes joined by relationships, which must be one fewer. -/
def ofParts (nodes : List (Node α)) (relationships : List (Relationship α)) :
    Except PathDefect (Path α) :=
  if nodes.length ≠ relationships.length + 1 then
    .error (.wrongCounts nodes.length relationships.length)
  else
    match nodes with
    | [] => .error .noStart
    | start :: rest => (single start).extend (hopElements (relationships.zip rest))

end Path

end CypherExpr
