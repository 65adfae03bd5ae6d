import CypherExpr.Proofs.Graph.Paths
import CypherExpr.Proofs.Json.TaggedForm

/-!
# Sequences that make a path

The elements of a path alternate between nodes and relationships, begin and end with a node, and
each relationship connects its two neighbours.  Every sequence of this shape makes a path, and so do
lists of nodes and of relationships exactly when their interleaving has it.
-/

namespace CypherExpr

namespace Path

variable {α : Type}

/-- A node, or a node in front of a relationship that connects it to the next node. -/
inductive Alternating : List (PathElement α) → Prop
  | single (node : Node α) : Alternating [.node node]
  | hop {node next : Node α} {relationship : Relationship α} {rest : List (PathElement α)}
      (hconnects : relationship.connects node.id next.id = true)
      (hrest : Alternating (.node next :: rest)) :
      Alternating (.node node :: .relationship relationship :: .node next :: rest)

theorem alternating_elements {path : Path α} (hconnected : path.Connected) :
    Alternating path.elements := by
  obtain ⟨start, hops⟩ := path
  simp only [Connected] at hconnected
  induction hops generalizing start with
  | nil => exact .single start
  | cons hop rest ih => exact .hop hconnected.1 (ih hop.2 hconnected.2)

theorem Alternating.exists_connected {elements : List (PathElement α)}
    (halternating : Alternating elements) :
    ∃ path : Path α, path.Connected ∧ path.elements = elements := by
  induction halternating with
  | single node => exact ⟨Path.single node, trivial, rfl⟩
  | @hop node next relationship rest hconnects hrest ih =>
      obtain ⟨⟨start, hops⟩, hconnected, helements⟩ := ih
      injection helements with hstart hhops
      injection hstart with hstart
      subst hstart hhops
      exact ⟨⟨node, (relationship, start) :: hops⟩, ⟨hconnects, hconnected⟩, rfl⟩

theorem exists_ofElements_iff {elements : List (PathElement α)} :
    (∃ path, ofElements elements = .ok path) ↔ Alternating elements := by
  simp only [ofElements_eq_ok_iff]
  constructor
  · rintro ⟨path, hconnected, rfl⟩
    exact alternating_elements hconnected
  · exact Alternating.exists_connected

/-! ## Nodes and relationships apart -/

/-- Takes nodes and relationships in turns, a node first, until one side has run out. -/
def interleave : List (Node α) → List (Relationship α) → List (PathElement α)
  | [], relationships => relationships.map .relationship
  | nodes, [] => nodes.map .node
  | node :: nodes, relationship :: relationships =>
      .node node :: .relationship relationship :: interleave nodes relationships

theorem filterMap_node_interleave (nodes : List (Node α)) (relationships : List (Relationship α)) :
    (interleave nodes relationships).filterMap PathElement.node? = nodes := by
  fun_induction interleave nodes relationships with
  | case1 relationships => simp [List.filterMap_map, Function.comp_def, PathElement.node?]
  | case2 nodes hnodes => simp [List.filterMap_map, Function.comp_def, PathElement.node?]
  | case3 node nodes relationship relationships ih =>
      simpa [List.filterMap_cons, PathElement.node?] using ih

theorem filterMap_relationship_interleave (nodes : List (Node α))
    (relationships : List (Relationship α)) :
    (interleave nodes relationships).filterMap PathElement.relationship? = relationships := by
  fun_induction interleave nodes relationships with
  | case1 relationships => simp [List.filterMap_map, Function.comp_def, PathElement.relationship?]
  | case2 nodes hnodes => simp [List.filterMap_map, Function.comp_def, PathElement.relationship?]
  | case3 node nodes relationship relationships ih =>
      simpa [List.filterMap_cons, PathElement.relationship?] using ih

theorem interleave_nodes_relationships (path : Path α) :
    interleave path.nodes path.relationships = path.elements := by
  obtain ⟨start, hops⟩ := path
  simp only [nodes, relationships, elements]
  induction hops generalizing start with
  | nil => rfl
  | cons hop rest ih => simp [interleave, hopElements, ih hop.2]

theorem elements_eq_interleave_iff {path : Path α} {nodes : List (Node α)}
    {relationships : List (Relationship α)} :
    path.elements = interleave nodes relationships ↔
      path.nodes = nodes ∧ path.relationships = relationships := by
  constructor
  · intro helements
    rw [nodes_eq_filterMap, relationships_eq_filterMap, helements]
    exact ⟨filterMap_node_interleave _ _, filterMap_relationship_interleave _ _⟩
  · rintro ⟨rfl, rfl⟩
    exact (interleave_nodes_relationships path).symm

/-- A path through nodes and relationships passes all of them, in their order. -/
theorem ofParts_eq_ok_iff {nodes : List (Node α)} {relationships : List (Relationship α)}
    {path : Path α} :
    ofParts nodes relationships = .ok path ↔
      path.Connected ∧ path.nodes = nodes ∧ path.relationships = relationships := by
  constructor
  · intro hparts
    simp only [ofParts, ne_eq, ite_not] at hparts
    split at hparts
    next hcount =>
      cases nodes with
      | nil => cases hparts
      | cons start rest =>
          have hlength : relationships.length = rest.length := by simpa using hcount.symm
          -- the relationships are as many as the nodes behind the first, so pairing drops none
          have hpath : ofElements (elements ⟨start, relationships.zip rest⟩) = .ok path := hparts
          obtain ⟨hconnected, helements⟩ := ofElements_eq_ok_iff.mp hpath
          refine ⟨hconnected, ?_, ?_⟩
          · rw [nodes_eq_filterMap, helements, ← nodes_eq_filterMap, Path.nodes,
              List.map_snd_zip hlength.ge]
          · rw [relationships_eq_filterMap, helements, ← relationships_eq_filterMap,
              Path.relationships, List.map_fst_zip hlength.le]
    next hcount => cases hparts
  · rintro ⟨hconnected, rfl, rfl⟩
    exact ofParts_nodes_relationships hconnected

theorem ofParts_eq_ok_iff_interleave {nodes : List (Node α)} {relationships : List (Relationship α)}
    {path : Path α} :
    ofParts nodes relationships = .ok path ↔
      ofElements (interleave nodes relationships) = .ok path := by
  rw [ofParts_eq_ok_iff, ofElements_eq_ok_iff, elements_eq_interleave_iff]

end Path

namespace Tagged

/-! ## Documents of paths -/

/-- The nodes and the relationships that the document of a path holds. -/
def parts? (document : Json) : Option (List (Node Value) × List (Relationship Value)) := do
  let nodes ← (read (← document.member? "nodes")).nodes
  let relationships ← (read (← document.member? "relationships")).relationships
  return (nodes, relationships)

theorem decodePath?_eq (document : Json) :
    decodePath? document = (parts? document).map fun parts => Path.ofParts parts.1 parts.2 := by
  cases document with
  | object members =>
      change decodePath (readMembers members) = _
      simp only [decodePath, Members.reading?, lookup_readMembers, parts?, Json.member?]
      cases hnodes : members.lookup "nodes" with
      | none => rfl
      | some nodes =>
          cases hrelationships : members.lookup "relationships" with
          | none => simp
          | some relationships =>
              simp only [Option.map_some, Option.bind_eq_bind, Option.bind_some]
              cases (read nodes).nodes with
              | none => rfl
              | some _ => cases (read relationships).relationships <;> rfl
  | _ => rfl

theorem decodePath?_eq_ok_iff {document : Json} {path : Path Value} :
    decodePath? document = some (.ok path) ↔
      ∃ nodes relationships, parts? document = some (nodes, relationships) ∧
        Path.ofElements (Path.interleave nodes relationships) = .ok path := by
  rw [decodePath?_eq, Option.map_eq_some_iff, Prod.exists]
  simp only [Path.ofParts_eq_ok_iff_interleave]

end Tagged

end CypherExpr
