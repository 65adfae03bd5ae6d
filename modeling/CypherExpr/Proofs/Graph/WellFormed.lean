import CypherExpr.Graph.Store
import CypherExpr.Proofs.Evaluation.Outcomes
import CypherExpr.Proofs.Value.WellFormed

/-!
# Graphs answer with well-formed paths

A path that a graph finds is pushed together from a node, a relationship and a node that it holds.
So where these are well-formed the answers are, and a graph is made of well-formed entities if only
such are added to it.
-/

namespace CypherExpr

/-- All paths that the source answers with are well-formed. -/
def PathSource.GivesWellFormed (source : PathSource) : Prop :=
  ∀ start filter finish direction least most,
    Ensures (source.paths start filter finish direction least most)
      fun found => ∀ walk ∈ found, (Value.path walk).WellFormed

namespace Graph

/-- All nodes and relationships of the graph are well-formed. -/
structure WellFormed (graph : Graph) : Prop where
  nodes : ∀ entity ∈ graph.nodes, (Value.node entity).WellFormed
  relationships : ∀ entity ∈ graph.relationships, (Value.relationship entity).WellFormed

namespace WellFormed

variable {graph : Graph}

theorem empty : Graph.empty.WellFormed := ⟨nofun, nofun⟩

theorem addNode (hgraph : graph.WellFormed) {entity : Node Value}
    (hentity : (Value.node entity).WellFormed) : (graph.addNode entity).WellFormed where
  nodes := List.forall_mem_append.mpr ⟨hgraph.nodes, List.forall_mem_singleton.mpr hentity⟩
  relationships := hgraph.relationships

theorem addRelationship (hgraph : graph.WellFormed) {entity : Relationship Value}
    (hentity : (Value.relationship entity).WellFormed) :
    (graph.addRelationship entity).WellFormed where
  nodes := hgraph.nodes
  relationships :=
    List.forall_mem_append.mpr ⟨hgraph.relationships, List.forall_mem_singleton.mpr hentity⟩

theorem node? (hgraph : graph.WellFormed) {id : Int64} {entity : Node Value}
    (hentity : graph.node? id = some entity) : (Value.node entity).WellFormed :=
  hgraph.nodes entity (List.mem_of_find?_eq_some hentity)

theorem hop (hgraph : graph.WellFormed) (start finish : NodeFilter)
    {crossed : Relationship Value} (hcrossed : (Value.relationship crossed).WellFormed)
    (ends : Int64 × Int64) :
    Ensures (graph.hop start finish crossed ends)
      fun found => ∀ walk ∈ found, (Value.path walk).WellFormed := by
  unfold Graph.hop
  split
  · next first last hfirst hlast =>
    split
    · split
      · next walk hpush =>
        refine .ok fun found hfound => ?_
        cases hfound
        exact Value.wellFormed_push (Value.wellFormed_single (hgraph.node? hfirst)) hcrossed
          (hgraph.node? hlast) hpush
      · exact .error _
    · exact .ok nofun
  · exact .error _

theorem pathsOver (hgraph : graph.WellFormed) (start finish : NodeFilter)
    {crossings : List (Relationship Value × Int64 × Int64)}
    (hcrossings : ∀ crossing ∈ crossings, (Value.relationship crossing.1).WellFormed) :
    Ensures (graph.pathsOver start finish crossings)
      fun found => ∀ walk ∈ found, (Value.path walk).WellFormed := by
  induction crossings with
  | nil => exact .ok nofun
  | cons crossing rest ih =>
      obtain ⟨crossed, ends⟩ := crossing
      rw [List.forall_mem_cons] at hcrossings
      unfold Graph.pathsOver
      split
      · exact .error _
      · next found hfound =>
        split
        · exact .error _
        · next others hothers =>
          have hhop := hgraph.hop start finish hcrossings.1 ends found hfound
          refine .ok (List.forall_mem_append.mpr ⟨?_, ih hcrossings.2 others hothers⟩)
          exact fun walk hwalk => hhop walk (Option.mem_toList.mp hwalk)

theorem toPathSource (hgraph : graph.WellFormed) : graph.toPathSource.GivesWellFormed := by
  intro start filter finish direction least most
  apply Ensures.mapError
  unfold Graph.paths
  split
  · exact .error _
  · apply hgraph.pathsOver
    intro crossing hcrossing
    obtain ⟨crossed, hmem, hends⟩ := List.mem_flatMap.mp hcrossing
    obtain ⟨ends, _, rfl⟩ := List.mem_map.mp hends
    exact hgraph.relationships crossed (List.mem_filter.mp hmem).1

end WellFormed

end Graph

end CypherExpr
