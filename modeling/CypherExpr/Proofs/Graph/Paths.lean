import CypherExpr.Graph.Path

/-!
# Paths and their elements

A sequence of elements makes a path exactly when it is the alternating sequence of a connected
path, and that is the path it makes.
-/

namespace CypherExpr

variable {α : Type}

namespace PathElement

def node? : PathElement α → Option (Node α)
  | .node entity => some entity
  | .relationship _ => none

def relationship? : PathElement α → Option (Relationship α)
  | .node _ => none
  | .relationship entity => some entity

end PathElement

namespace Path

theorem nodes_eq_filterMap (path : Path α) :
    path.nodes = path.elements.filterMap PathElement.node? := by
  obtain ⟨start, hops⟩ := path
  simp only [nodes, elements, List.filterMap_cons, PathElement.node?, List.cons.injEq, true_and]
  induction hops with
  | nil => rfl
  | cons hop rest ih => simpa [hopElements, List.filterMap_cons, PathElement.node?] using ih

theorem relationships_eq_filterMap (path : Path α) :
    path.relationships = path.elements.filterMap PathElement.relationship? := by
  obtain ⟨start, hops⟩ := path
  simp only [relationships, elements, List.filterMap_cons, PathElement.relationship?]
  induction hops with
  | nil => rfl
  | cons hop rest ih => simpa [hopElements, List.filterMap_cons, PathElement.relationship?] using ih

theorem last_push (path : Path α) (hop : Relationship α × Node α) :
    Path.last ⟨path.start, path.hops ++ [hop]⟩ = hop.2 := by
  simp [last, lastOf]

theorem push_eq_ok_iff {path longer : Path α} {relationship : Relationship α} {node : Node α} :
    path.push relationship node = .ok longer ↔
      relationship.connects path.last.id node.id = true ∧
        longer = ⟨path.start, path.hops ++ [(relationship, node)]⟩ := by
  rw [push, eq_comm]
  split <;> simp_all

theorem last_append (path : Path α) (hops : List (Relationship α × Node α)) :
    Path.last ⟨path.start, path.hops ++ hops⟩ = lastOf path.last hops := by
  rw [last, lastOf, lastOf, List.getLast?_append]
  cases hops.getLast? <;> rfl

theorem lastOf_cons (start : Node α) (hop : Relationship α × Node α)
    (rest : List (Relationship α × Node α)) : lastOf start (hop :: rest) = lastOf hop.2 rest := by
  rw [lastOf, lastOf, List.getLast?_cons]
  cases rest.getLast? <;> rfl

theorem connectedFrom_append {start : Node α} {hops more : List (Relationship α × Node α)}
    (hhops : ConnectedFrom start.id hops) (hmore : ConnectedFrom (lastOf start hops).id more) :
    ConnectedFrom start.id (hops ++ more) := by
  induction hops generalizing start with
  | nil => exact hmore
  | cons hop rest ih =>
      rw [lastOf_cons] at hmore
      exact ⟨hhops.1, ih hhops.2 hmore⟩

theorem push_connected {path longer : Path α} {relationship : Relationship α} {node : Node α}
    (hconnected : path.Connected) (hpush : path.push relationship node = .ok longer) :
    longer.Connected := by
  obtain ⟨hconnects, rfl⟩ := push_eq_ok_iff.mp hpush
  exact connectedFrom_append hconnected ⟨hconnects, trivial⟩

/-- Hops that lead on from the last node are taken in before whatever follows them. -/
theorem extend_hopElements_append (path : Path α) (hops : List (Relationship α × Node α))
    (hhops : ConnectedFrom path.last.id hops) (rest : List (PathElement α)) :
    path.extend (hopElements hops ++ rest) =
      Path.extend ⟨path.start, path.hops ++ hops⟩ rest := by
  induction hops generalizing path with
  | nil => simp [hopElements]
  | cons hop others ih =>
      obtain ⟨hconnects, hothers⟩ := hhops
      have hpush := push_eq_ok_iff.mpr ⟨hconnects, rfl⟩
      have hextend := ih ⟨path.start, path.hops ++ [hop]⟩ (by rwa [last_push])
      simpa [hopElements, extend, hpush] using hextend

theorem extend_hopElements (path : Path α) (hops : List (Relationship α × Node α))
    (hhops : ConnectedFrom path.last.id hops) :
    path.extend (hopElements hops) = .ok ⟨path.start, path.hops ++ hops⟩ := by
  have hextend := path.extend_hopElements_append hops hhops []
  rw [List.append_nil] at hextend
  rw [hextend, extend]

/-- Elements that extend a path are those of hops that lead on from its last node. -/
theorem exists_hops_of_extend {path longer : Path α} {elements : List (PathElement α)}
    (hextend : path.extend elements = .ok longer) :
    ∃ hops, elements = hopElements hops ∧ ConnectedFrom path.last.id hops ∧
      longer = ⟨path.start, path.hops ++ hops⟩ := by
  fun_induction extend path elements with
  | case1 path =>
      cases hextend
      exact ⟨[], rfl, trivial, by simp⟩
  | case2 path node rest => cases hextend
  | case3 path relationship node rest next hpush ih =>
      obtain ⟨hconnects, rfl⟩ := push_eq_ok_iff.mp hpush
      obtain ⟨hops, rfl, hhops, rfl⟩ := ih hextend
      rw [last_push] at hhops
      exact ⟨(relationship, node) :: hops, rfl, ⟨hconnects, hhops⟩, by simp⟩
  | case4 path relationship node rest defect hpush => cases hextend
  | case5 path relationship rest hrest => cases hextend

/-- Elements make a path if they are the elements of a connected path, and they make that one. -/
theorem ofElements_eq_ok_iff {elements : List (PathElement α)} {path : Path α} :
    ofElements elements = .ok path ↔ path.Connected ∧ path.elements = elements := by
  constructor
  · intro hpath
    cases elements with
    | nil => cases hpath
    | cons first rest =>
        cases first with
        | relationship relationship => cases hpath
        | node start =>
            obtain ⟨hops, rfl, hhops, rfl⟩ := exists_hops_of_extend hpath
            exact ⟨hhops, rfl⟩
  · rintro ⟨hconnected, rfl⟩
    exact extend_hopElements (single path.start) path.hops hconnected

/-- A connected path is the path through its nodes and relationships. -/
theorem ofParts_nodes_relationships {path : Path α} (hconnected : path.Connected) :
    ofParts path.nodes path.relationships = .ok path := by
  obtain ⟨start, hops⟩ := path
  have hzip : (hops.map Prod.fst).zip (hops.map Prod.snd) = hops := by
    rw [List.zip_map', List.map_id']
  have hextend : (single start).extend (hopElements hops) = .ok ⟨start, hops⟩ :=
    extend_hopElements (single start) hops hconnected
  simp [ofParts, nodes, relationships, hzip, hextend]

end Path

end CypherExpr
