import CypherExpr.Proofs.Graph.Paths
import CypherExpr.Proofs.Value.Equality
import CypherExpr.Value.Access

/-!
# Well-formed values

Properties are lists of entries and paths lists of hops, which leaves room for values that no
program meets: with two entries under one key, or with a hop that joins nothing.  A value is
well-formed if nothing inside it is like that.  Taking a value apart gives well-formed values again,
and so does every way of putting one together: setting a key takes the place of the entry that it
had, and elements make a path only where it is connected.
-/

namespace CypherExpr

namespace Value

def HasConnectedPath : Value → Prop
  | .path walk => walk.Connected
  | _ => True

/-- All paths inside the value are connected. -/
def PathsConnected (value : Value) : Prop := value.Throughout HasConnectedPath

/-- No map and no entity inside the value has a key twice, and all paths inside it are connected. -/
structure WellFormed (value : Value) : Prop where
  uniqueKeys : value.UniqueKeys
  pathsConnected : value.PathsConnected

end Value

/-- No key stands twice, and what stands under the keys is well-formed. -/
structure Properties.WellFormed (properties : Properties Value) : Prop where
  nodup : properties.keys.Nodup
  values : ∀ entry ∈ properties, entry.2.WellFormed

/-! ## Property lists -/

namespace Properties.WellFormed

variable {properties : Properties Value}

theorem nil : WellFormed [] where
  nodup := List.nodup_nil
  values := nofun

theorem get? (hproperties : properties.WellFormed) (key : String) :
    ∀ value ∈ properties.get? key, value.WellFormed :=
  fun value hvalue => hproperties.values (key, value) (mem_of_get? hvalue)

theorem set (hproperties : properties.WellFormed) (key : String) {value : Value}
    (hvalue : value.WellFormed) : (properties.set key value).WellFormed where
  nodup := nodup_keys_set hproperties.nodup key value
  values := by
    intro entry hentry
    rcases eq_or_mem_of_mem_set hentry with rfl | hold
    · exact hvalue
    · exact hproperties.values entry hold

theorem setAll (hproperties : properties.WellFormed) {entries : List (String × Value)}
    (hentries : ∀ entry ∈ entries, entry.2.WellFormed) :
    (properties.setAll entries).WellFormed := by
  induction entries generalizing properties with
  | nil => exact hproperties
  | cons entry rest ih =>
      rw [List.forall_mem_cons] at hentries
      exact ih (hproperties.set entry.1 hentries.1) hentries.2

/-- Entries define well-formed properties, even if they repeat a key. -/
theorem ofEntries {entries : List (String × Value)}
    (hentries : ∀ entry ∈ entries, entry.2.WellFormed) :
    (Properties.ofEntries entries).WellFormed :=
  nil.setAll hentries

end Properties.WellFormed

/-- The element of a path as a value. -/
def PathElement.value : PathElement Value → Value
  | .node entity => .node entity
  | .relationship entity => .relationship entity

namespace Value

/-! ## Kinds of values -/

/-- What well-formedness asks of a value, and of the values and properties one level down. -/
theorem wellFormed_iff {value : Value} :
    value.WellFormed ↔ value.HasConnectedPath ∧ (∀ item ∈ value.items, item.WellFormed) ∧
      ∀ properties ∈ value.propertyLists, properties.WellFormed := by
  constructor
  · rintro ⟨hkeys, hpaths⟩
    obtain ⟨hunique, hpartKeys⟩ := throughout_iff.mp hkeys
    obtain ⟨hpath, hpartPaths⟩ := throughout_iff.mp hpaths
    have hpart : ∀ part ∈ value.parts, part.WellFormed :=
      fun part hmem => ⟨hpartKeys part hmem, hpartPaths part hmem⟩
    refine ⟨hpath, fun item hitem => hpart item (mem_parts_of_item hitem), ?_⟩
    intro properties hmem
    exact ⟨hunique properties hmem,
      fun entry hentry => hpart entry.2 (mem_parts_of_entry hmem hentry)⟩
  · rintro ⟨hpath, hitems, hproperties⟩
    have hpart : ∀ part ∈ value.parts, part.WellFormed := by
      simp only [parts, List.forall_mem_append, List.forall_mem_flatMap, List.forall_mem_map]
      exact ⟨hitems, fun properties hmem => (hproperties properties hmem).values⟩
    have hunique : ∀ properties ∈ value.propertyLists, properties.keys.Nodup :=
      fun properties hmem => (hproperties properties hmem).nodup
    exact ⟨throughout_iff.mpr ⟨hunique, fun part hmem => (hpart part hmem).uniqueKeys⟩,
      throughout_iff.mpr ⟨hpath, fun part hmem => (hpart part hmem).pathsConnected⟩⟩

/-- A value that holds nothing is well-formed. -/
theorem wellFormed_of_empty {value : Value} (hitems : value.items = [])
    (hproperties : value.propertyLists = []) : value.WellFormed := by
  have hpath : value.HasConnectedPath := by
    cases value with
    | path walk => cases hproperties
    | _ => trivial
  rw [wellFormed_iff, hitems, hproperties]
  exact ⟨hpath, nofun, nofun⟩

theorem wellFormed_null : null.WellFormed := wellFormed_of_empty rfl rfl

theorem wellFormed_list_iff {items : List Value} :
    (list items).WellFormed ↔ ∀ item ∈ items, item.WellFormed := by
  rw [wellFormed_iff]
  simp [HasConnectedPath, Value.items, propertyLists]

theorem wellFormed_map_iff {entries : Properties Value} :
    (map entries).WellFormed ↔ entries.WellFormed := by
  rw [wellFormed_iff]
  simp [HasConnectedPath, items, propertyLists]

theorem wellFormed_node_iff {entity : Node Value} :
    (node entity).WellFormed ↔ Properties.WellFormed entity.properties := by
  rw [wellFormed_iff]
  simp [HasConnectedPath, items, propertyLists]

theorem wellFormed_relationship_iff {entity : Relationship Value} :
    (relationship entity).WellFormed ↔ Properties.WellFormed entity.properties := by
  rw [wellFormed_iff]
  simp [HasConnectedPath, items, propertyLists]

theorem wellFormed_path_iff {walk : Path Value} :
    (path walk).WellFormed ↔
      walk.Connected ∧ ∀ element ∈ walk.elements, element.value.WellFormed := by
  rw [wellFormed_iff]
  simp only [HasConnectedPath, items, propertyLists, Path.elements, Path.hopElements,
    List.forall_mem_cons, List.forall_mem_flatMap, PathElement.value, wellFormed_node_iff,
    wellFormed_relationship_iff, List.not_mem_nil, false_implies, implies_true, true_and]

theorem wellFormed_path_iff_parts {walk : Path Value} :
    (path walk).WellFormed ↔ walk.Connected ∧ (∀ entity ∈ walk.nodes, (node entity).WellFormed) ∧
      ∀ entity ∈ walk.relationships, (relationship entity).WellFormed := by
  rw [wellFormed_path_iff, Path.nodes, Path.relationships]
  simp only [Path.elements, Path.hopElements, List.forall_mem_cons, List.forall_mem_flatMap,
    List.forall_mem_map, PathElement.value]
  grind

theorem wellFormed_list_map {α : Type} {wrap : α → Value}
    (hwrap : ∀ content, (wrap content).WellFormed) (contents : List α) :
    (list (contents.map wrap)).WellFormed :=
  wellFormed_list_iff.mpr (List.forall_mem_map.mpr fun content _ => hwrap content)

/-- A list of some of the items of a well-formed list is well-formed. -/
theorem wellFormed_list_of_subset {items kept : List Value} (hitems : (list items).WellFormed)
    (hkept : kept ⊆ items) : (list kept).WellFormed :=
  wellFormed_list_iff.mpr fun item hitem => wellFormed_list_iff.mp hitems item (hkept hitem)

theorem wellFormed_of_mem_map {α : Type} {wrap : α → Value} {content? : Option α}
    (hwrap : ∀ content ∈ content?, (wrap content).WellFormed) :
    ∀ value ∈ content?.map wrap, value.WellFormed := by
  intro value hvalue
  obtain ⟨content, hcontent, rfl⟩ := Option.map_eq_some_iff.mp hvalue
  exact hwrap content hcontent

theorem wellFormed_ofTruth (truth : Option Bool) : (ofTruth truth).WellFormed := by
  cases truth <;> exact wellFormed_of_empty rfl rfl

theorem wellFormed_ofOption {value? : Option Value} (hvalue : ∀ value ∈ value?, value.WellFormed) :
    (ofOption value?).WellFormed := by
  cases value? with
  | none => exact wellFormed_null
  | some value => exact hvalue value rfl

/-- The path through elements that are well-formed is. -/
theorem wellFormed_path_of_elements {elements : List (PathElement Value)} {walk : Path Value}
    (helements : ∀ element ∈ elements, element.value.WellFormed)
    (hwalk : Path.ofElements elements = .ok walk) : (path walk).WellFormed := by
  obtain ⟨hconnected, rfl⟩ := Path.ofElements_eq_ok_iff.mp hwalk
  exact wellFormed_path_iff.mpr ⟨hconnected, helements⟩

theorem wellFormed_single {entity : Node Value} (hentity : (node entity).WellFormed) :
    (path (.single entity)).WellFormed :=
  wellFormed_path_iff.mpr ⟨trivial, List.forall_mem_singleton.mpr hentity⟩

theorem wellFormed_push {walk longer : Path Value} {crossed : Relationship Value}
    {reached : Node Value} (hwalk : (path walk).WellFormed)
    (hcrossed : (relationship crossed).WellFormed) (hreached : (node reached).WellFormed)
    (hpush : walk.push crossed reached = .ok longer) : (path longer).WellFormed := by
  obtain ⟨hconnected, helements⟩ := wellFormed_path_iff.mp hwalk
  refine wellFormed_path_iff.mpr ⟨Path.push_connected hconnected hpush, ?_⟩
  obtain ⟨_, rfl⟩ := Path.push_eq_ok_iff.mp hpush
  have hlonger : Path.elements ⟨walk.start, walk.hops ++ [(crossed, reached)]⟩ =
      walk.elements ++ [.relationship crossed, .node reached] := by
    simp [Path.elements, Path.hopElements]
  rw [hlonger, List.forall_mem_append, List.forall_mem_cons, List.forall_mem_singleton]
  exact ⟨helements, hcrossed, hreached⟩

namespace WellFormed

variable {value : Value}

/-! ## Parts -/

theorem properties? (hvalue : value.WellFormed) :
    ∀ properties ∈ value.properties?, properties.WellFormed := by
  cases value with
  | map entries =>
      rintro _ ⟨⟩
      exact wellFormed_map_iff.mp hvalue
  | node entity =>
      rintro _ ⟨⟩
      exact wellFormed_node_iff.mp hvalue
  | relationship entity =>
      rintro _ ⟨⟩
      exact wellFormed_relationship_iff.mp hvalue
  | _ => nofun

theorem component? (hvalue : value.WellFormed) (key : String) :
    ∀ part ∈ value.component? key, part.WellFormed := by
  have hcomponent {component? : Option Int} :
      ∀ part ∈ component?.map ofComponent, part.WellFormed :=
    wellFormed_of_mem_map fun _ _ => wellFormed_of_empty rfl rfl
  cases value with
  | map entries => exact (wellFormed_map_iff.mp hvalue).get? key
  | node entity => exact (wellFormed_node_iff.mp hvalue).get? key
  | relationship entity => exact (wellFormed_relationship_iff.mp hvalue).get? key
  | date | time | localDateTime | duration => exact hcomponent
  | dateTime point =>
      unfold Value.component?
      simp only
      split
      case h_5 => exact hcomponent
      all_goals
        rintro _ ⟨⟩
        exact wellFormed_of_empty rfl rfl
  | _ => nofun

variable {walk : Path Value}

theorem elements (hwalk : (path walk).WellFormed) :
    ∀ element ∈ walk.elements, element.value.WellFormed :=
  (wellFormed_path_iff.mp hwalk).2

theorem nodes (hwalk : (path walk).WellFormed) :
    ∀ entity ∈ walk.nodes, (node entity).WellFormed :=
  (wellFormed_path_iff_parts.mp hwalk).2.1

theorem relationships (hwalk : (path walk).WellFormed) :
    ∀ entity ∈ walk.relationships, (relationship entity).WellFormed :=
  (wellFormed_path_iff_parts.mp hwalk).2.2

end WellFormed

end Value

end CypherExpr
