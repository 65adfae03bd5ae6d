import CypherExpr.Value.Basic

/-!
# Parts of values

The values that a value holds one level down: the elements of a list and the property values of
maps, nodes, relationships and paths.  Whatever is said about all depths of a value is said through
these lists, and a law of values is proved by induction on their parts.
-/

namespace CypherExpr.Value

/-- The property lists that a value holds: the entries of a map or the properties of entities. -/
def propertyLists : Value → List (Properties Value)
  | .map entries => [entries]
  | .node entity => [entity.properties]
  | .relationship entity => [entity.properties]
  | .path walk =>
      walk.start.properties :: walk.hops.flatMap fun hop => [hop.1.properties, hop.2.properties]
  | _ => []

def items : Value → List Value
  | .list items => items
  | _ => []

def parts (value : Value) : List Value :=
  value.items ++ value.propertyLists.flatMap fun properties => properties.map Prod.snd

theorem mem_parts_of_item {value item : Value} (hitem : item ∈ value.items) :
    item ∈ value.parts :=
  List.mem_append_left _ hitem

theorem mem_parts_of_entry {value : Value} {properties : Properties Value}
    {entry : String × Value} (hproperties : properties ∈ value.propertyLists)
    (hentry : entry ∈ properties) : entry.2 ∈ value.parts :=
  List.mem_append_right _
    (List.mem_flatMap.mpr ⟨properties, hproperties, List.mem_map_of_mem hentry⟩)

theorem mem_propertyLists_of_hop {walk : Path Value} {hop : Relationship Value × Node Value}
    (hhop : hop ∈ walk.hops) :
    hop.1.properties ∈ (Value.path walk).propertyLists ∧
      hop.2.properties ∈ (Value.path walk).propertyLists := by
  have hmem : ∀ properties ∈ [hop.1.properties, hop.2.properties],
      properties ∈ (Value.path walk).propertyLists :=
    fun properties hof =>
      List.mem_cons_of_mem _ (List.mem_flatMap.mpr ⟨hop, hhop, hof⟩)
  exact ⟨hmem _ (by simp), hmem _ (by simp)⟩

theorem sizeOf_properties_lt_node (entity : Node Value) :
    sizeOf entity.properties < sizeOf entity := by
  cases entity
  simp only [Node.mk.sizeOf_spec]
  omega

theorem sizeOf_properties_lt_relationship (entity : Relationship Value) :
    sizeOf entity.properties < sizeOf entity := by
  cases entity
  simp only [Relationship.mk.sizeOf_spec]
  omega

theorem sizeOf_propertyList_lt {value : Value} {properties : Properties Value}
    (hproperties : properties ∈ value.propertyLists) : sizeOf properties < sizeOf value := by
  cases value with
  | map entries =>
      obtain rfl := List.mem_singleton.mp hproperties
      rw [map.sizeOf_spec]
      omega
  | node entity =>
      obtain rfl := List.mem_singleton.mp hproperties
      have hlt := sizeOf_properties_lt_node entity
      rw [node.sizeOf_spec]
      omega
  | relationship entity =>
      obtain rfl := List.mem_singleton.mp hproperties
      have hlt := sizeOf_properties_lt_relationship entity
      rw [relationship.sizeOf_spec]
      omega
  | path walk =>
      obtain ⟨start, hops⟩ := walk
      rw [path.sizeOf_spec, Path.mk.sizeOf_spec]
      rcases List.mem_cons.mp hproperties with rfl | hhops
      · have hlt := sizeOf_properties_lt_node start
        simp only
        omega
      · obtain ⟨⟨crossed, reached⟩, hhop, hof⟩ := List.mem_flatMap.mp hhops
        have hmem := List.sizeOf_lt_of_mem (show (crossed, reached) ∈ hops from hhop)
        have hcrossed := sizeOf_properties_lt_relationship crossed
        have hreached := sizeOf_properties_lt_node reached
        rw [Prod.mk.sizeOf_spec] at hmem
        simp only [List.mem_cons, List.not_mem_nil, or_false] at hof
        rcases hof with rfl | rfl <;> omega
  | _ => cases hproperties

theorem sizeOf_lt_of_mem_parts {value part : Value} (hpart : part ∈ value.parts) :
    sizeOf part < sizeOf value := by
  rcases List.mem_append.mp hpart with hitem | hproperty
  · cases value with
    | list items =>
        have hlt := List.sizeOf_lt_of_mem (show part ∈ items from hitem)
        rw [list.sizeOf_spec]
        omega
    | _ => cases hitem
  · obtain ⟨properties, hproperties, hpart⟩ := List.mem_flatMap.mp hproperty
    obtain ⟨⟨key, held⟩, hentry, rfl⟩ := List.mem_map.mp hpart
    have hentries := sizeOf_propertyList_lt hproperties
    have hlt := List.sizeOf_lt_of_mem hentry
    rw [Prod.mk.sizeOf_spec] at hlt
    change sizeOf held < sizeOf value
    omega

/-- A law of values holds if it holds of every value whose parts obey it. -/
@[elab_as_elim]
theorem inductionOnParts {motive : Value → Prop} (value : Value)
    (step : ∀ value, (∀ part ∈ value.parts, motive part) → motive value) : motive value :=
  step value fun part _ => inductionOnParts part step
termination_by sizeOf value
decreasing_by exact sizeOf_lt_of_mem_parts ‹_›

/-- The second value is the first or stands somewhere inside it. -/
inductive Contains : Value → Value → Prop
  | self (value : Value) : Contains value value
  | inside {value between inner : Value} (hbetween : between ∈ value.parts)
      (hinner : Contains between inner) : Contains value inner

/-- What holds of a value and of everything inside it. -/
def Throughout (P : Value → Prop) (value : Value) : Prop :=
  ∀ inner, value.Contains inner → P inner

theorem throughout_iff {P : Value → Prop} {value : Value} :
    value.Throughout P ↔ P value ∧ ∀ part ∈ value.parts, part.Throughout P := by
  constructor
  · intro hvalue
    exact ⟨hvalue value (.self value),
      fun part hpart inner hinner => hvalue inner (.inside hpart hinner)⟩
  · rintro ⟨hvalue, hparts⟩ inner hinner
    cases hinner with
    | self => exact hvalue
    | inside hbetween hinner => exact hparts _ hbetween inner hinner

theorem throughout_of_parts_eq_nil {P : Value → Prop} {value : Value}
    (hparts : value.parts = []) (hvalue : P value) : value.Throughout P :=
  throughout_iff.mpr ⟨hvalue, by simp [hparts]⟩

theorem throughout_list_iff {P : Value → Prop} {items : List Value} :
    (Value.list items).Throughout P ↔
      P (.list items) ∧ ∀ item ∈ items, item.Throughout P := by
  have hparts : (Value.list items).parts = items := by
    simp [parts, Value.items, propertyLists]
  rw [throughout_iff, hparts]

theorem throughout_map_iff {P : Value → Prop} {entries : Properties Value} :
    (Value.map entries).Throughout P ↔
      P (.map entries) ∧ ∀ entry ∈ entries, entry.2.Throughout P := by
  have hparts : (Value.map entries).parts = entries.map Prod.snd := by
    simp [parts, items, propertyLists]
  rw [throughout_iff, hparts, List.forall_mem_map]

end CypherExpr.Value
