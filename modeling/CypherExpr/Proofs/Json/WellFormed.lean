import CypherExpr.Json.Reader
import CypherExpr.Proofs.Evaluation.WellFormed
import CypherExpr.Proofs.Graph.Alternation
import CypherExpr.Proofs.Json.PlainForm

/-!
# Documents give well-formed values

Objects that are read from text have their members in order, each key once.  Documents all of whose
objects are like that stand for well-formed values, in plain and in tagged form: entries come from
the members of one object, and paths are read only where they are connected.  So values that were
read, and values that were computed from such, are written and read back as they were, whatever
their keys.
-/

namespace CypherExpr

open Value (wellFormed_null wellFormed_of_empty wellFormed_of_mem_map wellFormed_list_iff
  wellFormed_map_iff wellFormed_node_iff wellFormed_relationship_iff wellFormed_path_iff_parts)

namespace Json

/-- The members of every object of the document are in increasing order of their keys. -/
inductive WellFormed : Json → Prop
  | null : WellFormed .null
  | boolean (value : Bool) : WellFormed (.boolean value)
  | integer (value : Int) : WellFormed (.integer value)
  | float (value : Float) : WellFormed (.float value)
  | string (value : String) : WellFormed (.string value)
  | array {items : List Json} (hitems : ∀ item ∈ items, WellFormed item) :
      WellFormed (.array items)
  | object {members : List (String × Json)} (hincreasing : Increasing members)
      (hvalues : ∀ member ∈ members, WellFormed member.2) : WellFormed (.object members)

theorem wellFormed_ofMembers {members : List (String × Json)}
    (hvalues : ∀ member ∈ members, member.2.WellFormed) : (ofMembers members).WellFormed :=
  .object (increasing_sortedMembers members) fun member hmember =>
    hvalues member (mem_of_mem_sortedMembers hmember)

/-! ## Texts -/

namespace Reader

theorem numberOf_wellFormed (numeral : List Char) :
    ∀ number ∈ numberOf numeral, number.WellFormed := by
  intro number hnumber
  unfold numberOf at hnumber
  simp only at hnumber
  split at hnumber
  · cases hnumber
  · split at hnumber
    · cases hnumber
      exact .integer _
    · obtain ⟨value, _, rfl⟩ := Option.map_eq_some_iff.mp hnumber
      exact .float value

variable {fuel : Nat}

theorem splitDocument_wellFormed
    (hitems : ∀ chars, ∀ found ∈ splitItems fuel chars, ∀ item ∈ found.1, item.WellFormed)
    (hmembers : ∀ chars, ∀ found ∈ splitMembers fuel chars, ∀ member ∈ found.1,
      member.2.WellFormed)
    (chars : List Char) : ∀ found ∈ splitDocument (fuel + 1) chars, found.1.WellFormed := by
  intro found hfound
  unfold splitDocument at hfound
  split at hfound
  · obtain ⟨⟨text, more⟩, _, rfl⟩ := Option.map_eq_some_iff.mp hfound
    exact .string text
  · split at hfound
    · cases hfound
      exact .array nofun
    · obtain ⟨⟨items, more⟩, hsplit, rfl⟩ := Option.map_eq_some_iff.mp hfound
      exact .array (hitems _ _ hsplit)
  · split at hfound
    · cases hfound
      exact .object .nil nofun
    · obtain ⟨⟨members, more⟩, hsplit, rfl⟩ := Option.map_eq_some_iff.mp hfound
      exact wellFormed_ofMembers fun member hmember =>
        hmembers _ _ hsplit member (List.mem_reverse.mp hmember)
  · cases hfound
    exact .null
  · cases hfound
    exact .boolean true
  · cases hfound
    exact .boolean false
  · obtain ⟨number, hnumber, rfl⟩ := Option.map_eq_some_iff.mp hfound
    exact numberOf_wellFormed _ number hnumber

theorem splitItems_wellFormed
    (hdocument : ∀ chars, ∀ found ∈ splitDocument fuel chars, found.1.WellFormed)
    (hitems : ∀ chars, ∀ found ∈ splitItems fuel chars, ∀ item ∈ found.1, item.WellFormed)
    (chars : List Char) :
    ∀ found ∈ splitItems (fuel + 1) chars, ∀ item ∈ found.1, item.WellFormed := by
  intro found hfound
  unfold splitItems at hfound
  obtain ⟨⟨item, rest⟩, hitem, hrest⟩ := Option.bind_eq_some_iff.mp hfound
  have hfirst := hdocument _ _ hitem
  simp only at hrest
  split at hrest
  · obtain ⟨⟨items, after⟩, hsplit, rfl⟩ := Option.map_eq_some_iff.mp hrest
    exact List.forall_mem_cons.mpr ⟨hfirst, hitems _ _ hsplit⟩
  · cases hrest
    exact List.forall_mem_singleton.mpr hfirst
  · cases hrest

theorem splitMembers_wellFormed
    (hdocument : ∀ chars, ∀ found ∈ splitDocument fuel chars, found.1.WellFormed)
    (hmembers : ∀ chars, ∀ found ∈ splitMembers fuel chars, ∀ member ∈ found.1,
      member.2.WellFormed)
    (chars : List Char) :
    ∀ found ∈ splitMembers (fuel + 1) chars, ∀ member ∈ found.1, member.2.WellFormed := by
  intro found hfound
  unfold splitMembers at hfound
  split at hfound
  · obtain ⟨⟨key, rest⟩, _, hrest⟩ := Option.bind_eq_some_iff.mp hfound
    simp only at hrest
    split at hrest
    · obtain ⟨⟨value, after⟩, hvalue, hafter⟩ := Option.bind_eq_some_iff.mp hrest
      have hfirst := hdocument _ _ hvalue
      simp only at hafter
      split at hafter
      · obtain ⟨⟨members, behind⟩, hsplit, rfl⟩ := Option.map_eq_some_iff.mp hafter
        exact List.forall_mem_cons.mpr ⟨hfirst, hmembers _ _ hsplit⟩
      · cases hafter
        exact List.forall_mem_singleton.mpr hfirst
      · cases hafter
    · cases hrest
  · cases hfound

/-- Whatever is split off within some fuel is well-formed. -/
theorem split_wellFormed (fuel : Nat) :
    (∀ chars, ∀ found ∈ splitDocument fuel chars, found.1.WellFormed) ∧
    (∀ chars, ∀ found ∈ splitItems fuel chars, ∀ item ∈ found.1, item.WellFormed) ∧
    ∀ chars, ∀ found ∈ splitMembers fuel chars, ∀ member ∈ found.1, member.2.WellFormed := by
  induction fuel with
  | zero => exact ⟨nofun, nofun, nofun⟩
  | succ fuel ih =>
      obtain ⟨hdocument, hitems, hmembers⟩ := ih
      exact ⟨splitDocument_wellFormed hitems hmembers, splitItems_wellFormed hdocument hitems,
        splitMembers_wellFormed hdocument hmembers⟩

end Reader

/-- Every text holds a well-formed document, if any. -/
theorem wellFormed_of_read? {text : String} {document : Json} (hread : read? text = some document) :
    document.WellFormed := by
  unfold read? at hread
  simp only at hread
  split at hread
  · next found rest hsplit =>
    split at hread
    · cases hread
      exact (Reader.split_wellFormed _).1 _ _ hsplit
    · cases hread
  · cases hread

end Json

/-! ## Plain form -/

theorem Value.wellFormed_ofJson {document : Json} (hdocument : document.WellFormed) :
    (ofJson document).WellFormed := by
  induction hdocument with
  | null | boolean | float | string => exact wellFormed_of_empty rfl rfl
  | integer value =>
      rw [ofJson, ofNumeral]
      split <;> exact wellFormed_of_empty rfl rfl
  | array _ ih =>
      rw [ofJson, ofJsonItems_eq_map]
      exact wellFormed_list_iff.mpr (List.forall_mem_map.mpr ih)
  | @object members hincreasing _ ih =>
      rw [ofJson, ofJsonMembers_eq_map]
      have hkeys : Properties.keys (members.map fun member => (member.1, ofJson member.2)) =
          members.map Prod.fst := by
        rw [Properties.keys, List.map_map]
        rfl
      exact wellFormed_map_iff.mpr ⟨hkeys ▸ hincreasing.nodup, List.forall_mem_map.mpr ih⟩

/-! ## Tagged form -/

namespace Tagged

/-- Whatever the document stands for, in each of its roles, is well-formed. -/
structure Reading.WellFormed (reading : Reading) : Prop where
  value : ∀ value ∈ reading.value, value.WellFormed
  values : ∀ values ∈ reading.values, ∀ value ∈ values, value.WellFormed
  properties : ∀ properties ∈ reading.properties, properties.WellFormed
  node : ∀ entity ∈ reading.node, (Value.node entity).WellFormed
  relationship : ∀ entity ∈ reading.relationship, (Value.relationship entity).WellFormed
  nodes : ∀ entities ∈ reading.nodes, ∀ entity ∈ entities, (Value.node entity).WellFormed
  relationships : ∀ entities ∈ reading.relationships, ∀ entity ∈ entities,
    (Value.relationship entity).WellFormed
  path : ∀ outcome ∈ reading.path, Ensures outcome fun walk => (Value.path walk).WellFormed

theorem Reading.wellFormed_none : Reading.none.WellFormed :=
  ⟨nofun, nofun, nofun, nofun, nofun, nofun, nofun, nofun⟩

/-- What is read of every item is read of one of them. -/
theorem forall_mem_of_mapM {α β : Type} {f : α → Option β} {P : β → Prop} {xs : List α}
    (hf : ∀ x ∈ xs, ∀ y ∈ f x, P y) : ∀ ys ∈ xs.mapM f, ∀ y ∈ ys, P y := by
  intro ys hys
  induction mapM_eq_some_iff.mp hys with
  | nil => exact nofun
  | @cons x y rest others hfirst hrest ih =>
      rw [List.forall_mem_cons] at hf ⊢
      exact ⟨hf.1 y hfirst, ih hf.2 (mapM_eq_some_iff.mpr hrest)⟩

theorem ofItems_wellFormed {items : List Reading} (hitems : ∀ item ∈ items, item.WellFormed) :
    (ofItems items).WellFormed where
  value := nofun
  values := forall_mem_of_mapM fun item hitem => (hitems item hitem).value
  properties := nofun
  node := nofun
  relationship := nofun
  nodes := forall_mem_of_mapM fun item hitem => (hitems item hitem).node
  relationships := forall_mem_of_mapM fun item hitem => (hitems item hitem).relationship
  path := nofun

section Members

variable {members : Members} (hvalues : ∀ member ∈ members, member.2.reading.WellFormed)

include hvalues

theorem reading?_wellFormed (key : String) :
    ∀ reading ∈ members.reading? key, reading.WellFormed := by
  intro reading hreading
  obtain ⟨member, hmember, rfl⟩ := Option.map_eq_some_iff.mp hreading
  exact hvalues (key, member) (Properties.mem_of_get? hmember)

theorem decodeNode_wellFormed :
    ∀ entity ∈ decodeNode members, (Value.node entity).WellFormed := by
  intro entity hentity
  simp only [decodeNode, Option.mem_def, Option.bind_eq_bind, Option.bind_eq_some_iff,
    Option.pure_def, Option.some.injEq] at hentity
  obtain ⟨_, _, id, _, _, _, labels, _, reading, hreading, properties, hproperties, rfl⟩ := hentity
  exact wellFormed_node_iff.mpr
    ((reading?_wellFormed hvalues _ reading hreading).properties properties hproperties)

theorem decodeRelationship_wellFormed :
    ∀ entity ∈ decodeRelationship members, (Value.relationship entity).WellFormed := by
  intro entity hentity
  simp only [decodeRelationship, Option.mem_def, Option.bind_eq_bind, Option.bind_eq_some_iff,
    Option.pure_def, Option.some.injEq] at hentity
  obtain ⟨_, _, id, _, _, _, kind, _, _, _, source, _, _, _, target, _, reading, hreading,
    properties, hproperties, rfl⟩ := hentity
  exact wellFormed_relationship_iff.mpr
    ((reading?_wellFormed hvalues _ reading hreading).properties properties hproperties)

theorem decodePath_wellFormed :
    ∀ outcome ∈ decodePath members, Ensures outcome fun walk => (Value.path walk).WellFormed := by
  intro outcome houtcome walk hwalk
  simp only [decodePath, Option.mem_def, Option.bind_eq_bind, Option.bind_eq_some_iff,
    Option.pure_def, Option.some.injEq] at houtcome
  obtain ⟨nodesRead, hnodesRead, nodes, hnodes, hopsRead, hhopsRead, relationships,
    hrelationships, rfl⟩ := houtcome
  obtain ⟨hconnected, rfl, rfl⟩ := Path.ofParts_eq_ok_iff.mp hwalk
  exact wellFormed_path_iff_parts.mpr ⟨hconnected,
    (reading?_wellFormed hvalues _ nodesRead hnodesRead).nodes _ hnodes,
    (reading?_wellFormed hvalues _ hopsRead hhopsRead).relationships _ hrelationships⟩

omit hvalues in
theorem decodeContent_wellFormed (kind : String) {content : Member}
    (hcontent : content.reading.WellFormed) :
    ∀ value ∈ decodeContent kind content, value.WellFormed := by
  unfold decodeContent
  split
  case h_5 =>
    exact wellFormed_of_mem_map fun items hitems =>
      wellFormed_list_iff.mpr (hcontent.values items hitems)
  case h_6 =>
    exact wellFormed_of_mem_map fun entries hentries =>
      wellFormed_map_iff.mpr (hcontent.properties entries hentries)
  case h_7 => exact wellFormed_of_mem_map hcontent.node
  case h_8 => exact wellFormed_of_mem_map hcontent.relationship
  case h_9 =>
    refine wellFormed_of_mem_map fun walk hwalk => ?_
    obtain ⟨outcome, houtcome, hok⟩ := Option.bind_eq_some_iff.mp hwalk
    cases outcome with
    | ok found =>
        cases hok
        exact hcontent.path _ houtcome walk rfl
    | error defect => cases hok
  case h_15 => exact nofun
  -- every other kind holds nothing
  all_goals exact wellFormed_of_mem_map fun _ _ => wellFormed_of_empty rfl rfl

theorem decodeTagged_wellFormed : ∀ value ∈ decodeTagged members, value.WellFormed := by
  intro value hvalue
  obtain ⟨_, _, hrest⟩ := Option.bind_eq_some_iff.mp hvalue
  obtain ⟨kind, _, hdecode⟩ := Option.bind_eq_some_iff.mp hrest
  split at hdecode
  · split at hdecode
    · cases hdecode
      exact wellFormed_null
    · cases hdecode
  · next content hcontent =>
    split at hdecode
    · split at hdecode
      · cases hdecode
        exact wellFormed_null
      · cases hdecode
    · have hmember := hvalues ("value", content) (Properties.mem_of_get? hcontent)
      exact decodeContent_wellFormed kind hmember value hdecode

theorem ofMembers_wellFormed (hkeys : (members.map Prod.fst).Nodup) :
    (ofMembers members).WellFormed where
  value := decodeTagged_wellFormed hvalues
  values := nofun
  properties := by
    intro properties hproperties
    have hread := mapM_eq_some_iff.mp hproperties
    have hsame : members.map Prod.fst = properties.keys := by
      rw [Properties.keys, ← List.forall₂_eq_eq_eq, List.forall₂_map_left_iff,
        List.forall₂_map_right_iff]
      refine hread.imp fun member entry hentry => ?_
      obtain ⟨value, _, rfl⟩ := Option.map_eq_some_iff.mp hentry
      rfl
    refine ⟨hsame ▸ hkeys, forall_mem_of_mapM (fun member hmember entry hentry => ?_) _ hproperties⟩
    obtain ⟨value, hvalue, rfl⟩ := Option.map_eq_some_iff.mp hentry
    exact (hvalues member hmember).value value hvalue
  node := decodeNode_wellFormed hvalues
  relationship := decodeRelationship_wellFormed hvalues
  nodes := nofun
  relationships := nofun
  path := decodePath_wellFormed hvalues

end Members

theorem read_wellFormed {document : Json} (hdocument : document.WellFormed) :
    (read document).WellFormed := by
  induction hdocument with
  | null | boolean | integer | float | string => exact Reading.wellFormed_none
  | array _ ih =>
      rw [read, readItems_eq_map]
      exact ofItems_wellFormed (List.forall_mem_map.mpr ih)
  | @object members hincreasing _ ih =>
      rw [read, readMembers_eq_map]
      refine ofMembers_wellFormed (List.forall_mem_map.mpr ih) ?_
      rw [List.map_map]
      exact hincreasing.nodup

/-- A tagged document stands for a well-formed value, if any. -/
theorem wellFormed_of_decode {document : Json} (hdocument : document.WellFormed) {value : Value}
    (hdecode : decode document = some value) : value.WellFormed :=
  (read_wellFormed hdocument).value value hdecode

end Tagged

end CypherExpr
