import CypherExpr.Json.Conversion
import CypherExpr.Proofs.Json.Members
import CypherExpr.Proofs.Value.Reordering

/-!
# Plain JSON keeps plain values

Null, booleans, integers, finite doubles, strings, lists and maps are written as plain JSON and read
back as they were, except that the entries of maps come back in increasing order of their keys;
so the value that is read is equal to the one written.  The other way round, documents whose numbers
are 64-bit integers or finite doubles become values and the very same documents again.
-/

namespace CypherExpr

namespace Value

theorem toJsonItems_eq_map (items : List Value) : toJsonItems items = items.map toJson := by
  induction items with
  | nil => rfl
  | cons item rest ih => rw [toJsonItems, ih, List.map_cons]

theorem ofJsonItems_eq_map (items : List Json) : ofJsonItems items = items.map ofJson := by
  induction items with
  | nil => rfl
  | cons item rest ih => rw [ofJsonItems, ih, List.map_cons]

theorem toJsonMembers_eq_map (entries : Properties Value) :
    toJsonMembers entries = entries.map fun entry => (entry.1, toJson entry.2) := by
  induction entries with
  | nil => rfl
  | cons entry rest ih => rw [toJsonMembers, ih, List.map_cons]

theorem ofJsonMembers_eq_map (members : List (String × Json)) :
    ofJsonMembers members = members.map fun member => (member.1, ofJson member.2) := by
  induction members with
  | nil => rfl
  | cons member rest ih => rw [ofJsonMembers, ih, List.map_cons]

/-! ## From values to documents and back -/

/-- The kinds of values that plain JSON has a form of their own for, each in any size. -/
def HasPlainKind : Value → Prop
  | .null | .boolean _ | .integer _ | .string _ | .list _ | .map _ => True
  | .float value => Binary64.isFinite value = true
  | _ => False

/-- The value is made of null, booleans, integers, finite doubles, strings, lists and maps. -/
def Plain (value : Value) : Prop := value.Throughout HasPlainKind

theorem HasPlainKind.not_isNaN {value : Value} (hkind : value.HasPlainKind) : ¬ value.IsNaN := by
  cases value with
  | float number => exact not_isNaN_of_isFinite hkind
  | _ => exact id

theorem Plain.nanFree {value : Value} (hplain : value.Plain) : value.NaNFree :=
  fun inner hinner => (hplain inner hinner).not_isNaN

/-- What is read back of a plain value is the value with the entries of its maps moved. -/
theorem reordered_ofJson_toJson {value : Value} (hplain : value.Plain)
    (hkeys : value.UniqueKeys) : Reordered value (ofJson (toJson value)) := by
  induction value using inductionOnParts with
  | step value ih =>
      obtain ⟨hkind, hparts⟩ := throughout_iff.mp hplain
      obtain ⟨hunique, hpartKeys⟩ := throughout_iff.mp hkeys
      have hpart : ∀ part ∈ value.parts, Reordered part (ofJson (toJson part)) :=
        fun part hmem => ih part hmem (hparts part hmem) (hpartKeys part hmem)
      cases value with
      | null | boolean | string => exact .refl _
      | integer number =>
          have hread : ofJson (toJson (.integer number)) = .integer number := by
            rw [toJson, word, ofJson, ofNumeral, Checked.narrow_toInt]
          rw [hread]
          exact .refl _
      | float number =>
          have hread : ofJson (toJson (.float number)) = .float number := by
            have hfinite : Binary64.isFinite number = true := hkind
            rw [toJson, numeral, if_pos hfinite, ofJson]
          rw [hread]
          exact .refl _
      | list items =>
          have hread : ofJson (toJson (.list items)) =
              .list (items.map fun item => ofJson (toJson item)) := by
            rw [toJson, toJsonItems_eq_map, ofJson, ofJsonItems_eq_map, List.map_map]
            rfl
          rw [hread]
          apply Reordered.of_items
          rw [List.forall₂_map_right_iff, List.forall₂_same]
          exact fun item hitem => hpart item (mem_parts_of_item hitem)
      | map entries =>
          obtain ⟨moved, hmoved, hmembers⟩ :=
            Json.exists_perm_sortedMembers toJson (hunique entries List.mem_cons_self)
          have hread : ofJson (toJson (.map entries)) =
              .map (moved.map fun entry => (entry.1, ofJson (toJson entry.2))) := by
            rw [toJson, toJsonMembers_eq_map, Json.ofMembers_eq, hmembers, ofJson,
              ofJsonMembers_eq_map, List.map_map]
            rfl
          rw [hread]
          apply Reordered.of_entries hmoved
          rw [List.forall₂_map_right_iff, List.forall₂_same]
          intro entry hentry
          have hmem : entry ∈ entries := hmoved.mem_iff.mpr hentry
          exact ⟨rfl, hpart entry.2 (mem_parts_of_entry List.mem_cons_self hmem)⟩
      | _ => exact hkind.elim

end Value

/-! ## From documents to values and back -/

/-- Every integer of the document fits into 64 bits, every double is finite, and the members of
every object are in increasing order of their keys. -/
inductive Json.Exact : Json → Prop
  | null : Exact .null
  | boolean (value : Bool) : Exact (.boolean value)
  | integer {value : Int} (hfits : Checked.Fits value) : Exact (.integer value)
  | float {value : Float} (hfinite : Binary64.isFinite value = true) : Exact (.float value)
  | string (value : String) : Exact (.string value)
  | array {items : List Json} (hitems : ∀ item ∈ items, Exact item) : Exact (.array items)
  | object {members : List (String × Json)} (hincreasing : Json.Increasing members)
      (hvalues : ∀ member ∈ members, Exact member.2) : Exact (.object members)

namespace Value

/-- An exact document is kept to the letter. -/
theorem toJson_ofJson {document : Json} (hexact : document.Exact) :
    toJson (ofJson document) = document := by
  induction hexact with
  | null | boolean | string => rfl
  | @integer value hfits =>
      have hnarrow : Checked.narrow value = some (Int64.ofInt value) := if_pos hfits
      rw [ofJson, ofNumeral, hnarrow]
      exact congrArg Json.integer (Checked.toInt_ofInt hfits)
  | float hfinite => rw [ofJson, toJson, numeral, if_pos hfinite]
  | @array items _ ih =>
      have hitems : (items.map ofJson).map toJson = items :=
        calc
          (items.map ofJson).map toJson = items.map (toJson ∘ ofJson) := List.map_map
          _ = items.map id := List.map_congr_left fun item hitem => ih item hitem
          _ = items := List.map_id items
      rw [ofJson, ofJsonItems_eq_map, toJson, toJsonItems_eq_map, hitems]
  | @object members hincreasing _ ih =>
      have hmembers : (members.map fun member => (member.1, ofJson member.2)).map
          (fun entry => (entry.1, toJson entry.2)) = members :=
        calc
          _ = members.map fun member => (member.1, toJson (ofJson member.2)) := List.map_map
          _ = members.map id :=
            List.map_congr_left fun member hmember => Prod.ext rfl (ih member hmember)
          _ = members := List.map_id members
      rw [ofJson, ofJsonMembers_eq_map, toJson, toJsonMembers_eq_map, hmembers,
        Json.ofMembers_eq, Json.sortedMembers_of_increasing hincreasing]

/-- A plain value is equal to what is read back of its document, and an exact document is the
document of the value that it stands for. -/
theorem plain_json_roundTrips :
    (∀ value : Value, value.Plain → value.UniqueKeys →
      (ofJson (toJson value)).equals value = true) ∧
    ∀ document : Json, document.Exact → toJson (ofJson document) = document := by
  constructor
  · intro value hplain hkeys
    exact reordered_equals hplain.nanFree hkeys (reordered_ofJson_toJson hplain hkeys)
  · intro document hexact
    exact toJson_ofJson hexact

/-- The map `{scores: [2, 2.0], name: 'Alice'}`. -/
def report : Value :=
  .map [("scores", .list [.integer 2, .float 2.0]), ("name", .string "Alice")]

/-- The document `{"limits": [2, 2.0], "name": null}`. -/
def limits : Json :=
  .object [("limits", .array [.integer 2, .float 2.0]), ("name", .null)]

theorem isFinite_two : Binary64.isFinite 2.0 = true := by decide +kernel

theorem plain_report : report.Plain := by
  refine throughout_map_iff.mpr ⟨trivial, List.forall_mem_cons.mpr ⟨?_, ?_⟩⟩
  · refine throughout_list_iff.mpr ⟨trivial, List.forall_mem_cons.mpr ⟨?_, ?_⟩⟩
    · exact throughout_of_parts_eq_nil rfl trivial
    · exact List.forall_mem_singleton.mpr (throughout_of_parts_eq_nil rfl isFinite_two)
  · exact List.forall_mem_singleton.mpr (throughout_of_parts_eq_nil rfl trivial)

theorem uniqueKeys_report : report.UniqueKeys := by
  refine throughout_map_iff.mpr
    ⟨List.forall_mem_singleton.mpr (by decide), List.forall_mem_cons.mpr ⟨?_, ?_⟩⟩
  · refine throughout_list_iff.mpr ⟨nofun, List.forall_mem_cons.mpr ⟨?_, ?_⟩⟩
    · exact throughout_of_parts_eq_nil rfl nofun
    · exact List.forall_mem_singleton.mpr (throughout_of_parts_eq_nil rfl nofun)
  · exact List.forall_mem_singleton.mpr (throughout_of_parts_eq_nil rfl nofun)

theorem exact_limits : limits.Exact := by
  have hkeys : Json.Increasing
      [("limits", .array [.integer 2, .float 2.0]), ("name", .null)] :=
    List.pairwise_pair.mpr (by decide)
  apply Json.Exact.object hkeys
  refine List.forall_mem_cons.mpr ⟨.array ?_, List.forall_mem_singleton.mpr .null⟩
  exact List.forall_mem_cons.mpr ⟨.integer (by decide),
    List.forall_mem_singleton.mpr (.float isFinite_two)⟩

/-- The report comes back with its entries in the other order, and the limits as they were.  In both
the integer stays an integer and the double a double. -/
theorem report_json_roundTrip :
    (report.Plain ∧ report.UniqueKeys ∧ limits.Exact) ∧
      (ofJson (toJson report)).equals report = true ∧ toJson (ofJson limits) = limits := by
  have hvalue := plain_json_roundTrips.1 report plain_report uniqueKeys_report
  have hdocument := plain_json_roundTrips.2 limits exact_limits
  exact ⟨⟨plain_report, uniqueKeys_report, exact_limits⟩, hvalue, hdocument⟩

end Value

end CypherExpr
