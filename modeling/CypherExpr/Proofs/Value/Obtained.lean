import CypherExpr.Proofs.Json.WellFormed

/-!
# The values of a program

A program makes values of others, reads them from texts, evaluates expressions and aggregates rows.
By induction on how a value was obtained it is well-formed, so what is stated of values with unique
keys and connected paths holds of every value of a program: it is read back from JSON as it was, and
maps may be compared by counting their entries.
-/

namespace CypherExpr.Value

/-- The ways in which a program with an engine obtains values. -/
inductive Obtained (engine : Engine) : Value → Prop
  | empty {value : Value} (hitems : value.items = []) (hproperties : value.propertyLists = []) :
      Obtained engine value
  | list {items : List Value} (hitems : ∀ item ∈ items, Obtained engine item) :
      Obtained engine (.list items)
  | map {entries : List (String × Value)} (hentries : ∀ entry ∈ entries, Obtained engine entry.2) :
      Obtained engine (.map (Properties.ofEntries entries))
  | node {id : Int64} {labels : List String} {entries : List (String × Value)}
      (hentries : ∀ entry ∈ entries, Obtained engine entry.2) :
      Obtained engine (.node ⟨id, labels, Properties.ofEntries entries⟩)
  | relationship {id source target : Int64} {kind : String} {entries : List (String × Value)}
      (hentries : ∀ entry ∈ entries, Obtained engine entry.2) :
      Obtained engine (.relationship ⟨id, kind, source, target, Properties.ofEntries entries⟩)
  | path {elements : List (PathElement Value)} {walk : Path Value}
      (helements : ∀ element ∈ elements, Obtained engine element.value)
      (hwalk : Path.ofElements elements = .ok walk) : Obtained engine (.path walk)
  /-- Read from a text, as it is -/
  | plain {text : String} {document : Json} (hread : Json.read? text = some document) :
      Obtained engine (ofJson document)
  /-- Read from a text that tags the kinds of values -/
  | tagged {text : String} {document : Json} {value : Value}
      (hread : Json.read? text = some document) (hdecode : Tagged.decode document = some value) :
      Obtained engine value
  | evaluated {context : Context} {expr : Expr} {value : Value}
      (hbindings : ∀ entry ∈ context.bindings, Obtained engine entry.2)
      (hsegments : ∀ entry ∈ context.segments, Obtained engine (.path entry.2))
      (hparameters : ∀ entry ∈ context.parameters, Obtained engine entry.2)
      (hvalue : engine.evaluate expr context = .ok value) : Obtained engine value
  | aggregated {rows : List Context} {expr : Expr} {value : Value}
      (hbindings : ∀ row ∈ rows, ∀ entry ∈ row.bindings, Obtained engine entry.2)
      (hsegments : ∀ row ∈ rows, ∀ entry ∈ row.segments, Obtained engine (.path entry.2))
      (hparameters : ∀ row ∈ rows, ∀ entry ∈ row.parameters, Obtained engine entry.2)
      (hvalue : engine.aggregate expr rows = .ok value) : Obtained engine value

namespace Obtained

variable {engine : Engine} {value : Value}

/-- In all values of a program keys are unique and paths connected. -/
theorem wellFormed (hengine : engine.WellFormed) (hvalue : Obtained engine value) :
    value.WellFormed := by
  induction hvalue with
  | empty hitems hproperties => exact wellFormed_of_empty hitems hproperties
  | list _ ih => exact wellFormed_list_iff.mpr ih
  | map _ ih => exact wellFormed_map_iff.mpr (.ofEntries ih)
  | node _ ih => exact wellFormed_node_iff.mpr (.ofEntries ih)
  | relationship _ ih => exact wellFormed_relationship_iff.mpr (.ofEntries ih)
  | path _ hwalk ih => exact wellFormed_path_of_elements ih hwalk
  | plain hread => exact wellFormed_ofJson (Json.wellFormed_of_read? hread)
  | tagged hread hdecode =>
      exact Tagged.wellFormed_of_decode (Json.wellFormed_of_read? hread) hdecode
  | evaluated _ _ _ hvalue ihbindings ihsegments ihparameters =>
      exact Engine.evaluate_wellFormed hengine _ ⟨ihbindings, ihsegments, ihparameters⟩ _ hvalue
  | aggregated _ _ _ hvalue ihbindings ihsegments ihparameters =>
      refine Engine.aggregate_wellFormed hengine _ (fun row hrow => ?_) _ hvalue
      exact ⟨ihbindings row hrow, ihsegments row hrow, ihparameters row hrow⟩

/-- A value of a program is read back from JSON as an equal one: from the tagged form if its
doubles, offsets and leap seconds can be written, from the plain form if its kinds can. -/
theorem json_readBack (hengine : engine.WellFormed) (hvalue : Obtained engine value) :
    (value.Exact → ∃ other, Tagged.decode (Tagged.encode value) = some other ∧
      other.equals value = true) ∧
    (value.Plain → (ofJson (toJson value)).equals value = true) := by
  obtain ⟨hkeys, hpaths⟩ := hvalue.wellFormed hengine
  constructor
  · intro hexact
    obtain ⟨other, hread, hreordered⟩ := Tagged.survives hexact hpaths hkeys
    exact ⟨other, hread, reordered_equals hexact.nanFree hkeys hreordered⟩
  · intro hplain
    exact reordered_equals hplain.nanFree hkeys (reordered_ofJson_toJson hplain hkeys)

/-- Two maps of a program are equal if they have as many entries and every entry of one has its
equal under the same key of the other. -/
theorem equals_map_iff (hengine : engine.WellFormed) {left right : Properties Value}
    (hleft : Obtained engine (.map left)) (hright : Obtained engine (.map right)) :
    (Value.map left).equals (.map right) = true ↔ left.length = right.length ∧
      ∀ entry ∈ left, ∃ value, right.get? entry.1 = some value ∧ entry.2.equals value = true :=
  equals_map_iff_counted (wellFormed_map_iff.mp (hleft.wellFormed hengine)).nodup
    (wellFormed_map_iff.mp (hright.wellFormed hengine)).nodup

end Obtained

end CypherExpr.Value
