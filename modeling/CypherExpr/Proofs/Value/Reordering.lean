import CypherExpr.Proofs.Graph.Paths
import CypherExpr.Proofs.Value.Equality

/-!
# Reorderings part by part

A codec that meets the entries of a property list in another order makes a reordering of the value.
It is enough to know this of the elements of a list, the entries of a map and the hops of a path,
one by one.  Identities and ends of relationships do not move, so a path stays connected.
-/

namespace CypherExpr.Value

theorem Reordered.of_items {items items' : List Value}
    (hitems : List.Forall₂ Reordered items items') : Reordered (.list items) (.list items') := by
  obtain ⟨hlength, hzip⟩ := List.forall₂_iff_zip.mp hitems
  exact .list hlength fun pair hpair => hzip hpair

/-- The same key, and a reordering of the value under it. -/
def EntryReordered (entry entry' : String × Value) : Prop :=
  entry.1 = entry'.1 ∧ Reordered entry.2 entry'.2

theorem Reordered.of_entries {entries moved entries' : Properties Value}
    (hmoved : entries.Perm moved) (hentries : List.Forall₂ EntryReordered moved entries') :
    Reordered (.map entries) (.map entries') := by
  have hkeys : moved.keys = entries'.keys := by
    rw [Properties.keys, Properties.keys, ← List.forall₂_eq_eq_eq, List.forall₂_map_left_iff,
      List.forall₂_map_right_iff]
    exact hentries.imp fun _ _ hentry => hentry.1
  apply Reordered.map hmoved hkeys
  intro pair hpair
  exact ((List.forall₂_iff_zip.mp hentries).2 hpair).2

/-! ## Paths -/

/-- Reorderings of the relationship and of the node that it leads to. -/
def HopReordered (hop hop' : Relationship Value × Node Value) : Prop :=
  Reordered (.relationship hop.1) (.relationship hop'.1) ∧
    Reordered (.node hop.2) (.node hop'.2)

theorem Reordered.of_hops {start start' : Node Value}
    {hops hops' : List (Relationship Value × Node Value)}
    (hstart : Reordered (.node start) (.node start'))
    (hhops : List.Forall₂ HopReordered hops hops') :
    Reordered (.path ⟨start, hops⟩) (.path ⟨start', hops'⟩) := by
  obtain ⟨hlength, hzip⟩ := List.forall₂_iff_zip.mp hhops
  apply Reordered.path hstart hlength
  · exact fun pair hpair => (hzip hpair).1
  · exact fun pair hpair => (hzip hpair).2

theorem Reordered.id_eq {entity entity' : Node Value}
    (hreordered : Reordered (.node entity) (.node entity')) : entity.id = entity'.id := by
  cases hreordered with
  | refl | node => rfl

theorem Reordered.connects_eq {entity entity' : Relationship Value}
    (hreordered : Reordered (.relationship entity) (.relationship entity')) :
    entity.connects = entity'.connects := by
  cases hreordered with
  | refl | relationship => rfl

theorem connectedFrom_of_forall₂ {id : Int64}
    {hops hops' : List (Relationship Value × Node Value)}
    (hhops : List.Forall₂ HopReordered hops hops') (hconnected : Path.ConnectedFrom id hops) :
    Path.ConnectedFrom id hops' := by
  induction hhops generalizing id with
  | nil => trivial
  | @cons hop hop' rest rest' hhop _ ih =>
      obtain ⟨hfirst, hrest⟩ := hconnected
      rw [hhop.1.connects_eq, hhop.2.id_eq] at hfirst
      rw [hhop.2.id_eq] at hrest
      exact ⟨hfirst, ih hrest⟩

/-! ## Equality -/

/-- A reordering of a value without NaN is equal to it. -/
theorem reordered_equals {value other : Value} (hnan : value.NaNFree) (hkeys : value.UniqueKeys)
    (hreordered : Reordered value other) : other.equals value = true := by
  apply equals_symm
  apply equals_of_reordered hreordered
  exact fun inner hinner => ⟨hnan inner hinner, hkeys inner hinner⟩

end CypherExpr.Value
