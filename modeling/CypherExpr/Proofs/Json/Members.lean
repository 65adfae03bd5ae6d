import CypherExpr.Json.Basic
import Mathlib.Data.List.Perm.Basic
import Mathlib.Data.String.Basic

/-!
# Members of objects

An object keeps its members in increasing order of their keys.  Making an object of members with
distinct keys only moves them, and members that are in order already stay where they are.  So an
object is read back as a reordering of the property list that was written.
-/

namespace CypherExpr.Json

/-- The members of `ofMembers`. -/
def sortedMembers (members : List (String × Json)) : List (String × Json) :=
  members.foldr (fun member sorted => insertMember member.1 member.2 sorted) []

theorem ofMembers_eq (members : List (String × Json)) :
    ofMembers members = .object (sortedMembers members) := rfl

theorem lookup_sortedMembers (members : List (String × Json)) (key : String) :
    (sortedMembers members).lookup key = members.lookup key := by
  induction members with
  | nil => rfl
  | cons member rest ih =>
      obtain ⟨head, value⟩ := member
      change (insertMember head value (sortedMembers rest)).lookup key = _
      rw [lookup_insertMember, ih]
      by_cases hkey : key = head
      · simp [hkey]
      · simp [List.lookup_cons, beq_eq_false_iff_ne.mpr hkey, hkey]

theorem member?_ofMembers (members : List (String × Json)) (key : String) :
    (ofMembers members).member? key = members.lookup key := lookup_sortedMembers members key

theorem insertMember_perm {key : String} {members : List (String × Json)}
    (hfresh : key ∉ members.map Prod.fst) (value : Json) :
    (insertMember key value members).Perm ((key, value) :: members) := by
  induction members with
  | nil => exact .refl _
  | cons member rest ih =>
      obtain ⟨head, old⟩ := member
      rw [List.map_cons, List.mem_cons, not_or] at hfresh
      rw [insertMember, if_neg hfresh.1]
      split
      · exact .refl _
      · exact ((ih hfresh.2).cons (head, old)).trans (.swap _ _ _)

/-- Members with distinct keys are all kept. -/
theorem sortedMembers_perm {members : List (String × Json)}
    (hkeys : (members.map Prod.fst).Nodup) : (sortedMembers members).Perm members := by
  induction members with
  | nil => exact .refl _
  | cons member rest ih =>
      obtain ⟨hfresh, hrest⟩ := List.nodup_cons.mp hkeys
      have hsorted := ih hrest
      have hinsert : (insertMember member.1 member.2 (sortedMembers rest)).Perm
          (member :: sortedMembers rest) := by
        apply insertMember_perm
        rwa [(hsorted.map Prod.fst).mem_iff]
      exact hinsert.trans (hsorted.cons member)

/-- The keys of members increase. -/
def Increasing (members : List (String × Json)) : Prop :=
  members.Pairwise fun left right => left.1 < right.1

theorem insertMember_of_lt {key : String} {members : List (String × Json)}
    (hleast : ∀ member ∈ members, key < member.1) (value : Json) :
    insertMember key value members = (key, value) :: members := by
  cases members with
  | nil => rfl
  | cons member rest =>
      have hlt := hleast member List.mem_cons_self
      rw [insertMember, if_neg hlt.ne, if_pos hlt]

/-- Members in order are already those of an object. -/
theorem sortedMembers_of_increasing {members : List (String × Json)}
    (hincreasing : Increasing members) : sortedMembers members = members := by
  induction hincreasing with
  | nil => rfl
  | @cons member rest hleast _ ih =>
      change insertMember member.1 member.2 (sortedMembers rest) = _
      rw [ih, insertMember_of_lt hleast]

theorem eq_or_mem_of_mem_insertMember {key : String} {value : Json} {member : String × Json}
    {members : List (String × Json)} (hmember : member ∈ insertMember key value members) :
    member = (key, value) ∨ member ∈ members := by
  induction members with
  | nil => exact .inl (List.mem_singleton.mp hmember)
  | cons first rest ih =>
      obtain ⟨other, old⟩ := first
      unfold insertMember at hmember
      split at hmember
      · exact (List.mem_cons.mp hmember).imp_right (List.mem_cons_of_mem _)
      · split at hmember
        · exact List.mem_cons.mp hmember
        · rcases List.mem_cons.mp hmember with rfl | hrest
          · exact .inr List.mem_cons_self
          · exact (ih hrest).imp_right (List.mem_cons_of_mem _)

theorem mem_of_mem_sortedMembers {member : String × Json} {members : List (String × Json)}
    (hmember : member ∈ sortedMembers members) : member ∈ members := by
  induction members with
  | nil => cases hmember
  | cons first rest ih =>
      rcases eq_or_mem_of_mem_insertMember hmember with rfl | hrest
      · exact List.mem_cons_self
      · exact List.mem_cons_of_mem _ (ih hrest)

theorem increasing_insertMember {members : List (String × Json)}
    (hincreasing : Increasing members) (key : String) (value : Json) :
    Increasing (insertMember key value members) := by
  induction hincreasing with
  | nil => exact List.pairwise_singleton _ _
  | @cons first rest hleast hrest ih =>
      obtain ⟨other, old⟩ := first
      unfold insertMember
      split
      · next hsame =>
        subst hsame
        exact .cons hleast hrest
      · next hne =>
        split
        · next hlt =>
          refine .cons (List.forall_mem_cons.mpr ⟨hlt, fun member hmember => ?_⟩)
            (.cons hleast hrest)
          exact hlt.trans (hleast member hmember)
        · next hnlt =>
          refine .cons (fun member hmember => ?_) ih
          rcases eq_or_mem_of_mem_insertMember hmember with rfl | hold
          · exact (not_lt.mp hnlt).lt_of_ne' hne
          · exact hleast member hold

/-- The members of an object that is made are in order, whatever they are made of. -/
theorem increasing_sortedMembers (members : List (String × Json)) :
    Increasing (sortedMembers members) := by
  induction members with
  | nil => exact .nil
  | cons member rest ih => exact increasing_insertMember ih member.1 member.2

/-- Members in order have distinct keys. -/
theorem Increasing.nodup {members : List (String × Json)} (hincreasing : Increasing members) :
    (members.map Prod.fst).Nodup :=
  List.pairwise_map.mpr (hincreasing.imp fun hlt => hlt.ne)

/-- Entries that are written value by value are the members of their object in some order. -/
theorem exists_perm_sortedMembers {α : Type} (write : α → Json) {entries : List (String × α)}
    (hkeys : (entries.map Prod.fst).Nodup) :
    ∃ moved, entries.Perm moved ∧
      sortedMembers (entries.map fun entry => (entry.1, write entry.2)) =
        moved.map fun entry => (entry.1, write entry.2) := by
  let member : String × α → String × Json := fun entry => (entry.1, write entry.2)
  have hsame : (entries.map member).map Prod.fst = entries.map Prod.fst := by
    rw [List.map_map]
    rfl
  have hperm : (sortedMembers (entries.map member)).Perm (entries.map member) :=
    sortedMembers_perm (hsame ▸ hkeys)
  obtain ⟨moved, hmoved, hentries⟩ := (congrFun₂ (List.eq_map_comp_perm member) _ _).mpr hperm
  exact ⟨moved, hentries.symm, hmoved⟩

end CypherExpr.Json
