/-!
# Property lists

Maps and the properties of graph entities are lists of keys with values in the order in which the
keys were first set.  Setting a key again replaces its value in place.
-/

namespace CypherExpr

/-- Keys with values, in the order of first definition.  The type admits repeated keys; that the
operations on property lists never make any is proved of them. -/
abbrev Properties (α : Type) := List (String × α)

namespace Properties

variable {α : Type}

def get? (properties : Properties α) (key : String) : Option α := List.lookup key properties

def keys (properties : Properties α) : List String := properties.map Prod.fst

def set : Properties α → String → α → Properties α
  | [], key, value => [(key, value)]
  | (other, old) :: rest, key, value =>
      if other = key then (key, value) :: rest else (other, old) :: set rest key value

/-- Sets the entries from left to right. -/
def setAll (properties : Properties α) (entries : List (String × α)) : Properties α :=
  entries.foldl (fun soFar entry => set soFar entry.1 entry.2) properties

/-- The property list that a sequence of entries defines: a later entry for a key takes its
place. -/
def ofEntries (entries : List (String × α)) : Properties α := setAll [] entries

theorem get?_cons (key other : String) (value : α) (rest : Properties α) :
    get? ((other, value) :: rest) key = if key = other then some value else get? rest key := by
  by_cases h : key = other
  · simp [get?, h]
  · simp [get?, List.lookup_cons, beq_eq_false_iff_ne.2 h, h]

theorem get?_append (left right : Properties α) (key : String) :
    get? (left ++ right) key = (left.get? key).or (right.get? key) := List.lookup_append

theorem get?_eq_none_iff (properties : Properties α) (key : String) :
    properties.get? key = none ↔ key ∉ properties.keys := by
  induction properties with
  | nil => simp [get?, keys]
  | cons entry rest ih =>
      rw [get?_cons]
      by_cases h : key = entry.1
      · simp [keys, h]
      · simpa [keys, h] using ih

theorem mem_of_get? {properties : Properties α} {key : String} {value : α}
    (hvalue : properties.get? key = some value) : (key, value) ∈ properties := by
  induction properties with
  | nil => cases hvalue
  | cons entry rest ih =>
      rw [get?_cons] at hvalue
      split at hvalue
      · next h =>
        cases hvalue
        simp [h]
      · exact List.mem_cons_of_mem entry (ih hvalue)

theorem mem_keys_of_get? {properties : Properties α} {key : String} {value : α}
    (hvalue : properties.get? key = some value) : key ∈ properties.keys :=
  List.mem_map_of_mem (mem_of_get? hvalue)

/-- Where no key is repeated, every entry is found under its key. -/
theorem get?_eq_some_iff {properties : Properties α} (hkeys : properties.keys.Nodup)
    {key : String} {value : α} :
    properties.get? key = some value ↔ (key, value) ∈ properties := by
  refine ⟨mem_of_get?, fun hentry => ?_⟩
  induction properties with
  | nil => cases hentry
  | cons entry rest ih =>
      obtain ⟨hfresh, hrest⟩ := List.nodup_cons.1 hkeys
      rw [get?_cons]
      rcases List.mem_cons.1 hentry with rfl | hentry
      · simp
      · have hne : key ≠ entry.1 := fun h => hfresh (h ▸ List.mem_map_of_mem hentry)
        rw [if_neg hne]
        exact ih hrest hentry

/-- Where no key is repeated, the order of the entries does not matter to look-ups. -/
theorem get?_perm {left right : Properties α} (hkeys : left.keys.Nodup)
    (hperm : left.Perm right) (key : String) : left.get? key = right.get? key := by
  have hright : right.keys.Nodup := (hperm.map Prod.fst).nodup_iff.1 hkeys
  refine Option.ext fun value => ?_
  rw [get?_eq_some_iff hkeys, get?_eq_some_iff hright, hperm.mem_iff]

theorem get?_set (properties : Properties α) (key other : String) (value : α) :
    (set properties key value).get? other =
      if other = key then some value else properties.get? other := by
  induction properties with
  | nil => simp [set, get?_cons]
  | cons entry rest ih =>
      obtain ⟨head, old⟩ := entry
      by_cases hhead : head = key
      · subst hhead
        by_cases h : other = head <;> simp [set, get?_cons, h]
      · by_cases h : other = head
        · subst h
          simp [set, hhead, get?_cons]
        · simp [set, hhead, get?_cons, h, ih]

theorem keys_set (properties : Properties α) (key : String) (value : α) :
    (set properties key value).keys =
      if key ∈ properties.keys then properties.keys else properties.keys ++ [key] := by
  induction properties with
  | nil => rfl
  | cons entry rest ih =>
      obtain ⟨head, old⟩ := entry
      by_cases hhead : head = key
      · simp [set, keys, hhead]
      · have hne : key ≠ head := fun h => hhead h.symm
        simp only [set, if_neg hhead, keys, List.map_cons] at ih ⊢
        rw [ih]
        by_cases hrest : key ∈ rest.map Prod.fst
        · simp [hrest]
        · simp [hrest, hne]

theorem eq_or_mem_of_mem_set {properties : Properties α} {key : String} {value : α}
    {entry : String × α} (hentry : entry ∈ set properties key value) :
    entry = (key, value) ∨ entry ∈ properties := by
  induction properties with
  | nil => exact .inl (List.mem_singleton.1 hentry)
  | cons first rest ih =>
      obtain ⟨head, old⟩ := first
      unfold set at hentry
      split at hentry
      · rcases List.mem_cons.1 hentry with hnew | hrest
        · exact .inl hnew
        · exact .inr (List.mem_cons_of_mem _ hrest)
      · rcases List.mem_cons.1 hentry with hfirst | hrest
        · exact .inr (hfirst ▸ List.mem_cons_self)
        · exact (ih hrest).imp id (List.mem_cons_of_mem _)

/-- Setting never makes a second entry for a key. -/
theorem nodup_keys_set {properties : Properties α} (hkeys : properties.keys.Nodup) (key : String)
    (value : α) : (set properties key value).keys.Nodup := by
  rw [keys_set]
  split
  · exact hkeys
  · next hfresh =>
    refine List.nodup_append.2 ⟨hkeys, List.pairwise_singleton _ key, ?_⟩
    rintro other hold _ hkey rfl
    exact hfresh (List.mem_singleton.1 hkey ▸ hold)

end Properties

end CypherExpr
