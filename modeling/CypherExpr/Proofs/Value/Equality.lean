import CypherExpr.Proofs.Value.Parts
import CypherExpr.Value.Equality
import Mathlib.Data.List.Forall2
import Mathlib.Data.List.Perm.Subperm

/-!
# Equality of values is an equivalence apart from NaN

One comparison step looks at the outline of two values, which is everything but their parts, and
asks that the parts be equal again: the elements of lists in order, the properties of maps and
entities under each key.  Symmetry and transitivity are proved of one step and follow by induction
on the parts; reflexivity fails at NaN alone.  Since properties are compared under their keys, a
value is equal to itself with the entries of its maps and entities in another order.
-/

namespace CypherExpr

/-! ## Lists related in turn -/

section Lists

variable {α : Type} {R : α → α → Prop} {xs ys zs : List α}

theorem forall₂_symm_of_mem (hrelated : List.Forall₂ R xs ys)
    (hmem : ∀ x ∈ xs, ∀ y, R x y → R y x) : List.Forall₂ R ys xs :=
  (((List.forall₂_and_left xs ys).mpr ⟨hmem, hrelated⟩).imp fun _ y hxy => hxy.1 y hxy.2).flip

theorem forall₂_trans_of_mem (hxy : List.Forall₂ R xs ys) (hyz : List.Forall₂ R ys zs)
    (hmem : ∀ x ∈ xs, ∀ y z, R x y → R y z → R x z) : List.Forall₂ R xs zs := by
  induction hxy generalizing zs with
  | nil => exact hyz
  | cons hfirst _ ih =>
      cases hyz with
      | cons hsecond hrest =>
          rw [List.forall_mem_cons] at hmem
          exact .cons (hmem.1 _ _ hfirst hsecond) (ih hrest hmem.2)

end Lists

/-! ## Property lists under their keys -/

namespace Properties

variable {α : Type} {R : α → α → Prop}

/-- The same keys, with related values under each. -/
def Agree (R : α → α → Prop) (left right : Properties α) : Prop :=
  ∀ key, Option.Rel R (left.get? key) (right.get? key)

theorem Agree.refl {properties : Properties α}
    (hvalues : ∀ entry ∈ properties, R entry.2 entry.2) : properties.Agree R properties := by
  intro key
  match hvalue : properties.get? key with
  | none => exact .none
  | some value => exact .some (hvalues (key, value) (mem_of_get? hvalue))

theorem Agree.symm {left right : Properties α} (hagree : left.Agree R right)
    (hvalues : ∀ entry ∈ left, ∀ value, R entry.2 value → R value entry.2) :
    right.Agree R left := by
  intro key
  match hleft : left.get? key, right.get? key, hagree key with
  | none, none, .none => exact .none
  | some first, some second, .some hrelated =>
      exact .some (hvalues (key, first) (mem_of_get? hleft) second hrelated)

theorem Agree.trans {left middle right : Properties α} (hleft : left.Agree R middle)
    (hright : middle.Agree R right)
    (hvalues : ∀ entry ∈ left, ∀ value other, R entry.2 value → R value other →
      R entry.2 other) :
    left.Agree R right := by
  intro key
  match hfirst : left.get? key, middle.get? key, right.get? key, hleft key, hright key with
  | none, none, none, .none, .none => exact .none
  | some first, some second, some third, .some hbefore, .some hafter =>
      exact .some (hvalues (key, first) (mem_of_get? hfirst) second third hbefore hafter)

theorem Agree.mem_keys_iff {left right : Properties α} (hagree : left.Agree R right)
    (key : String) : key ∈ left.keys ↔ key ∈ right.keys := by
  rw [← not_iff_not, ← get?_eq_none_iff, ← get?_eq_none_iff]
  match left.get? key, right.get? key, hagree key with
  | none, none, .none => simp
  | some _, some _, .some _ => simp

/-- Where no key is repeated, it is enough to count the entries and to look up those of one side. -/
theorem agree_iff_of_nodup {left right : Properties α} (hleft : left.keys.Nodup)
    (hright : right.keys.Nodup) :
    left.Agree R right ↔ left.length = right.length ∧
      ∀ entry ∈ left, ∃ value, right.get? entry.1 = some value ∧ R entry.2 value := by
  constructor
  · intro hagree
    have hperm : left.keys.Perm right.keys :=
      (List.perm_ext_iff_of_nodup hleft hright).mpr hagree.mem_keys_iff
    refine ⟨by simpa [keys] using hperm.length_eq, fun entry hentry => ?_⟩
    have hagreed := hagree entry.1
    rw [(get?_eq_some_iff hleft).mpr hentry] at hagreed
    cases hvalue : right.get? entry.1 with
    | none =>
        rw [hvalue] at hagreed
        cases hagreed
    | some value =>
        rw [hvalue, Option.rel_some_some] at hagreed
        exact ⟨value, rfl, hagreed⟩
  · rintro ⟨hlength, hentries⟩ key
    have hsub : left.keys ⊆ right.keys := by
      intro other hother
      obtain ⟨entry, hentry, rfl⟩ := List.mem_map.mp hother
      obtain ⟨value, hvalue, _⟩ := hentries entry hentry
      exact mem_keys_of_get? hvalue
    -- The keys of one side cannot lie among as many of the other and leave one of them out.
    have hperm : left.keys.Perm right.keys :=
      (hleft.subperm hsub).perm_of_length_le (by simp [keys, hlength])
    cases hvalue : left.get? key with
    | none =>
        have hnone : key ∉ right.keys :=
          fun hmem => (get?_eq_none_iff left key).mp hvalue (hperm.mem_iff.mpr hmem)
        rw [(get?_eq_none_iff right key).mpr hnone]
        exact .none
    | some value =>
        obtain ⟨other, hother, hrelated⟩ := hentries (key, value) (mem_of_get? hvalue)
        rw [hother]
        exact .some hrelated

/-- Lists with the same keys in the same order agree if their values are related in turn. -/
theorem Agree.of_zip {left right : Properties α} (hkeys : left.keys = right.keys)
    (hvalues : ∀ pair ∈ left.zip right, R pair.1.2 pair.2.2) : left.Agree R right := by
  induction left generalizing right with
  | nil =>
      cases right with
      | nil => exact fun _ => .none
      | cons entry rest => cases hkeys
  | cons entry rest ih =>
      cases right with
      | nil => cases hkeys
      | cons other others =>
          obtain ⟨hkey, hrest⟩ := List.cons.inj hkeys
          rw [List.zip_cons_cons, List.forall_mem_cons] at hvalues
          intro key
          rw [get?_cons, get?_cons, ← hkey]
          split
          · exact .some hvalues.1
          · exact ih hrest hvalues.2 key

end Properties

namespace Value

/-! ## One comparison step -/

/-- Two values are the same to expressions. -/
abbrev Same (left right : Value) : Prop := left.equals right = true

theorem keys_equalityTests (properties : Properties Value) :
    Properties.keys (equalityTests properties) = properties.keys := by
  induction properties with
  | nil => rfl
  | cons entry rest ih => exact congrArg (entry.1 :: ·) ih

theorem get?_equalityTests (properties : Properties Value) (key : String) :
    Properties.get? (equalityTests properties) key = (properties.get? key).map equals := by
  induction properties with
  | nil => rfl
  | cons entry rest ih =>
      obtain ⟨other, value⟩ := entry
      rw [equalityTests, Properties.get?_cons, Properties.get?_cons, ih]
      split <;> rfl

/-- Keys that neither list has are not looked at, and need not be. -/
theorem agree_equalityTests_iff {left right : Properties Value} :
    agree (equalityTests left) right = true ↔ left.Agree Same right := by
  rw [agree, List.all_eq_true]
  constructor
  · intro hall key
    have hkey := hall key
    rw [List.mem_append, keys_equalityTests, get?_equalityTests] at hkey
    cases hleft : left.get? key with
    | none =>
        cases hright : right.get? key with
        | none => exact .none
        | some value =>
            rw [hleft, hright] at hkey
            exact absurd (hkey (.inr (Properties.mem_keys_of_get? hright))) nofun
    | some first =>
        have hmem := hkey (.inl (Properties.mem_keys_of_get? hleft))
        cases hright : right.get? key with
        | none =>
            rw [hleft, hright] at hmem
            cases hmem
        | some second =>
            rw [hleft, hright] at hmem
            exact .some hmem
  · intro hagree key _
    rw [get?_equalityTests]
    match left.get? key, right.get? key, hagree key with
    | none, none, .none => rfl
    | some first, some second, .some hsame => exact hsame

/-- Maps are equal when they have as many entries and every entry of one has its equal under the
same key of the other. -/
theorem equals_map_iff_counted {left right : Properties Value} (hleft : left.keys.Nodup)
    (hright : right.keys.Nodup) :
    (map left).equals (map right) = true ↔ left.length = right.length ∧
      ∀ entry ∈ left, ∃ value, right.get? entry.1 = some value ∧ entry.2.equals value = true :=
  agree_equalityTests_iff.trans (Properties.agree_iff_of_nodup hleft hright)

/-- All of a value but its parts. -/
inductive Outline where
  | null
  | boolean (value : Bool)
  | integer (value : Int64)
  | float (place : Option Int)
  | string (value : String)
  | list
  | map
  | node (bare : Node Empty)
  | relationship (bare : Relationship Empty)
  | path (start : Node Empty) (hops : List (Relationship Empty × Node Empty))
  | date (value : Date)
  | time (value : TimeOfDay)
  | localDateTime (value : LocalDateTime)
  | dateTime (moment : Moment)
  | duration (value : Duration)

/-- An entity without its properties. -/
def bareNode (entity : Node Value) : Node Empty := ⟨entity.id, entity.labels, []⟩

def bareRelationship (entity : Relationship Value) : Relationship Empty :=
  ⟨entity.id, entity.kind, entity.source, entity.target, []⟩

def outline : Value → Outline
  | .null => .null
  | .boolean value => .boolean value
  | .integer value => .integer value
  | .float value => .float (Binary64.place value)
  | .string value => .string value
  | .list _ => .list
  | .map _ => .map
  | .node entity => .node (bareNode entity)
  | .relationship entity => .relationship (bareRelationship entity)
  | .path walk =>
      .path (bareNode walk.start)
        (walk.hops.map fun hop => (bareRelationship hop.1, bareNode hop.2))
  | .date value => .date value
  | .time value => .time value
  | .localDateTime value => .localDateTime value
  | .dateTime value => .dateTime value.moment
  | .duration value => .duration value

def IsNaN : Value → Prop
  | .float value => Binary64.isNaN value = true
  | _ => False

/-- The parts of two values are related one by one. -/
structure PartsRelated (R : Value → Value → Prop) (left right : Value) : Prop where
  items : List.Forall₂ R left.items right.items
  properties : List.Forall₂ (Properties.Agree R) left.propertyLists right.propertyLists

theorem partsRelated_iff {R : Value → Value → Prop} {left right : Value} :
    PartsRelated R left right ↔ List.Forall₂ R left.items right.items ∧
      List.Forall₂ (Properties.Agree R) left.propertyLists right.propertyLists :=
  ⟨fun h => ⟨h.items, h.properties⟩, fun h => ⟨h.1, h.2⟩⟩

theorem equalsList_iff {left right : List Value} :
    equalsList left right = true ↔ List.Forall₂ Same left right := by
  induction left generalizing right with
  | nil => cases right <;> simp [equalsList]
  | cons item rest ih =>
      cases right with
      | nil => simp [equalsList]
      | cons other others => simp [equalsList, ih]

theorem equalsNode_iff {left right : Node Value} :
    equalsNode left right = true ↔
      bareNode left = bareNode right ∧
        Properties.Agree Same left.properties right.properties := by
  obtain ⟨id, labels, properties⟩ := left
  simp [equalsNode, bareNode, agree_equalityTests_iff, and_assoc]

theorem equalsRelationship_iff {left right : Relationship Value} :
    equalsRelationship left right = true ↔
      bareRelationship left = bareRelationship right ∧
        Properties.Agree Same left.properties right.properties := by
  obtain ⟨id, kind, source, target, properties⟩ := left
  simp [equalsRelationship, bareRelationship, agree_equalityTests_iff, and_assoc]

theorem equalsHops_iff {left right : List (Relationship Value × Node Value)} :
    equalsHops left right = true ↔
      (left.map fun hop => (bareRelationship hop.1, bareNode hop.2)) =
          (right.map fun hop => (bareRelationship hop.1, bareNode hop.2)) ∧
        List.Forall₂ (Properties.Agree Same)
          (left.flatMap fun hop => [hop.1.properties, hop.2.properties])
          (right.flatMap fun hop => [hop.1.properties, hop.2.properties]) := by
  induction left generalizing right with
  | nil => cases right <;> simp [equalsHops]
  | cons hop rest ih =>
      cases right with
      | nil => simp [equalsHops]
      | cons other others =>
          simp only [equalsHops, Bool.and_eq_true, equalsRelationship_iff, equalsNode_iff, ih,
            List.map_cons, List.cons.injEq, Prod.mk.injEq, List.flatMap_cons, List.cons_append,
            List.nil_append, List.forall₂_cons]
          tauto

theorem equalsPath_iff {left right : Path Value} :
    equalsPath left right = true ↔
      (bareNode left.start = bareNode right.start ∧
        (left.hops.map fun hop => (bareRelationship hop.1, bareNode hop.2)) =
          (right.hops.map fun hop => (bareRelationship hop.1, bareNode hop.2))) ∧
        Properties.Agree Same left.start.properties right.start.properties ∧
          List.Forall₂ (Properties.Agree Same)
            (left.hops.flatMap fun hop => [hop.1.properties, hop.2.properties])
            (right.hops.flatMap fun hop => [hop.1.properties, hop.2.properties]) := by
  obtain ⟨start, hops⟩ := left
  simp only [equalsPath, Bool.and_eq_true, equalsNode_iff, equalsHops_iff]
  tauto

theorem place_eq_none_iff (value : Float) :
    Binary64.place value = none ↔ Binary64.isNaN value = true := by
  rw [Binary64.place, Binary64.isNaN]
  cases Binary64.read value <;> simp [Binary64.Reading.place]

theorem not_isNaN_of_isFinite {value : Float} (hfinite : Binary64.isFinite value = true) :
    ¬ Binary64.isNaN value = true := by
  rw [Binary64.isFinite] at hfinite
  rw [Binary64.isNaN]
  split at hfinite
  · next hread =>
    rw [hread]
    simp
  · cases hfinite

theorem equal_float_iff {left right : Float} :
    Binary64.equal left right = true ↔
      Binary64.place left = Binary64.place right ∧ ¬ Binary64.isNaN left = true := by
  rw [← place_eq_none_iff, Binary64.equal, Binary64.order]
  cases Binary64.place left <;> cases Binary64.place right <;> simp [Binary64.comparePlaces]

/-- Two values are the same if they share an outline, which is not that of NaN, and their parts are
the same. -/
theorem equals_iff {left right : Value} :
    left.equals right = true ↔
      left.outline = right.outline ∧ ¬ left.IsNaN ∧ PartsRelated Same left right := by
  cases left <;> cases right <;>
    simp [equals, outline, IsNaN, partsRelated_iff, items, propertyLists, equal_float_iff,
      equalsList_iff, agree_equalityTests_iff, equalsNode_iff, equalsRelationship_iff,
      equalsPath_iff]

theorem isNaN_iff_outline {value : Value} : value.IsNaN ↔ value.outline = .float none := by
  cases value <;> simp [IsNaN, outline, place_eq_none_iff]

/-! ## The laws of one step -/

section Step

variable {R : Value → Value → Prop} {left middle right : Value}

theorem PartsRelated.refl (hparts : ∀ part ∈ left.parts, R part part) :
    PartsRelated R left left where
  items := List.forall₂_same.mpr fun item hitem => hparts item (mem_parts_of_item hitem)
  properties := List.forall₂_same.mpr fun _ hproperties =>
    .refl fun _ hentry => hparts _ (mem_parts_of_entry hproperties hentry)

theorem PartsRelated.symm (hrelated : PartsRelated R left right)
    (hparts : ∀ part ∈ left.parts, ∀ value, R part value → R value part) :
    PartsRelated R right left where
  items := by
    refine forall₂_symm_of_mem hrelated.items fun item hitem => ?_
    exact hparts item (mem_parts_of_item hitem)
  properties := by
    refine forall₂_symm_of_mem hrelated.properties fun properties hproperties other hagree => ?_
    exact hagree.symm fun entry hentry => hparts entry.2 (mem_parts_of_entry hproperties hentry)

theorem PartsRelated.trans (hleft : PartsRelated R left middle)
    (hright : PartsRelated R middle right)
    (hparts : ∀ part ∈ left.parts, ∀ value other, R part value → R value other →
      R part other) :
    PartsRelated R left right where
  items := by
    refine forall₂_trans_of_mem hleft.items hright.items fun item hitem => ?_
    exact hparts item (mem_parts_of_item hitem)
  properties := by
    refine forall₂_trans_of_mem hleft.properties hright.properties
      fun properties hproperties _ _ hbefore hafter => ?_
    exact hbefore.trans hafter fun entry hentry =>
      hparts entry.2 (mem_parts_of_entry hproperties hentry)

end Step

/-! ## Equality is an equivalence apart from NaN -/

theorem equals_symm {left right : Value} (hsame : Same left right) : Same right left := by
  induction left using inductionOnParts generalizing right with
  | step left ih =>
      obtain ⟨houtline, hnan, hparts⟩ := equals_iff.mp hsame
      refine equals_iff.mpr ⟨houtline.symm, ?_, hparts.symm fun part hpart _ => ih part hpart⟩
      rwa [isNaN_iff_outline, ← houtline, ← isNaN_iff_outline]

theorem equals_trans {left middle right : Value} (hleft : Same left middle)
    (hright : Same middle right) : Same left right := by
  induction left using inductionOnParts generalizing middle right with
  | step left ih =>
      obtain ⟨houtline, hnan, hparts⟩ := equals_iff.mp hleft
      obtain ⟨houtline', _, hparts'⟩ := equals_iff.mp hright
      exact equals_iff.mpr ⟨houtline.trans houtline', hnan,
        hparts.trans hparts' fun part hpart _ _ => ih part hpart⟩

/-- No number inside the value is NaN. -/
def NaNFree (value : Value) : Prop := value.Throughout fun inner => ¬ inner.IsNaN

/-- No map and no entity inside the value has two properties under one key. -/
def UniqueKeys (value : Value) : Prop :=
  value.Throughout fun inner => ∀ properties ∈ inner.propertyLists, properties.keys.Nodup

theorem equals_self {value : Value} (hvalue : value.NaNFree) : Same value value := by
  induction value using inductionOnParts with
  | step value ih =>
      obtain ⟨hnan, hparts⟩ := throughout_iff.mp hvalue
      exact equals_iff.mpr ⟨rfl, hnan, .refl fun part hpart => ih part hpart (hparts part hpart)⟩

/-! ## Reordering entries -/

/-- The second value is the first with the entries of any of its maps and entities, at any depth, in
another order. -/
inductive Reordered : Value → Value → Prop
  | refl (value : Value) : Reordered value value
  | list {items items' : List Value} (hlength : items.length = items'.length)
      (hitems : ∀ pair ∈ items.zip items', Reordered pair.1 pair.2) :
      Reordered (.list items) (.list items')
  | map {entries moved entries' : Properties Value} (hmoved : entries.Perm moved)
      (hkeys : moved.keys = entries'.keys)
      (hvalues : ∀ pair ∈ moved.zip entries', Reordered pair.1.2 pair.2.2) :
      Reordered (.map entries) (.map entries')
  | node {id : Int64} {labels : List String} {properties properties' : Properties Value}
      (hproperties : Reordered (.map properties) (.map properties')) :
      Reordered (.node ⟨id, labels, properties⟩) (.node ⟨id, labels, properties'⟩)
  | relationship {id source target : Int64} {kind : String}
      {properties properties' : Properties Value}
      (hproperties : Reordered (.map properties) (.map properties')) :
      Reordered (.relationship ⟨id, kind, source, target, properties⟩)
        (.relationship ⟨id, kind, source, target, properties'⟩)
  | path {start start' : Node Value} {hops hops' : List (Relationship Value × Node Value)}
      (hstart : Reordered (.node start) (.node start')) (hlength : hops.length = hops'.length)
      (hcrossed : ∀ pair ∈ hops.zip hops',
        Reordered (.relationship pair.1.1) (.relationship pair.2.1))
      (hreached : ∀ pair ∈ hops.zip hops', Reordered (.node pair.1.2) (.node pair.2.2)) :
      Reordered (.path ⟨start, hops⟩) (.path ⟨start', hops'⟩)

/-- What reordering asks of a value and of everything inside it. -/
def Orderly (value : Value) : Prop :=
  ¬ value.IsNaN ∧ ∀ properties ∈ value.propertyLists, properties.keys.Nodup

/-- A value that holds only property lists of an orderly one is orderly. -/
theorem Throughout.orderly_of_subset {value other : Value} (hvalue : value.Throughout Orderly)
    (hnan : ¬ other.IsNaN) (hitems : other.items = [])
    (hproperties : ∀ properties ∈ other.propertyLists, properties ∈ value.propertyLists) :
    other.Throughout Orderly := by
  obtain ⟨⟨_, hkeys⟩, hparts⟩ := throughout_iff.mp hvalue
  refine throughout_iff.mpr
    ⟨⟨hnan, fun properties hmem => hkeys properties (hproperties properties hmem)⟩, ?_⟩
  intro part hpart
  rw [parts, hitems, List.nil_append] at hpart
  obtain ⟨properties, hmem, hvalue⟩ := List.mem_flatMap.mp hpart
  obtain ⟨entry, hentry, rfl⟩ := List.mem_map.mp hvalue
  exact hparts entry.2 (mem_parts_of_entry (hproperties properties hmem) hentry)

theorem equalsHops_of_forall_mem_zip {hops hops' : List (Relationship Value × Node Value)}
    (hlength : hops.length = hops'.length)
    (hcrossed : ∀ pair ∈ hops.zip hops', equalsRelationship pair.1.1 pair.2.1 = true)
    (hreached : ∀ pair ∈ hops.zip hops', equalsNode pair.1.2 pair.2.2 = true) :
    equalsHops hops hops' = true := by
  induction hops generalizing hops' with
  | nil =>
      cases hops' with
      | nil => rfl
      | cons hop rest => cases hlength
  | cons hop rest ih =>
      cases hops' with
      | nil => cases hlength
      | cons hop' rest' =>
          rw [List.zip_cons_cons, List.forall_mem_cons] at hcrossed hreached
          have hrest := ih (Nat.succ.inj hlength) hcrossed.2 hreached.2
          simp only [equalsHops, hcrossed.1, hreached.1, hrest, Bool.and_self]

theorem equals_of_reordered {value other : Value} (hreordered : Reordered value other)
    (horderly : value.Throughout Orderly) : Same value other := by
  induction hreordered with
  | refl value => exact equals_self fun inner hinner => (horderly inner hinner).1
  | @list items items' hlength _ ih =>
      have hparts := (throughout_iff.mp horderly).2
      refine equalsList_iff.mpr (List.forall₂_iff_zip.mpr ⟨hlength, fun {item item'} hpair => ?_⟩)
      exact ih (item, item') hpair
        (hparts item (mem_parts_of_item (List.of_mem_zip hpair).1))
  | @map entries moved entries' hmoved hkeys _ ih =>
      obtain ⟨⟨_, hunique⟩, hparts⟩ := throughout_iff.mp horderly
      have hzip : moved.Agree Same entries' := by
        refine .of_zip hkeys fun pair hpair => ih pair hpair ?_
        have hentry := hmoved.mem_iff.mpr (List.of_mem_zip (show (pair.1, pair.2) ∈ _ from hpair)).1
        exact hparts pair.1.2 (mem_parts_of_entry List.mem_cons_self hentry)
      refine agree_equalityTests_iff.mpr fun key => ?_
      rw [Properties.get?_perm (hunique entries List.mem_cons_self) hmoved]
      exact hzip key
  | node _ ih =>
      have hsame := ih (horderly.orderly_of_subset nofun rfl fun _ h => h)
      exact equalsNode_iff.mpr ⟨rfl, agree_equalityTests_iff.mp hsame⟩
  | relationship _ ih =>
      have hsame := ih (horderly.orderly_of_subset nofun rfl fun _ h => h)
      exact equalsRelationship_iff.mpr ⟨rfl, agree_equalityTests_iff.mp hsame⟩
  | @path start start' hops hops' _ hlength _ _ ihstart ihcrossed ihreached =>
      have hwithin : ∀ pair ∈ hops.zip hops', pair.1 ∈ (Path.mk start hops).hops :=
        fun pair hpair => (List.of_mem_zip (show (pair.1, pair.2) ∈ _ from hpair)).1
      have hstart : equalsNode start start' = true :=
        ihstart (horderly.orderly_of_subset nofun rfl
          (List.forall_mem_singleton.mpr List.mem_cons_self))
      have hhops : equalsHops hops hops' = true := by
        refine equalsHops_of_forall_mem_zip hlength (fun pair hpair => ?_) (fun pair hpair => ?_)
        · exact ihcrossed pair hpair (horderly.orderly_of_subset nofun rfl
            (List.forall_mem_singleton.mpr (mem_propertyLists_of_hop (hwithin pair hpair)).1))
        · exact ihreached pair hpair (horderly.orderly_of_subset nofun rfl
            (List.forall_mem_singleton.mpr (mem_propertyLists_of_hop (hwithin pair hpair)).2))
      simp only [Same, equals, equalsPath, hstart, hhops, Bool.and_self]

/-- Equality is symmetric and transitive, holds of every value without NaN and itself, and does not
see the order of entries: a value without NaN is equal to every reordering of it. -/
theorem equals_laws :
    (∀ left right : Value, left.equals right = right.equals left) ∧
    (∀ left middle right : Value, left.equals middle = true → middle.equals right = true →
      left.equals right = true) ∧
    (∀ value : Value, value.NaNFree → value.equals value = true) ∧
    (∀ value other : Value, value.NaNFree → value.UniqueKeys → Reordered value other →
      value.equals other = true) := by
  refine ⟨fun left right => ?_, fun left middle right => equals_trans,
    fun value => equals_self, fun value other hnan hkeys hreordered => ?_⟩
  · exact Bool.eq_iff_iff.mpr ⟨equals_symm, equals_symm⟩
  · exact equals_of_reordered hreordered fun inner hinner => ⟨hnan inner hinner, hkeys inner hinner⟩

/-- The map `{name: 'Alice', born: {year: 1990, day: 10.5}}`. -/
def person : Value :=
  .map [("name", .string "Alice"),
    ("born", .map [("year", .integer 1990), ("day", .float 10.5)])]

/-- The same map with the entries of both levels in the opposite order. -/
def personReversed : Value :=
  .map [("born", .map [("day", .float 10.5), ("year", .integer 1990)]),
    ("name", .string "Alice")]

theorem reordered_person : Reordered person personReversed := by
  refine .map (.swap _ _ _) rfl ?_
  simp only [List.zip_cons_cons, List.zip_nil_right, List.forall_mem_cons]
  refine ⟨.map (.swap _ _ _) rfl ?_, .refl _, nofun⟩
  simp only [List.zip_cons_cons, List.zip_nil_right, List.forall_mem_cons]
  exact ⟨.refl _, .refl _, nofun⟩

theorem nanFree_person : person.NaNFree := by
  have hday : ¬ Binary64.isNaN 10.5 = true := by decide +kernel
  refine throughout_map_iff.mpr ⟨nofun, List.forall_mem_cons.mpr ⟨?_, ?_⟩⟩
  · exact throughout_of_parts_eq_nil rfl nofun
  · refine List.forall_mem_singleton.mpr (throughout_map_iff.mpr ⟨nofun, ?_⟩)
    exact List.forall_mem_cons.mpr ⟨throughout_of_parts_eq_nil rfl nofun,
      List.forall_mem_singleton.mpr (throughout_of_parts_eq_nil rfl hday)⟩

theorem uniqueKeys_person : person.UniqueKeys := by
  refine throughout_map_iff.mpr
    ⟨List.forall_mem_singleton.mpr (by decide), List.forall_mem_cons.mpr ⟨?_, ?_⟩⟩
  · exact throughout_of_parts_eq_nil rfl nofun
  · refine List.forall_mem_singleton.mpr (throughout_map_iff.mpr
      ⟨List.forall_mem_singleton.mpr (by decide), ?_⟩)
    exact List.forall_mem_cons.mpr ⟨throughout_of_parts_eq_nil rfl nofun,
      List.forall_mem_singleton.mpr (throughout_of_parts_eq_nil rfl nofun)⟩

/-- Both orders of the entries of a person make one value. -/
theorem equals_personReversed :
    (person.NaNFree ∧ person.UniqueKeys ∧ Reordered person personReversed) ∧
      person.equals personReversed = true ∧ personReversed.equals person = true ∧
      personReversed.equals personReversed = true := by
  obtain ⟨hsymm, htrans, hrefl, hreordered⟩ := equals_laws
  have hsame : person.equals personReversed = true :=
    hreordered _ _ nanFree_person uniqueKeys_person reordered_person
  have hback : personReversed.equals person = true := hsymm person personReversed ▸ hsame
  exact ⟨⟨nanFree_person, uniqueKeys_person, reordered_person⟩, hsame, hback,
    htrans _ _ _ hback hsame⟩

end Value

end CypherExpr
