import CypherExpr.Typing.ValueType

/-!
# Joins of types

`any` is both the type of null, which a join passes over, and what a join answers where two types
clash.  A clash is therefore forgotten as soon as another type follows it, and the join of a
sequence stands above all of its types only where nothing is forgotten: where the types have a
common bound, or where the sequence ends in a clash, at each depth of nested lists.
-/

namespace CypherExpr.ValueType

/-- The first type is known less precisely than the second or is a kind of it.  Unlike in `accepts`,
`any` stands below all other types and above none. -/
inductive Below : ValueType → ValueType → Prop
  | unknown (type : ValueType) : Below .any type
  | refl (type : ValueType) : Below type type
  | number {type : ValueType} (hnumeric : type.isNumeric = true) : Below type .number
  | list {left right : ValueType} (helement : Below left right) : Below (.list left) (.list right)

@[simp]
theorem accepts_any (type : ValueType) : type.accepts .any = true := by
  cases type <;> rfl

@[simp]
theorem accepts_self (type : ValueType) : type.accepts type = true := by
  induction type with
  | list element ih => exact ih
  | _ => rfl

@[simp]
theorem join_any (type : ValueType) : type.join .any = type := by
  cases type <;> rfl

@[simp]
theorem join_self (type : ValueType) : type.join type = type := by
  induction type with
  | list element ih => exact congrArg list ih
  | _ => rfl

theorem join_comm (left right : ValueType) : left.join right = right.join left := by
  induction left generalizing right with
  | list element ih =>
      cases right with
      | list other => exact congrArg list (ih other)
      | _ => rfl
  | _ => cases right <;> rfl

/-! ## Bounds -/

theorem Below.of_list {type element : ValueType} (hbelow : type.Below (.list element)) :
    type = .any ∨ ∃ inner, type = .list inner ∧ inner.Below element := by
  cases hbelow with
  | unknown => exact .inl rfl
  | refl => exact .inr ⟨element, rfl, .refl element⟩
  | list helement => exact .inr ⟨_, rfl, helement⟩

theorem Below.trans {a b c : ValueType} (hab : a.Below b) (hbc : b.Below c) : a.Below c := by
  induction hab generalizing c with
  | unknown => exact .unknown c
  | refl => exact hbc
  | number hnumeric =>
      cases hbc with
      | refl | number => exact .number hnumeric
  | list helement ih =>
      cases hbc with
      | refl => exact .list helement
      | number hnumeric => cases hnumeric
      | list houter => exact .list (ih houter)

theorem Below.accepts {type bound : ValueType} (hbelow : type.Below bound) :
    bound.accepts type = true := by
  induction hbelow with
  | unknown type => exact accepts_any type
  | refl type => exact accepts_self type
  | @number type hnumeric =>
      cases type with
      | any => rfl
      | _ => exact hnumeric
  | list _ ih => exact ih

/-- What a type accepts is below it, apart from what `any` accepts at some depth. -/
theorem accepts_iff {type other : ValueType} :
    type.accepts other = true ↔ type = .any ∨ other.Below type ∨
      ∃ element inner, type = .list element ∧ other = .list inner ∧
        element.accepts inner = true := by
  constructor
  · intro haccepts
    unfold ValueType.accepts at haccepts
    split at haccepts
    · exact .inl rfl
    · exact .inr (.inl (.unknown _))
    · exact .inr (.inl (.number haccepts))
    · exact .inr (.inr ⟨_, _, rfl, rfl, haccepts⟩)
    · rw [of_decide_eq_true haccepts]
      exact .inr (.inl (.refl _))
  · rintro (rfl | hbelow | ⟨element, inner, rfl, rfl, haccepts⟩)
    · rfl
    · exact hbelow.accepts
    · exact haccepts

/-- A join is `any`, or a bound of both types, or the join of elements. -/
theorem join_cases (left right : ValueType) :
    left.join right = .any ∨
      (left.Below (left.join right) ∧ right.Below (left.join right)) ∨
      ∃ element inner, left = .list element ∧ right = .list inner := by
  by_cases hlists : ∃ element inner, left = .list element ∧ right = .list inner
  · exact .inr (.inr hlists)
  · unfold join
    split
    · exact .inr (.inl ⟨.unknown _, .refl _⟩)
    · exact .inr (.inl ⟨.refl _, .unknown _⟩)
    · exact absurd ⟨_, _, rfl, rfl⟩ hlists
    · split
      · next heq =>
        subst heq
        exact .inr (.inl ⟨.refl _, .refl _⟩)
      · split
        · next hnumeric =>
          rw [Bool.and_eq_true] at hnumeric
          exact .inr (.inl ⟨.number hnumeric.1, .number hnumeric.2⟩)
        · exact .inl rfl

theorem below_number_iff {type : ValueType} :
    type.Below .number ↔ type = .any ∨ type.isNumeric = true := by
  constructor
  · rintro (_ | _ | hnumeric)
    · exact .inl rfl
    · exact .inr rfl
    · exact .inr hnumeric
  · rintro (rfl | hnumeric)
    · exact .unknown _
    · exact .number hnumeric

theorem join_numeric {left right : ValueType} (hleft : left.isNumeric = true)
    (hright : right.isNumeric = true) :
    left.Below (left.join right) ∧ right.Below (left.join right) ∧
      (left.join right).isNumeric = true := by
  cases left <;> cases hleft <;> cases right <;> cases hright
  all_goals refine ⟨?_, ?_, rfl⟩
  all_goals first | exact .refl _ | exact .number rfl

/-- A type that stands above another one absorbs it. -/
theorem Below.join_eq {type bound : ValueType} (hbelow : type.Below bound) :
    bound.join type = bound := by
  induction hbelow with
  | unknown bound => exact join_any bound
  | refl type => exact join_self type
  | @number type hnumeric => cases type <;> cases hnumeric <;> rfl
  | list _ ih => exact congrArg ValueType.list ih

/-- Of two types with a common bound the join is the least one. -/
theorem Below.join {left right bound : ValueType} (hleft : left.Below bound)
    (hright : right.Below bound) :
    left.Below (left.join right) ∧ right.Below (left.join right) ∧
      (left.join right).Below bound := by
  induction hleft generalizing right with
  | unknown => exact ⟨.unknown _, .refl _, hright⟩
  | number hnumeric =>
      rcases below_number_iff.mp hright with rfl | hright
      · rw [join_any]
        exact ⟨.refl _, .unknown _, .number hnumeric⟩
      · obtain ⟨hl, hr, hjoin⟩ := join_numeric hnumeric hright
        exact ⟨hl, hr, .number hjoin⟩
  | refl type =>
      rw [hright.join_eq]
      exact ⟨.refl type, hright, .refl type⟩
  | list helement ih =>
      rcases hright.of_list with rfl | ⟨r, rfl, hr⟩
      · exact ⟨.refl _, .unknown _, .list helement⟩
      · obtain ⟨hl', hr', hbound⟩ := ih hr
        exact ⟨.list hl', .list hr', .list hbound⟩

/-- A type that accepts another one accepts its join with all that stands below. -/
theorem accepts_join {bound type other : ValueType} (haccepts : bound.accepts type = true)
    (hbelow : other.Below bound) : bound.accepts (type.join other) = true := by
  induction bound generalizing type other with
  | list bound ih =>
      rcases hbelow.of_list with rfl | ⟨inner, rfl, hinner⟩
      · rwa [join_any]
      · rcases accepts_iff.mp haccepts with hany | htype | ⟨_, element, ⟨rfl⟩, rfl, helement⟩
        · cases hany
        · exact (htype.join hbelow).2.2.accepts
        · exact ih helement hinner
  | any => rfl
  | _ =>
      rcases accepts_iff.mp haccepts with hany | htype | ⟨_, _, hlist, _⟩
      · cases hany
      · exact (htype.join hbelow).2.2.accepts
      · cases hlist

theorem accepts_list_iff {element type : ValueType} :
    (list element).accepts type = true ↔
      type = .any ∨ ∃ inner, type = .list inner ∧ element.accepts inner = true := by
  constructor
  · intro haccepts
    rcases accepts_iff.mp haccepts with hany | hbelow | ⟨_, inner, ⟨rfl⟩, rfl, hinner⟩
    · cases hany
    · exact hbelow.of_list.imp_right fun ⟨inner, htype, hinner⟩ => ⟨inner, htype, hinner.accepts⟩
    · exact .inr ⟨inner, rfl, hinner⟩
  · rintro (rfl | ⟨inner, rfl, hinner⟩)
    · rfl
    · exact hinner

theorem join_accepts_left (left right : ValueType) : (left.join right).accepts left = true := by
  induction left generalizing right with
  | list element ih =>
      rcases join_cases (.list element) right with hany | ⟨hleft, _⟩ | ⟨_, inner, ⟨rfl⟩, rfl⟩
      · rw [hany]
        rfl
      · exact hleft.accepts
      · exact ih inner
  | _ =>
      rcases join_cases _ right with hany | ⟨hleft, _⟩ | ⟨_, _, hlist, _⟩
      · rw [hany]
        rfl
      · exact hleft.accepts
      · cases hlist

/-- What a join with a bound accepts, it accepts joined with all that stands below the bound, even
where the join is a clash. -/
theorem join_accepts_join {left bound type other : ValueType}
    (haccepts : (left.join bound).accepts type = true) (hbelow : other.Below bound) :
    (left.join bound).accepts (type.join other) = true := by
  induction bound generalizing left type other with
  | list bound ih =>
      rcases join_cases left (.list bound) with hany | ⟨_, hbound⟩ | ⟨element, _, rfl, ⟨rfl⟩⟩
      · rw [hany]
        rfl
      · exact accepts_join haccepts (hbelow.trans hbound)
      · rcases hbelow.of_list with rfl | ⟨inner, rfl, hinner⟩
        · rwa [join_any]
        · rcases accepts_list_iff.mp haccepts with rfl | ⟨_, rfl, htype⟩
          · exact ih (accepts_any _) hinner
          · exact ih htype hinner
  | _ =>
      rcases join_cases left _ with hany | ⟨_, hbound⟩ | ⟨_, _, _, hlist⟩
      · rw [hany]
        rfl
      · exact accepts_join haccepts (hbelow.trans hbound)
      · cases hlist

/-! ## Sequences of types -/

theorem joinAll_eq_foldl (types : List ValueType) : joinAll types = types.foldl join .any := by
  cases types <;> rfl

theorem joinAll_append (types others : List ValueType) :
    joinAll (types ++ others) = others.foldl join (joinAll types) := by
  rw [joinAll_eq_foldl, List.foldl_append, ← joinAll_eq_foldl]

theorem foldl_join_below {types : List ValueType} {start bound : ValueType}
    (hstart : start.Below bound) (htypes : ∀ type ∈ types, type.Below bound) :
    start.Below (types.foldl join start) ∧
      (∀ type ∈ types, type.Below (types.foldl join start)) ∧
      (types.foldl join start).Below bound := by
  induction types generalizing start with
  | nil => exact ⟨.refl start, List.forall_mem_nil _, hstart⟩
  | cons type rest ih =>
      obtain ⟨htype, hrest⟩ := List.forall_mem_cons.mp htypes
      obtain ⟨hleft, hright, hjoin⟩ := hstart.join htype
      obtain ⟨hfold, hall, hbound⟩ := ih hjoin hrest
      exact ⟨hleft.trans hfold, List.forall_mem_cons.mpr ⟨hright.trans hfold, hall⟩, hbound⟩

/-- Types with a common bound all stand below their join. -/
theorem below_joinAll {types : List ValueType} {bound : ValueType}
    (htypes : ∀ type ∈ types, type.Below bound) : ∀ type ∈ types, type.Below (joinAll types) := by
  rw [joinAll_eq_foldl]
  exact (foldl_join_below (.unknown bound) htypes).2.1

/-- Joining types one after the other onto a type does not lead beyond its join with a bound of
them. -/
theorem join_accepts_foldl {types : List ValueType} {start bound : ValueType}
    (htypes : ∀ type ∈ types, type.Below bound) :
    (start.join bound).accepts (types.foldl join start) = true := by
  have hfold : ∀ reached, (start.join bound).accepts reached = true →
      (start.join bound).accepts (types.foldl join reached) = true := by
    induction types with
    | nil => exact fun _ hreached => hreached
    | cons type rest ih =>
        obtain ⟨htype, hrest⟩ := List.forall_mem_cons.mp htypes
        exact fun reached hreached => ih hrest _ (join_accepts_join hreached htype)
  exact hfold start (join_accepts_left start bound)

/-- The element types of the list types in a sequence. -/
def elementTypes (types : List ValueType) : List ValueType := types.filterMap element?

/-- Nothing but list types, and `any` for nulls. -/
def OnlyLists (types : List ValueType) : Prop :=
  ∀ type ∈ types, type = .any ∨ ∃ element, type = .list element

theorem foldl_join_list {types : List ValueType} (hlists : OnlyLists types)
    (element : ValueType) :
    types.foldl join (.list element) = .list ((elementTypes types).foldl join element) := by
  induction types generalizing element with
  | nil => rfl
  | cons type rest ih =>
      obtain ⟨htype, hrest⟩ := List.forall_mem_cons.mp hlists
      rcases htype with rfl | ⟨other, rfl⟩
      · exact ih hrest element
      · exact ih hrest (element.join other)

/-- The join of list types is the list type of the join of their elements, or there is no list type
among them. -/
theorem joinAll_lists {types : List ValueType} (hlists : OnlyLists types) :
    joinAll types = .list (joinAll (elementTypes types)) ∨
      joinAll types = .any ∧ ∀ type ∈ types, type = .any := by
  simp only [joinAll_eq_foldl]
  induction types with
  | nil => exact .inr ⟨rfl, List.forall_mem_nil _⟩
  | cons type rest ih =>
      obtain ⟨htype, hrest⟩ := List.forall_mem_cons.mp hlists
      rcases htype with rfl | ⟨other, rfl⟩
      · exact (ih hrest).imp_right (And.imp_right fun hall => List.forall_mem_cons.mpr ⟨rfl, hall⟩)
      · exact .inl (foldl_join_list hrest other)

/-- No clash among the types of the sequence is forgotten: they have a common bound, or their join
is `any`, as after a clash that nothing follows, or they are lists and the same holds of the element
types. -/
inductive Settled : List ValueType → Prop
  | bounded {types : List ValueType} (bound : ValueType)
      (hbelow : ∀ type ∈ types, type.Below bound) : Settled types
  | unknown {types : List ValueType} (hjoin : joinAll types = .any) : Settled types
  | lists {types : List ValueType} (hlists : OnlyLists types)
      (helements : Settled (elementTypes types)) : Settled types

theorem Settled.accepts {types : List ValueType} (hsettled : Settled types) :
    ∀ type ∈ types, (joinAll types).accepts type = true := by
  induction hsettled with
  | bounded _ hbelow => exact fun type htype => (below_joinAll hbelow type htype).accepts
  | unknown hjoin =>
      intro type _
      rw [hjoin]
      rfl
  | lists hlists _ ih =>
      intro type htype
      rcases hlists type htype with rfl | ⟨element, rfl⟩
      · exact accepts_any _
      · rcases joinAll_lists hlists with hjoin | ⟨_, hany⟩
        · rw [hjoin]
          exact ih element (List.mem_filterMap.mpr ⟨_, htype, rfl⟩)
        · cases hany _ htype

theorem settled_of_accepts {types : List ValueType}
    (haccepts : ∀ type ∈ types, (joinAll types).accepts type = true) : Settled types := by
  generalize hjoin : joinAll types = bound at haccepts
  induction bound generalizing types with
  | any => exact .unknown hjoin
  | list element ih =>
      have hlists : OnlyLists types := fun type htype =>
        (accepts_list_iff.mp (haccepts type htype)).imp_right fun ⟨inner, hinner, _⟩ =>
          ⟨inner, hinner⟩
      have helements : joinAll (elementTypes types) = element := by
        rcases joinAll_lists hlists with hlist | ⟨hany, _⟩
        · exact ValueType.list.inj (hlist.symm.trans hjoin)
        · cases hany.symm.trans hjoin
      refine .lists hlists (ih helements fun inner hinner => ?_)
      obtain ⟨type, htype, htypeInner⟩ := List.mem_filterMap.mp hinner
      rcases hlists type htype with rfl | ⟨_, rfl⟩
      · cases htypeInner
      · cases htypeInner
        exact haccepts _ htype
  | _ =>
      refine .bounded (joinAll types) fun type htype => ?_
      rw [hjoin]
      rcases accepts_iff.mp (haccepts type htype) with hany | hbelow | ⟨_, _, hlist, _⟩
      · cases hany
      · exact hbelow
      · cases hlist

/-- The join of a sequence accepts all of its types exactly where no clash is forgotten; and the
type of a list value is a list type whose element type is that join. -/
theorem joinAll_accepts_iff_settled (types : List ValueType) (items : List Value) :
    ((∀ type ∈ types, (joinAll types).accepts type = true) ↔ Settled types) ∧
    ∃ element, (Value.list items).type = .list element ∧
      ((∀ item ∈ items, element.accepts item.type = true) ↔
        Settled (items.map Value.type)) := by
  have hiff : ∀ types : List ValueType,
      (∀ type ∈ types, (joinAll types).accepts type = true) ↔ Settled types :=
    fun types => ⟨settled_of_accepts, Settled.accepts⟩
  refine ⟨hiff types, joinAll (items.map Value.type), ?_, ?_⟩
  · rw [Value.type, Value.types_eq_map]
  · rw [← hiff, List.forall_mem_map]

/-- Integers around a string: the clash is forgotten with the second integer, and the list
`[1, 'a', 2]` is typed as a list of integers. -/
theorem joinAll_integer_string_integer :
    joinAll [.integer, .string, .integer] = .integer ∧
    integer.accepts .string = false ∧
    (Value.list [.integer 1, .string "a", .integer 2]).type = .list .integer ∧
    integer.accepts (Value.string "a").type = false := by
  decide

end CypherExpr.ValueType
