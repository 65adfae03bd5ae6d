import CypherExpr.Function.Aggregate
import CypherExpr.Proofs.Value.Duality

/-!
# Least and greatest entries of a column

The pass over a column keeps the best entry so far and fails at the first entry that cannot be
ordered against it.  Since the order is transitive wherever it is defined, the entry that is left
at the end can be ordered against all others, beats those before it and is beaten by none after it,
although the pass has compared it with few of them.  Hence two orders of the rows that both succeed
agree.  They need not both succeed: an incomparable pair is met only if one of the two is the best
when the other arrives.
-/

namespace CypherExpr.Aggregate

/-- The two values can be ordered. -/
def Comparable (left right : Value) : Prop := ∃ outcome, left.order right = some outcome

/-- The other value can be ordered against the best one and does not beat it. -/
def Bounds (wanted : Ordering) (best other : Value) : Prop :=
  ∃ outcome, other.order best = some outcome ∧ outcome ≠ wanted

/-- The value is an entry that bounds all the others. -/
def IsExtreme (wanted : Ordering) (entries : List Value) (value : Value) : Prop :=
  ∃ others, entries.Perm (value :: others) ∧ ∀ other ∈ others, Bounds wanted value other

/-- The value is an entry that beats all before it and bounds all after it. -/
def IsFirstExtreme (wanted : Ordering) (entries : List Value) (value : Value) : Prop :=
  ∃ before after, entries = before ++ value :: after ∧
    (∀ entry ∈ before, value.order entry = some wanted) ∧
    ∀ entry ∈ after, Bounds wanted value entry

/-- The entries of a column that count. -/
def entriesOf (column : List Value) : List Value := column.filter fun value => !value.isNull

theorem Comparable.symm {left right : Value} (hordered : Comparable left right) :
    Comparable right left := by
  obtain ⟨outcome, houtcome⟩ := hordered
  exact ⟨outcome.swap, by rw [Value.order_swap, houtcome, Option.map_some]⟩

theorem bounds_iff_swap {wanted : Ordering} {best other : Value} :
    Bounds wanted best other ↔
      ∃ outcome, best.order other = some outcome ∧ outcome ≠ wanted.swap := by
  constructor
  · rintro ⟨outcome, hother, hne⟩
    refine ⟨outcome.swap, by rw [Value.order_swap, hother, Option.map_some], fun heq => hne ?_⟩
    exact Ordering.swap_inj.mp heq
  · rintro ⟨outcome, hbest, hne⟩
    refine ⟨outcome.swap, by rw [Value.order_swap, hbest, Option.map_some], fun heq => hne ?_⟩
    rw [← heq, Ordering.swap_swap]

section Bounds

variable {wanted : Ordering} {x y z : Value}

theorem bounds_iff (hwanted : wanted ≠ .eq) :
    Bounds wanted x y ↔ x.order y = some wanted ∨ x.order y = some .eq := by
  rw [bounds_iff_swap]
  cases x.order y with
  | none => simp
  | some outcome => cases wanted <;> cases outcome <;> simp_all

/-- What beats an entry beats all that this entry bounds. -/
theorem beats_of_bounds (hwanted : wanted ≠ .eq) (hxy : x.order y = some wanted)
    (hyz : Bounds wanted y z) : x.order z = some wanted := by
  cases wanted with
  | eq => exact absurd rfl hwanted
  | lt =>
      rcases (bounds_iff hwanted).mp hyz with hyz | hyz
      · exact x.climbs hxy hyz nofun nofun
      · exact x.climbs hxy hyz nofun nofun
  | gt =>
      obtain ⟨outcome, hzy, hne⟩ := hyz
      have hyx : y.order x = some .lt := by
        rw [Value.order_swap, hxy]
        rfl
      have hzx : z.order x = some .lt := by
        rw [z.climbs hzy hyx hne nofun]
        cases outcome <;> simp_all
      rw [Value.order_swap, hzx]
      rfl

/-- Entries that bound each other are ordered as equal. -/
theorem order_of_bounds (hwanted : wanted ≠ .eq) (hxy : Bounds wanted x y)
    (hyx : Bounds wanted y x) : x.order y = some .eq := by
  obtain ⟨outcome, houtcome, hne⟩ := hyx
  obtain ⟨outcome', houtcome', hne'⟩ := bounds_iff_swap.mp hxy
  cases houtcome.symm.trans houtcome'
  cases wanted <;> cases outcome <;> simp_all

end Bounds

/-! ## The first extreme entry -/

namespace IsFirstExtreme

variable {wanted : Ordering} {best entry value : Value} {entries rest : List Value}

theorem head (hfirst : IsFirstExtreme wanted (entry :: entries) value) :
    value = entry ∨ value.order entry = some wanted := by
  obtain ⟨before, after, hsplit, hbefore, _⟩ := hfirst
  cases before with
  | nil => exact .inl (List.cons.inj hsplit).1.symm
  | cons first before =>
      cases hsplit
      exact .inr (hbefore entry List.mem_cons_self)

theorem cons (hfirst : IsFirstExtreme wanted entries value)
    (hvalue : value.order entry = some wanted) :
    IsFirstExtreme wanted (entry :: entries) value := by
  obtain ⟨before, after, rfl, hbefore, hafter⟩ := hfirst
  exact ⟨entry :: before, after, rfl, List.forall_mem_cons.mpr ⟨hvalue, hbefore⟩, hafter⟩

/-- An entry that another bounds can stand behind that one. -/
theorem insert (hfirst : IsFirstExtreme wanted (best :: rest) value) (hwanted : wanted ≠ .eq)
    (hbounds : Bounds wanted best entry) : IsFirstExtreme wanted (best :: entry :: rest) value := by
  obtain ⟨before, after, hsplit, hbefore, hafter⟩ := hfirst
  cases before with
  | nil =>
      cases hsplit
      exact ⟨[], entry :: rest, rfl, nofun, List.forall_mem_cons.mpr ⟨hbounds, hafter⟩⟩
  | cons first before =>
      cases hsplit
      obtain ⟨hbest, hrest⟩ := List.forall_mem_cons.mp hbefore
      have hentry := beats_of_bounds hwanted hbest hbounds
      exact ⟨best :: entry :: before, after, rfl,
        List.forall_mem_cons.mpr ⟨hbest, List.forall_mem_cons.mpr ⟨hentry, hrest⟩⟩, hafter⟩

theorem isExtreme (hfirst : IsFirstExtreme wanted entries value) (hwanted : wanted ≠ .eq) :
    IsExtreme wanted entries value := by
  obtain ⟨before, after, rfl, hbefore, hafter⟩ := hfirst
  refine ⟨before ++ after, List.perm_middle, List.forall_mem_append.mpr ⟨?_, hafter⟩⟩
  intro entry hentry
  exact (bounds_iff hwanted).mpr (.inl (hbefore entry hentry))

end IsFirstExtreme

/-! ## One step and the whole pass -/

section Pass

variable {name : String} {wanted : Ordering} {best entry next value : Value} {rest : List Value}

theorem better_eq_ok_iff :
    better name wanted best entry = .ok next ↔
      (entry.order best = some wanted ∧ next = entry) ∨
        (Bounds wanted best entry ∧ next = best) := by
  rw [better, Bounds]
  cases entry.order best with
  | none => simp
  | some outcome =>
      by_cases heq : outcome = wanted
      · simp [heq, eq_comm (a := next)]
      · simp [heq, eq_comm (a := next)]

variable (name wanted) in
theorem exists_better (hordered : Comparable entry best) :
    ∃ next, better name wanted best entry = .ok next ∧ (next = best ∨ next = entry) := by
  obtain ⟨outcome, houtcome⟩ := hordered
  rw [better, houtcome]
  refine ⟨_, rfl, ?_⟩
  split
  · exact .inr rfl
  · exact .inl rfl

theorem foldlM_cons (hstep : better name wanted best entry = .ok next) :
    (entry :: rest).foldlM (better name wanted) best =
      rest.foldlM (better name wanted) next := by
  rw [List.foldlM_cons, hstep]
  rfl

/-- What the pass ends with is the first of the extreme entries. -/
theorem isFirstExtreme_of_foldlM (hwanted : wanted ≠ .eq)
    (hpass : rest.foldlM (better name wanted) best = .ok value) :
    IsFirstExtreme wanted (best :: rest) value := by
  induction rest generalizing best with
  | nil =>
      cases hpass
      exact ⟨[], [], rfl, nofun, nofun⟩
  | cons entry rest ih =>
      cases hstep : better name wanted best entry with
      | error cause =>
          rw [List.foldlM_cons, hstep] at hpass
          cases hpass
      | ok next =>
          rw [foldlM_cons hstep] at hpass
          have hfirst := ih hpass
          rcases better_eq_ok_iff.mp hstep with ⟨hbeats, rfl⟩ | ⟨hbounds, rfl⟩
          · refine hfirst.cons ?_
            rcases hfirst.head with rfl | hvalue
            · exact hbeats
            · exact beats_of_bounds hwanted hvalue ((bounds_iff hwanted).mpr (.inl hbeats))
          · exact hfirst.insert hwanted hbounds

/-- The pass keeps an entry that bounds all that follow. -/
theorem foldlM_of_bounds (hbounds : ∀ entry ∈ rest, Bounds wanted best entry) :
    rest.foldlM (better name wanted) best = .ok best := by
  induction rest with
  | nil => rfl
  | cons entry rest ih =>
      rw [List.forall_mem_cons] at hbounds
      rw [foldlM_cons (better_eq_ok_iff.mpr (.inr ⟨hbounds.1, rfl⟩))]
      exact ih hbounds.2

theorem exists_foldlM_of_comparable (hordered : (best :: rest).Pairwise Comparable) :
    ∃ value, rest.foldlM (better name wanted) best = .ok value := by
  induction rest generalizing best with
  | nil => exact ⟨best, rfl⟩
  | cons entry rest ih =>
      obtain ⟨hbest, hrest⟩ := List.pairwise_cons.mp hordered
      obtain ⟨next, hstep, hnext⟩ :=
        exists_better name wanted (hbest entry List.mem_cons_self).symm
      rw [foldlM_cons hstep]
      apply ih
      rcases hnext with rfl | rfl
      · exact hordered.sublist ((List.sublist_cons_self entry rest).cons_cons next)
      · exact hrest

end Pass

/-! ## Columns in every order -/

section Columns

variable {name : String} {wanted : Ordering} {column : List Value} {value : Value}

theorem isExtreme_of_perm {entries moved : List Value} (hperm : entries.Perm moved)
    (hextreme : IsExtreme wanted entries value) : IsExtreme wanted moved value :=
  hextreme.imp fun _ hothers => ⟨hperm.symm.trans hothers.1, hothers.2⟩

theorem extreme_of_nil (hentries : entriesOf column = []) :
    extreme name wanted [.list column] = .ok .null := by
  have hcolumn : Aggregate.column name [.list column] = .ok [] := congrArg Except.ok hentries
  rw [extreme, hcolumn]
  rfl

theorem extreme_of_cons {first : Value} {rest : List Value}
    (hentries : entriesOf column = first :: rest) :
    extreme name wanted [.list column] = rest.foldlM (better name wanted) first := by
  have hcolumn : Aggregate.column name [.list column] = .ok (first :: rest) :=
    congrArg Except.ok hentries
  rw [extreme, hcolumn]
  rfl

/-- The aggregate gives null where no entry counts, and else the first extreme entry. -/
theorem isFirstExtreme_of_extreme (hwanted : wanted ≠ .eq)
    (hok : extreme name wanted [.list column] = .ok value) :
    (entriesOf column = [] ∧ value = .null) ∨
      IsFirstExtreme wanted (entriesOf column) value := by
  cases hentries : entriesOf column with
  | nil =>
      rw [extreme_of_nil hentries] at hok
      cases hok
      exact .inl ⟨rfl, rfl⟩
  | cons first rest =>
      rw [extreme_of_cons hentries] at hok
      exact .inr (isFirstExtreme_of_foldlM hwanted hok)

theorem isExtreme_of_extreme (hwanted : wanted ≠ .eq)
    (hok : extreme name wanted [.list column] = .ok value) :
    (entriesOf column = [] ∧ value = .null) ∨ IsExtreme wanted (entriesOf column) value :=
  (isFirstExtreme_of_extreme hwanted hok).imp_right fun hfirst => hfirst.isExtreme hwanted

/-- The nulls of a column can stand anywhere, so any order of its entries is that of some column. -/
theorem exists_column {entries : List Value} (hperm : (entriesOf column).Perm entries) :
    ∃ other, column.Perm other ∧ entriesOf other = entries := by
  have hentries : ∀ entry ∈ entries, (!entry.isNull) = true := fun entry hentry =>
    (List.mem_filter.mp (hperm.mem_iff.mpr hentry)).2
  refine ⟨entries ++ column.filter fun value => !!value.isNull, ?_, ?_⟩
  · exact (List.filter_append_perm _ column).symm.trans (hperm.append_right _)
  · rw [entriesOf, List.filter_append, List.filter_eq_self.mpr hentries, List.filter_filter]
    simp

theorem entriesOf_perm {other : List Value} (hperm : column.Perm other) :
    (entriesOf column).Perm (entriesOf other) := hperm.filter _

/-- Two orders of a column that both succeed agree. -/
theorem extreme_agrees (hwanted : wanted ≠ .eq) {other : List Value} {value' : Value}
    (hperm : column.Perm other) (hok : extreme name wanted [.list column] = .ok value)
    (hok' : extreme name wanted [.list other] = .ok value') :
    value = value' ∨ value.order value' = some .eq := by
  have hentries := entriesOf_perm hperm
  rcases isExtreme_of_extreme hwanted hok with ⟨hnil, rfl⟩ | ⟨others, hothers, hbounds⟩
  · rw [hnil, List.nil_perm] at hentries
    rw [extreme_of_nil hentries] at hok'
    exact .inl (Except.ok.inj hok')
  · rcases isExtreme_of_extreme hwanted hok' with ⟨hnil, _⟩ | ⟨others', hothers', hbounds'⟩
    · rw [hnil, List.perm_nil] at hentries
      rw [hentries] at hothers
      cases List.nil_perm.mp hothers
    · -- each of the two is among the entries that the other one bounds
      have hsame := hothers.symm.trans (hentries.trans hothers')
      rcases List.mem_cons.mp (hsame.mem_iff.mp List.mem_cons_self) with rfl | hvalue
      · exact .inl rfl
      rcases List.mem_cons.mp (hsame.mem_iff.mpr List.mem_cons_self) with rfl | hvalue'
      · exact .inl rfl
      exact .inr (order_of_bounds hwanted (hbounds _ hvalue') (hbounds' _ hvalue))

theorem succeedsInAll_iff :
    (∀ other, column.Perm other → ∃ value, extreme name wanted [.list other] = .ok value) ↔
      (entriesOf column).Pairwise Comparable := by
  constructor
  · intro hall
    apply List.pairwise_iff_forall_sublist.mpr
    intro left right hpair
    -- The order in which the two come first makes the pass compare them at once.
    obtain ⟨rest, hrest⟩ := hpair.exists_perm_append
    obtain ⟨other, hother, hentries⟩ := exists_column hrest
    obtain ⟨value, hvalue⟩ := hall other hother
    rw [extreme_of_cons hentries] at hvalue
    change (right :: rest).foldlM (better name wanted) left = .ok value at hvalue
    cases hordered : right.order left with
    | some outcome => exact Comparable.symm ⟨outcome, hordered⟩
    | none =>
        have hfails : ∃ cause, better name wanted left right = .error cause := by
          rw [better, hordered]
          exact ⟨_, rfl⟩
        obtain ⟨cause, hcause⟩ := hfails
        rw [List.foldlM_cons, hcause] at hvalue
        cases hvalue
  · intro hordered other hperm
    have hentries := (entriesOf_perm hperm).pairwise_iff (fun h => h.symm) |>.mp hordered
    cases hother : entriesOf other with
    | nil => exact ⟨.null, extreme_of_nil hother⟩
    | cons first rest =>
        rw [hother] at hentries
        rw [extreme_of_cons hother]
        exact exists_foldlM_of_comparable hentries

theorem succeedsInSome_iff (hwanted : wanted ≠ .eq) :
    (∃ other value, column.Perm other ∧ extreme name wanted [.list other] = .ok value) ↔
      entriesOf column = [] ∨ ∃ value, IsExtreme wanted (entriesOf column) value := by
  constructor
  · rintro ⟨other, value, hperm, hok⟩
    have hentries := entriesOf_perm hperm
    rcases isExtreme_of_extreme hwanted hok with ⟨hnil, _⟩ | hextreme
    · rw [hnil, List.perm_nil] at hentries
      exact .inl hentries
    · exact .inr ⟨value, isExtreme_of_perm hentries.symm hextreme⟩
  · rintro (hnil | ⟨value, others, hothers, hbounds⟩)
    · exact ⟨column, .null, .refl _, extreme_of_nil hnil⟩
    · obtain ⟨other, hother, hentries⟩ := exists_column hothers
      refine ⟨other, value, hother, ?_⟩
      rw [extreme_of_cons hentries]
      exact foldlM_of_bounds hbounds

end Columns

/-- How an aggregate that looks for the best entry depends on the order of the rows. -/
structure RowOrder (aggregate : List Value → Result Value) (wanted : Ordering) : Prop where
  /-- The result is null where no entry counts, and else an entry that bounds all others. -/
  result : ∀ column value, aggregate [.list column] = .ok value →
    (entriesOf column = [] ∧ value = .null) ∨ IsExtreme wanted (entriesOf column) value
  /-- Two orders that both succeed have one result, or results that are ordered as equal. -/
  agrees : ∀ column other value value', column.Perm other →
    aggregate [.list column] = .ok value → aggregate [.list other] = .ok value' →
    value = value' ∨ value.order value' = some .eq
  succeedsInAll : ∀ column,
    (∀ other, column.Perm other → ∃ value, aggregate [.list other] = .ok value) ↔
      (entriesOf column).Pairwise Comparable
  succeedsInSome : ∀ column,
    (∃ other value, column.Perm other ∧ aggregate [.list other] = .ok value) ↔
      entriesOf column = [] ∨ ∃ value, IsExtreme wanted (entriesOf column) value

theorem extreme_rowOrder (name : String) {wanted : Ordering} (hwanted : wanted ≠ .eq) :
    RowOrder (extreme name wanted) wanted where
  result _ _ := isExtreme_of_extreme hwanted
  agrees _ _ _ _ := extreme_agrees hwanted
  succeedsInAll _ := succeedsInAll_iff
  succeedsInSome _ := succeedsInSome_iff hwanted

/-- Whatever the order of a column, where the least entry is found it is the same one up to the
order of values, and so is the greatest.  It is found in every order exactly where all entries can
be ordered against each other, and in some order exactly where one entry bounds all the others or
there is none. -/
theorem min_max_rowOrder : RowOrder min .lt ∧ RowOrder max .gt :=
  ⟨extreme_rowOrder "min" nofun, extreme_rowOrder "max" nofun⟩

/-- The lists `[1, 'x']` and `[1, 2]` cannot be ordered.  The pass compares them if they come
first, and not if `[0]`, which is less than both, comes first. -/
theorem min_incomparableLists :
    [Value.list [.integer 1, .string "x"], .list [.integer 1, .integer 2],
        .list [.integer 0]].Perm
      [.list [.integer 0], .list [.integer 1, .string "x"], .list [.integer 1, .integer 2]] ∧
    min [.list [.list [.integer 1, .string "x"], .list [.integer 1, .integer 2],
        .list [.integer 0]]] =
      .error (.invocation "min" "cannot compare List with List") ∧
    min [.list [.list [.integer 0], .list [.integer 1, .string "x"],
        .list [.integer 1, .integer 2]]] =
      .ok (.list [.integer 0]) :=
  ⟨@List.perm_append_comm _ [_, _] [_], rfl, rfl⟩

/-! ## The place of the result in the column -/

/-- The value is null exactly if nothing else stands in the column.  Otherwise it is the entry at
some place, beats every entry that counts before it and is beaten by none after it. -/
structure FirstOfColumn (wanted : Ordering) (column : List Value) (value : Value) : Prop where
  null_iff : value = .null ↔ ∀ entry ∈ column, entry = .null
  place : value ≠ .null → ∃ before after, column = before ++ value :: after ∧
    (∀ entry ∈ before, entry ≠ .null → value.order entry = some wanted) ∧
    ∀ entry ∈ after, entry ≠ .null →
      value.order entry = some wanted ∨ value.order entry = some .eq

theorem isNull_iff {value : Value} : value.isNull = true ↔ value = .null := by
  cases value <;> simp [Value.isNull]

theorem mem_entriesOf {column : List Value} {entry : Value} :
    entry ∈ entriesOf column ↔ entry ∈ column ∧ entry ≠ .null := by
  rw [entriesOf, List.mem_filter, Bool.not_eq_true', ← Bool.not_eq_true, isNull_iff]

theorem firstOfColumn_of_extreme {name : String} {wanted : Ordering} {column : List Value}
    {value : Value} (hwanted : wanted ≠ .eq)
    (hok : extreme name wanted [.list column] = .ok value) :
    FirstOfColumn wanted column value := by
  rcases isFirstExtreme_of_extreme hwanted hok with ⟨hnil, rfl⟩ | hfirst
  · refine ⟨iff_of_true rfl fun entry hentry => ?_, fun hvalue => absurd rfl hvalue⟩
    exact isNull_iff.mp (by simpa using List.filter_eq_nil_iff.mp hnil entry hentry)
  · obtain ⟨before, after, hsplit, hbefore, hafter⟩ := hfirst
    have hvalue : value ∈ column ∧ value ≠ .null :=
      mem_entriesOf.mp (hsplit ▸ List.mem_append_right before List.mem_cons_self)
    refine ⟨iff_of_false hvalue.2 fun hall => hvalue.2 (hall value hvalue.1), fun _ => ?_⟩
    obtain ⟨front, rest, rfl, rfl, hrest⟩ := List.filter_eq_append_iff.mp hsplit
    obtain ⟨nulls, back, rfl, hnulls, _, rfl⟩ := List.filter_eq_cons_iff.mp hrest
    refine ⟨front ++ nulls, back, by rw [List.append_assoc], fun entry hentry hcounts => ?_,
      fun entry hentry hcounts => ?_⟩
    · rcases List.mem_append.mp hentry with hfront | hnull
      · exact hbefore entry (mem_entriesOf.mpr ⟨hfront, hcounts⟩)
      · exact absurd (isNull_iff.mp (by simpa using hnulls entry hnull)) hcounts
    · exact (bounds_iff hwanted).mp (hafter entry (mem_entriesOf.mpr ⟨hentry, hcounts⟩))

/-- Where the aggregates give a result it is the first least entry of the column, or the first
greatest. -/
theorem min_max_first {column : List Value} {value : Value} :
    (min [.list column] = .ok value → FirstOfColumn .lt column value) ∧
      (max [.list column] = .ok value → FirstOfColumn .gt column value) :=
  ⟨firstOfColumn_of_extreme nofun, firstOfColumn_of_extreme nofun⟩

/-- The column of null, `[2]`, `[1, 'x']`, `[1.0, 'x']` and null. -/
def tiedLists : List Value :=
  [.null, .list [.integer 2], .list [.integer 1, .string "x"], .list [.float 1.0, .string "x"],
    .null]

/-- Of `[1, 'x']` and `[1.0, 'x']`, which are both least, the first is the result. -/
theorem min_max_first_tiedLists :
    (min [.list tiedLists] = .ok (.list [.integer 1, .string "x"]) ∧
      max [.list tiedLists] = .ok (.list [.integer 2])) ∧
    FirstOfColumn .lt tiedLists (.list [.integer 1, .string "x"]) ∧
      FirstOfColumn .gt tiedLists (.list [.integer 2]) := by
  have htie : (Value.list [.float 1.0, .string "x"]).order (.list [.integer 1, .string "x"]) =
      some .eq := by decide +kernel
  have hless : (Value.list [.float 1.0, .string "x"]).order (.list [.integer 2]) = some .lt := by
    decide +kernel
  have hentries : entriesOf tiedLists =
      [.list [.integer 2], .list [.integer 1, .string "x"], .list [.float 1.0, .string "x"]] := rfl
  have hmin : min [.list tiedLists] = .ok (.list [.integer 1, .string "x"]) := by
    have hbeats : (Value.list [.integer 1, .string "x"]).order (.list [.integer 2]) = some .lt := by
      decide
    rw [min, extreme_of_cons hentries, foldlM_cons (better_eq_ok_iff.mpr (.inl ⟨hbeats, rfl⟩))]
    exact foldlM_of_bounds (List.forall_mem_singleton.mpr ⟨.eq, htie, nofun⟩)
  have hmax : max [.list tiedLists] = .ok (.list [.integer 2]) := by
    rw [max, extreme_of_cons hentries]
    refine foldlM_of_bounds (List.forall_mem_cons.mpr ⟨⟨.lt, by decide, nofun⟩, ?_⟩)
    exact List.forall_mem_singleton.mpr ⟨.lt, hless, nofun⟩
  exact ⟨⟨hmin, hmax⟩, min_max_first.1 hmin, min_max_first.2 hmax⟩

end CypherExpr.Aggregate
