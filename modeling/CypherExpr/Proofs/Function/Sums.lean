import CypherExpr.Proofs.Function.Extremes
import Mathlib.Data.List.Infix
import Mathlib.Data.List.ReduceOption

/-!
# Sums of integers

The sum of a column of integers is checked after every entry.  It is the exact sum if no sum on the
way leaves the range of words, and an overflow otherwise, even where later entries would have led
back.  Nulls are left out before the first entry is added, so it does not matter where they stand.
-/

namespace CypherExpr.Aggregate

/-- The sum of words in exact integers. -/
def exactSum : List Int64 → Int
  | [] => 0
  | word :: rest => word.toInt + exactSum rest

/-- No sum of a start and the first words leaves the range of words. -/
def StaysInRange (start : Int) (words : List Int64) : Prop :=
  ∀ front, front <+: words → Checked.Fits (start + exactSum front)

theorem staysInRange_nil (start : Int64) : StaysInRange start.toInt [] := by
  intro front hfront
  rw [List.prefix_nil.mp hfront, exactSum, Int.add_zero]
  exact Checked.fits_toInt start

theorem staysInRange_cons {start : Int64} {word : Int64} {rest : List Int64} :
    StaysInRange start.toInt (word :: rest) ↔ StaysInRange (start.toInt + word.toInt) rest := by
  constructor
  · intro hall front hfront
    rw [Int.add_assoc, ← exactSum]
    exact hall (word :: front) (List.cons_prefix_cons.mpr ⟨rfl, hfront⟩)
  · intro hrest front hfront
    rcases List.prefix_cons_iff.mp hfront with rfl | ⟨later, rfl, hlater⟩
    · exact staysInRange_nil start [] List.nil_prefix
    · rw [exactSum, ← Int.add_assoc]
      exact hrest later hlater

/-- One step: the next sum, or an overflow if that is no word. -/
theorem addEntry_integers (total word : Int64) :
    addEntry (.integer total) (.integer word) =
      (Checked.add total word).elim (.error (.overflow "sum")) fun sum => .ok (.integer sum) := by
  rw [addEntry]
  cases Checked.add total word <;> rfl

section Run

variable {total : Int64} {words : List Int64}

/-- A run that stays in the range of words ends with the exact sum. -/
theorem foldlM_addEntry_of_staysInRange (hstays : StaysInRange total.toInt words) :
    ∃ sum : Int64, (words.map Value.integer).foldlM addEntry (.integer total) =
        .ok (.integer sum) ∧ sum.toInt = total.toInt + exactSum words := by
  induction words generalizing total with
  | nil => exact ⟨total, rfl, (Int.add_zero _).symm⟩
  | cons word rest ih =>
      rw [staysInRange_cons] at hstays
      cases hnext : Checked.add total word with
      | none =>
          have hfits := hstays [] List.nil_prefix
          rw [exactSum, Int.add_zero] at hfits
          exact absurd hfits (Checked.narrow_eq_none_iff.mp hnext)
      | some next =>
          have hexact := Checked.narrow_eq_some_iff.mp hnext
          rw [← hexact] at hstays
          obtain ⟨sum, hsum, hvalue⟩ := ih hstays
          refine ⟨sum, ?_, by rw [hvalue, hexact, exactSum, Int.add_assoc]⟩
          rw [List.map_cons, List.foldlM_cons, addEntry_integers, hnext]
          exact hsum

/-- A run that leaves the range of words stops there. -/
theorem foldlM_addEntry_of_leaves (hleaves : ¬ StaysInRange total.toInt words) :
    (words.map Value.integer).foldlM addEntry (.integer total) = .error (.overflow "sum") := by
  induction words generalizing total with
  | nil => exact absurd (staysInRange_nil total) hleaves
  | cons word rest ih =>
      rw [List.map_cons, List.foldlM_cons, addEntry_integers]
      cases hnext : Checked.add total word with
      | none => rfl
      | some next =>
          rw [staysInRange_cons, ← Checked.narrow_eq_some_iff.mp hnext] at hleaves
          exact ih hleaves

end Run

/-- A column of integers and nulls. -/
def integerColumn (entries : List (Option Int64)) : List Value :=
  entries.map fun entry => .ofOption (entry.map .integer)

theorem entriesOf_integerColumn (entries : List (Option Int64)) :
    entriesOf (integerColumn entries) = entries.reduceOption.map .integer := by
  induction entries with
  | nil => rfl
  | cons entry rest ih =>
      cases entry with
      | none => exact ih
      | some word => exact congrArg (Value.integer word :: ·) ih

theorem sum_integerColumn (entries : List (Option Int64)) :
    sum [.list (integerColumn entries)] =
      (entries.reduceOption.map Value.integer).foldlM addEntry (.integer 0) := by
  rw [← entriesOf_integerColumn]
  rfl

/-- The sum of a column of integers and nulls is the integer that is the exact sum, if that of the
first few integers is a word however many they are, and an overflow otherwise.  It does not depend
on how many nulls there are and where they stand. -/
theorem sum_integers (entries : List (Option Int64)) :
    ((∀ front, front <+: entries.reduceOption → Checked.Fits (exactSum front)) →
      ∃ total, sum [.list (integerColumn entries)] = .ok (.integer total) ∧
        total.toInt = exactSum entries.reduceOption) ∧
    ((∃ front, front <+: entries.reduceOption ∧ ¬ Checked.Fits (exactSum front)) →
      sum [.list (integerColumn entries)] = .error (.overflow "sum")) ∧
    ∀ others : List (Option Int64), others.reduceOption = entries.reduceOption →
      sum [.list (integerColumn others)] = sum [.list (integerColumn entries)] := by
  have hstays : StaysInRange (0 : Int64).toInt entries.reduceOption ↔
      ∀ front, front <+: entries.reduceOption → Checked.Fits (exactSum front) := by
    simp [StaysInRange]
  simp only [sum_integerColumn]
  refine ⟨fun hall => ?_, fun ⟨front, hfront, hleaves⟩ => ?_, fun others hothers => ?_⟩
  · obtain ⟨total, hsum, hvalue⟩ := foldlM_addEntry_of_staysInRange (hstays.mpr hall)
    exact ⟨total, hsum, hvalue.trans (Int.zero_add _)⟩
  · exact foldlM_addEntry_of_leaves fun hall => hleaves (hstays.mp hall front hfront)
  · rw [hothers]

/-- Of the greatest word, 1 and -5 the sum is a word, but it is found only if -5 comes before 1. -/
theorem sum_integers_aroundGreatest :
    ((∀ front, front <+: [some Int64.maxValue, none, some (-5), some 1].reduceOption →
        Checked.Fits (exactSum front)) ∧
      (∃ front, front <+: [some Int64.maxValue, none, some 1, some (-5)].reduceOption ∧
        ¬ Checked.Fits (exactSum front)) ∧
      [none, some Int64.maxValue, some 1, none, some (-5)].reduceOption =
        [some Int64.maxValue, none, some 1, some (-5)].reduceOption) ∧
    sum [.list (integerColumn [some Int64.maxValue, none, some (-5), some 1])] =
      .ok (.integer 9223372036854775803) ∧
    sum [.list (integerColumn [some Int64.maxValue, none, some 1, some (-5)])] =
      .error (.overflow "sum") ∧
    sum [.list (integerColumn [none, some Int64.maxValue, some 1, none, some (-5)])] =
      .error (.overflow "sum") := by
  have hall : ∀ front, front <+: [some Int64.maxValue, none, some (-5), some 1].reduceOption →
      Checked.Fits (exactSum front) := by
    have hinits : ∀ front ∈ [Int64.maxValue, -5, 1].inits, Checked.Fits (exactSum front) := by
      decide
    exact fun front hfront => hinits front ((List.mem_inits front _).mpr hfront)
  have hleaves : ∃ front, front <+: [some Int64.maxValue, none, some 1, some (-5)].reduceOption ∧
      ¬ Checked.Fits (exactSum front) :=
    ⟨[Int64.maxValue, 1], ⟨[-5], rfl⟩, by decide⟩
  obtain ⟨total, hsum, hvalue⟩ :=
    (sum_integers [some Int64.maxValue, none, some (-5), some 1]).1 hall
  obtain ⟨-, hoverflow, hnulls⟩ := sum_integers [some Int64.maxValue, none, some 1, some (-5)]
  have htotal : total = 9223372036854775803 := Int64.toInt_inj.mp (hvalue.trans (by decide))
  subst htotal
  exact ⟨⟨hall, hleaves, rfl⟩, hsum, hoverflow hleaves, (hnulls _ rfl).trans (hoverflow hleaves)⟩

end CypherExpr.Aggregate
