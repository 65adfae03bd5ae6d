import CypherExpr.Operator.Arithmetic

/-!
# Sums and differences of points and durations

A point of the calendar or of the clock is moved by the duration on its right: in a sum by the
duration as it is, in a difference by its negation, so that one must exist.
-/

namespace CypherExpr.Arithmetic

/-- A value that a duration can move. -/
inductive IsPoint : Value → Prop where
  | date (day : Date) : IsPoint (.date day)
  | time (clock : TimeOfDay) : IsPoint (.time clock)
  | localDateTime (point : LocalDateTime) : IsPoint (.localDateTime point)
  | dateTime (point : ZonedDateTime) : IsPoint (.dateTime point)

variable {duration : Duration} {point later : Value}

theorem moved_eq_ok_iff {symbol : String} (left right : Value) :
    moved symbol duration point left right = .ok later ↔
      shift? duration point = some (some later) := by
  rw [moved]
  split
  · next result hshift =>
    rw [hshift]
    cases result <;> simp [checked]
  · next hshift =>
    rw [hshift]
    exact ⟨nofun, nofun⟩

theorem add_duration_eq_ok_iff (hpoint : IsPoint point) :
    add point (.duration duration) = .ok later ↔ shift? duration point = some (some later) := by
  have hadd : add point (.duration duration) =
      moved "+" duration point point (.duration duration) := by
    cases hpoint <;> rfl
  rw [hadd, moved_eq_ok_iff]

theorem subtract_of_negate {negated : Duration} (hpoint : IsPoint point)
    (hnegated : duration.negate = some negated) :
    subtract point (.duration duration) = moved "-" negated point point (.duration duration) := by
  cases hpoint <;> simp only [subtract, hnegated]

theorem subtract_of_negate_eq_none (hpoint : IsPoint point) (hnone : duration.negate = none) :
    subtract point (.duration duration) = .error (.overflow "-") := by
  cases hpoint <;> simp only [subtract, hnone, shift?]

theorem subtract_duration_eq_ok_iff (hpoint : IsPoint point) :
    subtract point (.duration duration) = .ok later ↔
      ∃ negated, duration.negate = some negated ∧ shift? negated point = some (some later) := by
  cases hnegate : duration.negate with
  | none =>
      rw [subtract_of_negate_eq_none hpoint hnegate]
      simp
  | some negated =>
      rw [subtract_of_negate hpoint hnegate, moved_eq_ok_iff]
      simp

theorem exists_of_add_durations {left right : Duration}
    (hsum : add (.duration left) (.duration right) = .ok later) :
    ∃ sum, left.add right = some sum ∧ later = .duration sum := by
  change checked "+" .duration (left.add right) = .ok later at hsum
  cases hadd : left.add right with
  | none =>
      rw [hadd] at hsum
      cases hsum
  | some sum =>
      rw [hadd] at hsum
      cases hsum
      exact ⟨sum, rfl, rfl⟩

end CypherExpr.Arithmetic
