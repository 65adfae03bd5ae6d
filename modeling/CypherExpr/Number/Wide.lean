import CypherExpr.Number.Checked

/-!
# Calculations in 128-bit integers

Sums and products of 64-bit components are formed in signed words of twice the width.  A checked
step of such a calculation gives up where its exact result does not fit.  An unchecked step has to
fit: a result beyond the word would pass for another number, and nothing would report it. -/

namespace CypherExpr.Wide

/-- The integers that a 128-bit signed word can hold, from `-2 ^ 127` up to but not with
`2 ^ 127`. -/
def Fits (value : Int) : Prop :=
  -170141183460469231731687303715884105728 ≤ value ∧
    value < 170141183460469231731687303715884105728

instance (value : Int) : Decidable (Fits value) := by unfold Fits; infer_instance

/-- Why a calculation has no result. -/
inductive Failure where
  /-- A checked step did not fit. -/
  | refused
  /-- An unchecked step left the range of its word. -/
  | overflowed
  deriving DecidableEq

/-- A calculation in steps, up to the first that fails. -/
abbrev Calculation (α : Type) := Except Failure α

def checked (value : Int) : Calculation Int :=
  if Fits value then .ok value else .error .refused

def unchecked (value : Int) : Calculation Int :=
  if Fits value then .ok value else .error .overflowed

/-- The quotient, truncated toward zero, of a division that is not checked. -/
def quotient (left right : Int) : Calculation Int := unchecked (left.tdiv right)

/-- The remainder of the truncated quotient.  It is undefined exactly where the quotient is. -/
def remainder (left right : Int) : Calculation Int :=
  (quotient left right).map fun _ => left.tmod right

/-- A step in 64-bit words, which is always checked. -/
def ofOption {α : Type} : Option α → Calculation α
  | some value => .ok value
  | none => .error .refused

@[simp]
theorem ok_bind {α β : Type} (value : α) (next : α → Calculation β) :
    (Except.ok value : Calculation α) >>= next = next value := rfl

theorem checked_of_fits {value : Int} (hfits : Fits value) : checked value = .ok value :=
  if_pos hfits

theorem checked_of_not_fits {value : Int} (hfits : ¬ Fits value) :
    checked value = .error .refused :=
  if_neg hfits

theorem unchecked_of_fits {value : Int} (hfits : Fits value) : unchecked value = .ok value :=
  if_pos hfits

@[simp]
theorem toOption_ofOption {α : Type} (result : Option α) :
    (ofOption result).toOption = result := by
  cases result <;> rfl

theorem ofOption_ne_overflowed {α : Type} (result : Option α) :
    ofOption result ≠ .error .overflowed := by
  cases result <;> nofun

end CypherExpr.Wide
