/-!
# Checked 64-bit integers

Integer values are 64-bit and signed.  Arithmetic is done on exact integers and the result is
narrowed at the end, so an operation fails exactly when its exact result does not fit.
-/

namespace CypherExpr.Checked

/-- The integers that a 64-bit signed word can hold, from `-2 ^ 63` up to but not with `2 ^ 63`. -/
def Fits (value : Int) : Prop :=
  -9223372036854775808 ≤ value ∧ value < 9223372036854775808

instance (value : Int) : Decidable (Fits value) := by unfold Fits; infer_instance

/-- The word that holds an exact integer, if there is one. -/
def narrow (value : Int) : Option Int64 :=
  if Fits value then some (Int64.ofInt value) else none

theorem fits_toInt (word : Int64) : Fits word.toInt :=
  ⟨Int64.le_toInt word, Int64.toInt_lt word⟩

theorem toInt_ofInt {value : Int} (hfits : Fits value) : (Int64.ofInt value).toInt = value :=
  Int64.toInt_ofInt_of_le hfits.1 hfits.2

theorem narrow_eq_some_iff {value : Int} {word : Int64} :
    narrow value = some word ↔ word.toInt = value := by
  constructor
  · intro hnarrow
    unfold narrow at hnarrow
    split at hnarrow
    · next hfits =>
      cases hnarrow
      exact toInt_ofInt hfits
    · cases hnarrow
  · intro hvalue
    subst hvalue
    simp [narrow, fits_toInt]

theorem narrow_eq_none_iff {value : Int} : narrow value = none ↔ ¬ Fits value := by
  simp [narrow]

@[simp]
theorem narrow_toInt (word : Int64) : narrow word.toInt = some word :=
  narrow_eq_some_iff.2 rfl

def add (left right : Int64) : Option Int64 := narrow (left.toInt + right.toInt)

def subtract (left right : Int64) : Option Int64 := narrow (left.toInt - right.toInt)

def multiply (left right : Int64) : Option Int64 := narrow (left.toInt * right.toInt)

/-- The quotient, truncated toward zero.  Only the least integer divided by `-1` does not fit. -/
def quotient (left right : Int64) : Option Int64 := narrow (left.toInt.tdiv right.toInt)

/-- The remainder of the truncated quotient, with the sign of the dividend.  It is undefined exactly
where the quotient is. -/
def remainder (left right : Int64) : Option Int64 :=
  (quotient left right).map fun _ => Int64.ofInt (left.toInt.tmod right.toInt)

def negate (value : Int64) : Option Int64 := narrow (-value.toInt)

def magnitude (value : Int64) : Option Int64 := narrow value.toInt.natAbs

/-- The nearest 64-bit integer. -/
def clamp (value : Int) : Int64 :=
  (narrow value).getD (if value < 0 then Int64.minValue else Int64.maxValue)

/-- A count of things, at most the greatest 64-bit integer. -/
def count (size : Nat) : Int64 :=
  (narrow size).getD Int64.maxValue

end CypherExpr.Checked
