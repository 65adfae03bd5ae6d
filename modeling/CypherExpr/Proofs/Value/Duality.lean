import CypherExpr.Proofs.Value.Equality
import CypherExpr.Proofs.Value.Order

/-!
# The order of values seen from both sides

The order of a second value and a first is the reverse of that of the first and the second, and one
is undefined exactly when the other is.  Equality is finer than the order: what is equal shares its
place, so wherever two equal values can be ordered at all neither comes first.
-/

namespace CypherExpr

namespace Place

theorem order_swap (x y : Place) : y.order x = (x.order y).map Ordering.swap := by
  cases x <;> cases y <;> try rfl
  case number.number x y => exact Binary64.comparePlaces_swap x y
  all_goals exact congrArg some Std.OrientedOrd.eq_swap

/-- A place is ordered as equal to itself, that of NaN apart. -/
theorem order_self (x : Place) : x.order x = none ∨ x.order x = some .eq := by
  cases x with
  | number units =>
      cases units with
      | none => exact .inl rfl
      | some units => exact .inr (congrArg some Std.ReflOrd.compare_self)
  | _ => exact .inr (congrArg some Std.ReflOrd.compare_self)

end Place

namespace Value

/-! ## Reversal -/

theorem orderList_swap {xs ys : List Value}
    (hitems : ∀ x ∈ xs, ∀ y : Value, y.order x = (x.order y).map Ordering.swap) :
    orderList ys xs = (orderList xs ys).map Ordering.swap := by
  induction xs generalizing ys with
  | nil => cases ys <;> rfl
  | cons x xs ih =>
      cases ys with
      | nil => rfl
      | cons y ys =>
          rw [List.forall_mem_cons] at hitems
          rw [orderList, orderList, hitems.1 y, ih hitems.2]
          rcases x.order y with _ | _ | _ | _ <;> rfl

theorem order_list_left {items : List Value} {other : Value}
    (hother : ∀ others, other ≠ .list others) : (Value.list items).order other = none := by
  cases other with
  | list others => exact absurd rfl (hother others)
  | _ => rfl

theorem order_swap (a b : Value) : b.order a = (a.order b).map Ordering.swap := by
  induction a using inductionOnParts generalizing b with
  | step a ih =>
      by_cases hleft : ∀ items, a ≠ .list items
      · by_cases hright : ∀ items, b ≠ .list items
        · rw [order_eq_bind_place? hleft, order_eq_bind_place? hright]
          cases a.place? with
          | none => cases b.place? <;> rfl
          | some x =>
              cases b.place? with
              | none => rfl
              | some y => exact x.order_swap y
        · simp only [not_forall, not_not] at hright
          obtain ⟨ys, rfl⟩ := hright
          rw [order_list_left hleft, order_eq_bind_place? hleft]
          cases a.place? <;> rfl
      · simp only [not_forall, not_not] at hleft
        obtain ⟨xs, rfl⟩ := hleft
        cases b with
        | list ys => exact orderList_swap fun x hx => ih x (mem_parts_of_item hx)
        | _ => rfl

/-! ## Equal values -/

/-- The place of a value can be read from its outline. -/
def Outline.place? : Outline → Option Place
  | .integer value => some (.number (some (Binary64.placeOfInteger value)))
  | .float place => some (.number place)
  | .string value => some (.text value)
  | .boolean value => some (.truth value)
  | .date value => some (.day value.dayNumber)
  | .time value => some (.timeOfDay value.moment)
  | .localDateTime value => some (.wallClock value.moment)
  | .dateTime moment => some (.inUtc moment)
  | _ => none

theorem place?_eq_outline (value : Value) : value.place? = value.outline.place? := by
  cases value <;> rfl

theorem orderList_of_forall₂ {xs ys : List Value}
    (hitems : List.Forall₂ (fun x y => x.order y = none ∨ x.order y = some .eq) xs ys) :
    orderList xs ys = none ∨ orderList xs ys = some .eq := by
  induction hitems with
  | nil => exact .inr rfl
  | cons hfirst _ ih =>
      rw [orderList]
      rcases hfirst with hnone | heq
      · rw [hnone]
        exact .inl rfl
      · rw [heq]
        exact ih

/-- Equal values are ordered as equal, or not at all. -/
theorem order_of_equals {a b : Value} (hequal : a.equals b = true) :
    a.order b = none ∨ a.order b = some .eq := by
  induction a using inductionOnParts generalizing b with
  | step a ih =>
      obtain ⟨houtline, _, hparts⟩ := equals_iff.mp hequal
      by_cases hscalar : ∀ items, a ≠ .list items
      · have hplace : b.place? = a.place? := by
          rw [place?_eq_outline, place?_eq_outline, houtline]
        rw [order_eq_bind_place? hscalar, hplace]
        cases a.place? with
        | none => exact .inl rfl
        | some x => exact x.order_self
      · simp only [not_forall, not_not] at hscalar
        obtain ⟨xs, rfl⟩ := hscalar
        cases b with
        | list ys =>
            have hitems : List.Forall₂ (fun x y => x ∈ xs ∧ Same x y) xs ys :=
              (List.forall₂_and_left xs ys).mpr ⟨fun _ hx => hx, hparts.items⟩
            exact orderList_of_forall₂
              (hitems.imp fun x y hxy => ih x (mem_parts_of_item hxy.1) hxy.2)
        | _ => cases hequal

end Value

end CypherExpr
