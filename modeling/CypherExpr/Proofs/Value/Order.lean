import CypherExpr.Proofs.Number.IntegerOrder
import CypherExpr.Proofs.Value.Parts
import CypherExpr.Value.Order

/-!
# The order of values is transitive

Every scalar that can be ordered has a place, and two scalars are ordered as their places are:
numbers of either kind by their exact value on one line, all others within their own kind.  Lists
are ordered lexicographically above that.  Order is transitive wherever it is defined: an
incomparable pair that stands behind the deciding position of a list is never looked at, and one
that stands before it would leave one of the two given comparisons undefined.
-/

namespace CypherExpr

/-- Where a scalar stands among the values that it can be compared with.  NaN stands nowhere on the
line of numbers. -/
inductive Place where
  | number (units : Option Int)
  | text (value : String)
  | truth (value : Bool)
  | day (number : Int)
  | timeOfDay (moment : Moment)
  | wallClock (moment : Moment)
  | inUtc (moment : Moment)

namespace Place

def order : Place → Place → Option Ordering
  | .number left, .number right => Binary64.comparePlaces left right
  | .text left, .text right => some (compare left right)
  | .truth left, .truth right => some (compare left right)
  | .day left, .day right => some (compare left right)
  | .timeOfDay left, .timeOfDay right => some (compare left right)
  | .wallClock left, .wallClock right => some (compare left right)
  | .inUtc left, .inUtc right => some (compare left right)
  | _, _ => none

end Place

/-! ## Composing outcomes -/

instance : Std.TransOrd Moment :=
  inferInstanceAs (Std.TransCmp (compareLex (compareOn Moment.second) (compareOn Moment.fraction)))

/-- In a linear order, two steps up lead as far up as the longer one. -/
theorem compare_eq_then {α : Type} [Ord α] [Std.TransOrd α] {x y z : α}
    (hxy : compare x y ≠ .gt) (hyz : compare y z ≠ .gt) :
    compare x z = (compare x y).then (compare y z) := by
  cases hfirst : compare x y with
  | gt => exact absurd hfirst hxy
  | lt =>
      cases hsecond : compare y z with
      | gt => exact absurd hsecond hyz
      | lt => exact Std.TransCmp.lt_trans hfirst hsecond
      | eq => exact Std.TransCmp.lt_of_lt_of_eq hfirst hsecond
  | eq =>
      cases hsecond : compare y z with
      | gt => exact absurd hsecond hyz
      | lt => exact Std.TransCmp.lt_of_eq_of_lt hfirst hsecond
      | eq => exact Std.TransCmp.eq_trans hfirst hsecond

theorem Place.order_then {x y z : Place} {first second : Ordering}
    (hxy : x.order y = some first) (hyz : y.order z = some second) (hfirst : first ≠ .gt)
    (hsecond : second ≠ .gt) : x.order z = some (first.then second) := by
  cases x <;> cases y <;> try cases hxy
  all_goals cases z <;> try cases hyz
  case number.number.number x y z =>
    cases x <;> cases y <;> cases z <;> cases hxy <;> cases hyz
    exact congrArg some (compare_eq_then hfirst hsecond)
  all_goals exact congrArg some (compare_eq_then hfirst hsecond)

namespace Value

/-! ## Scalars -/

/-- The place of a scalar, absent for values that are never ordered and for lists. -/
def place? : Value → Option Place
  | .integer value => some (.number (some (Binary64.placeOfInteger value)))
  | .float value => some (.number (Binary64.place value))
  | .string value => some (.text value)
  | .boolean value => some (.truth value)
  | .date value => some (.day value.dayNumber)
  | .time value => some (.timeOfDay value.moment)
  | .localDateTime value => some (.wallClock value.moment)
  | .dateTime value => some (.inUtc value.moment)
  | _ => none

theorem ne_list_of_place? {value : Value} {place : Place} (hplace : value.place? = some place)
    (items : List Value) : value ≠ .list items := by
  rintro rfl
  cases hplace

theorem compare_placeOfInteger (left right : Int64) :
    compare (Binary64.placeOfInteger left) (Binary64.placeOfInteger right) =
      compare left.toInt right.toInt :=
  Binary64.compare_mul_right left.toInt right.toInt Binary64.unitsPerOne_pos

theorem order_float_integer (left : Float) (right : Int64) :
    (Value.float left).order (.integer right) =
      Binary64.comparePlaces (Binary64.place left) (some (Binary64.placeOfInteger right)) := by
  rw [Binary64.comparePlaces_swap, ← Binary64.orderInteger_eq]
  rfl

/-- Whatever is not a list is ordered by its place. -/
theorem order_eq_bind_place? {left : Value} (hleft : ∀ items, left ≠ .list items)
    (right : Value) :
    left.order right = left.place?.bind fun x => right.place?.bind x.order := by
  cases left <;> cases right
  case integer.integer left right =>
    exact congrArg some (compare_placeOfInteger left right).symm
  case integer.float left right => exact Binary64.orderInteger_eq left right
  case float.integer left right => exact order_float_integer left right
  case list.list items _ => exact absurd rfl (hleft items)
  all_goals rfl

theorem order_eq_some_iff_place? {left right : Value} (hleft : ∀ items, left ≠ .list items)
    {outcome : Ordering} :
    left.order right = some outcome ↔
      ∃ x y, left.place? = some x ∧ right.place? = some y ∧ x.order y = some outcome := by
  simp only [order_eq_bind_place? hleft, Option.bind_eq_some_iff, exists_and_left]

/-! ## Lists -/

/-- The first pair of elements decides unless it is equal. -/
theorem orderList_cons_eq_some_iff {x y : Value} {xs ys : List Value} {outcome : Ordering} :
    orderList (x :: xs) (y :: ys) = some outcome ↔
      (x.order y = some outcome ∧ outcome ≠ .eq) ∨
        (x.order y = some .eq ∧ orderList xs ys = some outcome) := by
  rw [orderList]
  cases hhead : x.order y with
  | none => simp
  | some head => cases head <;> simp +contextual [eq_comm]

/-- Two steps up from the value, where both are defined, lead as far up as the longer one. -/
def Climbs (a : Value) : Prop :=
  ∀ {b c : Value} {first second : Ordering}, a.order b = some first →
    b.order c = some second → first ≠ .gt → second ≠ .gt →
    a.order c = some (first.then second)

theorem orderList_then {xs ys zs : List Value} {first second : Ordering}
    (hitems : ∀ x ∈ xs, x.Climbs) (hxy : orderList xs ys = some first)
    (hyz : orderList ys zs = some second) (hfirst : first ≠ .gt) (hsecond : second ≠ .gt) :
    orderList xs zs = some (first.then second) := by
  induction xs generalizing ys zs with
  | nil =>
      cases ys with
      | nil =>
          cases hxy
          exact hyz
      | cons y ys =>
          cases hxy
          cases zs with
          | nil =>
              cases hyz
              exact absurd rfl hsecond
          | cons z zs => rfl
  | cons x xs ih =>
      cases ys with
      | nil =>
          cases hxy
          exact absurd rfl hfirst
      | cons y ys =>
          cases zs with
          | nil =>
              cases hyz
              exact absurd rfl hsecond
          | cons z zs =>
              have hclimbs : x.Climbs := hitems x List.mem_cons_self
              rw [orderList_cons_eq_some_iff] at hxy hyz ⊢
              rcases hxy with ⟨hx, hdecided⟩ | ⟨hx, hxs⟩
              · -- the first step is decided here, and whatever the second one does keeps it so
                have hlt : first = .lt := by cases first <;> simp_all
                subst hlt
                have hxz : x.order z = some .lt := by
                  rcases hyz with ⟨hy, _⟩ | ⟨hy, _⟩
                  · exact hclimbs hx hy hfirst hsecond
                  · exact hclimbs hx hy hfirst nofun
                exact .inl ⟨hxz, hdecided⟩
              · rcases hyz with ⟨hy, hdecided⟩ | ⟨hy, hys⟩
                · have hlt : second = .lt := by cases second <;> simp_all
                  have hthen : first.then second = second := by cases first <;> simp_all
                  rw [hthen]
                  exact .inl ⟨hclimbs hx hy nofun hsecond, hdecided⟩
                · refine .inr ⟨hclimbs hx hy nofun nofun, ?_⟩
                  exact ih (fun item hitem => hitems item (List.mem_cons_of_mem x hitem)) hxs hys

theorem climbs (a : Value) : a.Climbs := by
  induction a using inductionOnParts with
  | step a ih =>
      intro b c first second hab hbc hfirst hsecond
      by_cases hlist : ∃ xs, a = .list xs
      · obtain ⟨xs, rfl⟩ := hlist
        cases b with
        | list ys =>
            cases c with
            | list zs =>
                exact orderList_then (fun x hx => ih x (mem_parts_of_item hx)) hab hbc hfirst
                  hsecond
            | _ => cases hbc
        | _ => cases hab
      · have hscalar : ∀ items, a ≠ .list items := fun items ha => hlist ⟨items, ha⟩
        obtain ⟨x, y, hx, hy, hxy⟩ := (order_eq_some_iff_place? hscalar).mp hab
        obtain ⟨y', z, hy', hz, hyz⟩ :=
          (order_eq_some_iff_place? (ne_list_of_place? hy)).mp hbc
        cases hy.symm.trans hy'
        exact (order_eq_some_iff_place? hscalar).mpr
          ⟨x, z, hx, hz, Place.order_then hxy hyz hfirst hsecond⟩

/-- Where the order of a first value and a second and of the second and a third is defined and
neither is downwards, that of the first and the third is defined; it is strict as soon as one of the
two is. -/
theorem order_trans (a b c : Value) (first second : Ordering) (hab : a.order b = some first)
    (hbc : b.order c = some second) (hfirst : first ≠ .gt) (hsecond : second ≠ .gt) :
    a.order c = some (if first = .lt ∨ second = .lt then .lt else .eq) := by
  rw [a.climbs hab hbc hfirst hsecond]
  cases first <;> cases second <;> simp_all

/-- The lists `[1, 'x']`, `[1.0, 'y', null]` and `[1.5, true]` ascend, although `'y'` and `true`
cannot be compared. -/
theorem order_lists_ascending :
    (Value.list [.integer 1, .string "x"]).order
        (.list [.float 1.0, .string "y", .null]) = some .lt ∧
    (Value.list [.float 1.0, .string "y", .null]).order
        (.list [.float 1.5, .boolean true]) = some .lt ∧
    (Value.list [.integer 1, .string "x"]).order
        (.list [.float 1.5, .boolean true]) = some .lt := by
  have hfirst : (Value.list [.integer 1, .string "x"]).order
      (.list [.float 1.0, .string "y", .null]) = some .lt := by decide +kernel
  have hsecond : (Value.list [.float 1.0, .string "y", .null]).order
      (.list [.float 1.5, .boolean true]) = some .lt := by decide +kernel
  exact ⟨hfirst, hsecond, order_trans _ _ _ _ _ hfirst hsecond nofun nofun⟩

end Value

end CypherExpr
