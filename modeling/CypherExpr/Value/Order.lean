import CypherExpr.Value.Basic

/-!
# Order of values

Order is defined between numbers of either kind, between strings, between booleans, between calendar
points of one kind and between lists, which are ordered lexicographically.  Everything else is not
comparable.
-/

namespace CypherExpr.Value

mutual

def order : Value → Value → Option Ordering
  | .integer left, .integer right => some (compare left.toInt right.toInt)
  | .integer left, .float right => Binary64.orderInteger left right
  | .float left, .integer right => (Binary64.orderInteger right left).map Ordering.swap
  | .float left, .float right => Binary64.order left right
  | .string left, .string right => some (compare left right)
  | .boolean left, .boolean right => some (compare left right)
  | .date left, .date right => some (compare left.dayNumber right.dayNumber)
  | .time left, .time right => some (compare left.moment right.moment)
  | .localDateTime left, .localDateTime right => some (compare left.moment right.moment)
  | .dateTime left, .dateTime right => some (compare left.moment right.moment)
  | .list left, .list right => orderList left right
  | _, _ => none
termination_by structural value => value

/-- The first pair that is not equal decides; one that is not comparable leaves the lists so too. -/
def orderList : List Value → List Value → Option Ordering
  | [], [] => some .eq
  | [], _ :: _ => some .lt
  | _ :: _, [] => some .gt
  | left :: lefts, right :: rights =>
      match order left right with
      | some .eq => orderList lefts rights
      | decided => decided
termination_by structural values => values

end

end CypherExpr.Value
