import CypherExpr.Value.Equality
import CypherExpr.Value.Order

/-!
# Comparison operators

Every comparison gives true, false or null.  Where two values are not comparable the order operators
give null.
-/

namespace CypherExpr.Comparison

def equal (left right : Value) : Value := .ofTruth (left.equal? right)

def notEqual (left right : Value) : Value := .ofTruth ((left.equal? right).map Bool.not)

def greater (left right : Value) : Value :=
  .ofTruth ((left.order right).map (· == .gt))

def greaterOrEqual (left right : Value) : Value :=
  .ofTruth ((left.order right).map (· != .lt))

/-- The operands change sides. -/
def less (left right : Value) : Value := greater right left

def lessOrEqual (left right : Value) : Value := greaterOrEqual right left

end CypherExpr.Comparison
