import CypherExpr.Value.Basic

/-!
# Equality of values

Equality is structural and never crosses kinds: `1` and `1.0` differ.  Maps are equal when they have
the same keys with equal values, in any order.  NaN differs from itself, and zoned datetimes are
equal when they are the same moment in UTC.
-/

namespace CypherExpr.Value

/-- Whether properties pass the tests set for them: the same keys, and every value passes the test
under its key. -/
def agree {α : Type} (tests : Properties (α → Bool)) (properties : Properties α) : Bool :=
  (tests.keys ++ properties.keys).all fun key =>
    match tests.get? key, properties.get? key with
    | some test, some value => test value
    | none, none => true
    | _, _ => false

mutual

def equals : Value → Value → Bool
  | .null, .null => true
  | .boolean left, .boolean right => left == right
  | .integer left, .integer right => left == right
  | .float left, .float right => Binary64.equal left right
  | .string left, .string right => left == right
  | .list left, .list right => equalsList left right
  | .map left, .map right => agree (equalityTests left) right
  | .node left, .node right => equalsNode left right
  | .relationship left, .relationship right => equalsRelationship left right
  | .path left, .path right => equalsPath left right
  | .date left, .date right => decide (left = right)
  | .time left, .time right => decide (left = right)
  | .localDateTime left, .localDateTime right => decide (left = right)
  | .dateTime left, .dateTime right => decide (left.moment = right.moment)
  | .duration left, .duration right => decide (left = right)
  | _, _ => false
termination_by structural value => value

def equalsList : List Value → List Value → Bool
  | [], [] => true
  | left :: lefts, right :: rights => equals left right && equalsList lefts rights
  | _, _ => false
termination_by structural values => values

/-- Under each key, the test for being equal to the value there. -/
def equalityTests : List (String × Value) → List (String × (Value → Bool))
  | [] => []
  | (key, value) :: rest => (key, equals value) :: equalityTests rest
termination_by structural entries => entries

def equalsNode : Node Value → Node Value → Bool
  | ⟨id, labels, properties⟩, other =>
      id == other.id && labels == other.labels && agree (equalityTests properties) other.properties
termination_by structural value => value

def equalsRelationship : Relationship Value → Relationship Value → Bool
  | ⟨id, kind, source, target, properties⟩, other =>
      id == other.id && kind == other.kind && source == other.source && target == other.target
        && agree (equalityTests properties) other.properties
termination_by structural value => value

def equalsPath : Path Value → Path Value → Bool
  | ⟨start, hops⟩, other => equalsNode start other.start && equalsHops hops other.hops
termination_by structural value => value

def equalsHops :
    List (Relationship Value × Node Value) → List (Relationship Value × Node Value) → Bool
  | [], [] => true
  | (rel, next) :: lefts, other :: rights =>
      equalsRelationship rel other.1 && equalsNode next other.2 && equalsHops lefts rights
  | _, _ => false
termination_by structural hops => hops

end

/-- Equality as expressions see it: unknown as soon as one side is null.  Nulls inside lists and
maps are ordinary elements. -/
def equal? (left right : Value) : Option Bool :=
  if left.isNull || right.isNull then none else some (left.equals right)

end CypherExpr.Value
