import CypherExpr.Error
import CypherExpr.Value.Equality

/-!
# Membership, subscripts and slices

Negative positions count from the end of a list.  A subscript beyond either end gives null; slice
bounds are clamped to the list.
-/

namespace CypherExpr.Container

/-- Looks for an element that is equal to the item and stops at the first one.  Where there is none,
the outcome is unknown if a comparison was; `uncertain` says whether one before these elements
was. -/
def search (item : Value) (uncertain : Bool) : List Value → Option Bool
  | [] => if uncertain then none else some false
  | candidate :: rest =>
      match item.equal? candidate with
      | some true => some true
      | some false => search item uncertain rest
      | none => search item true rest

/-- Membership in the elements of a list.  Nothing is compared with an empty one. -/
def isIn (item : Value) : Value → Result Value
  | .null => .ok .null
  | .list items => .ok (.ofTruth (if items.isEmpty then some false else search item false items))
  | other => .error (.mismatch "List" other)

/-- A position from the front for one that may be counted from the end. -/
def fromFront (size : Nat) (position : Int) : Int :=
  if position < 0 then size + position else position

/-- The element at a position, if there is one. -/
def at? (items : List Value) (position : Int) : Option Value :=
  let place := fromFront items.length position
  if place < 0 then none else items[place.toNat]?

/-- The value of `container[key]`. -/
def subscript : Value → Value → Result Value
  | .null, _ => .ok .null
  | _, .null => .ok .null
  | .list items, .integer position => .ok (.ofOption (at? items position.toInt))
  | .list _, other => .error (.mismatch "Integer" other)
  | container, key =>
      match container.properties?, key with
      | some properties, .string name => .ok (.ofOption (properties.get? name))
      | some _, other => .error (.mismatch "String" other)
      | none, _ => .error (.mismatch "List, Map, Node or Relationship" container)

/-- A slice bound, clamped into the list. -/
def clampBound (size : Nat) (bound : Int) : Nat :=
  min (fromFront size bound).toNat size

/-- A slice bound, the default where it is absent; `none` where it is null. -/
def sliceBound (size default : Nat) : Option Value → Result (Option Nat)
  | none => .ok (some default)
  | some .null => .ok none
  | some (.integer bound) => .ok (some (clampBound size bound.toInt))
  | some other => .error (.mismatch "Integer" other)

/-- The elements from one position up to another. -/
def between {α : Type} (items : List α) (lower upper : Nat) : List α :=
  (items.take upper).drop lower

/-- The value of `list[lower..upper]`. -/
def slice (source : Value) (lower upper : Option Value) : Result Value :=
  match source with
  | .null => .ok .null
  | .list items =>
      match sliceBound items.length 0 lower with
      | .error cause => .error cause
      | .ok first =>
          match sliceBound items.length items.length upper with
          | .error cause => .error cause
          | .ok last =>
              match first, last with
              | some l, some u => .ok (.list (between items l u))
              | _, _ => .ok .null
  | other => .error (.mismatch "List" other)

end CypherExpr.Container
