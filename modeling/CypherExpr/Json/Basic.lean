import CypherExpr.Number.Decimal

/-!
# JSON documents

Documents as trees.  An integer is exact and of any size, every other number is a double.  The
members of an object stand in increasing order of their keys, each key once. -/

namespace CypherExpr

inductive Json where
  | null
  | boolean (value : Bool)
  | integer (value : Int)
  | float (value : Float)
  | string (value : String)
  | array (items : List Json)
  | object (members : List (String × Json))

namespace Json

instance : Inhabited Json := ⟨.null⟩

/-- Puts a member at its place among sorted ones, instead of any that has its key. -/
def insertMember (key : String) (value : Json) : List (String × Json) → List (String × Json)
  | [] => [(key, value)]
  | (other, old) :: rest =>
      if key = other then (key, value) :: rest
      else if key < other then (key, value) :: (other, old) :: rest
      else (other, old) :: insertMember key value rest

/-- The object with the given members; the first entry for a key counts. -/
def ofMembers (members : List (String × Json)) : Json :=
  .object (members.foldr (fun member sorted => insertMember member.1 member.2 sorted) [])

theorem lookup_insertMember (key other : String) (value : Json) (members : List (String × Json)) :
    (insertMember key value members).lookup other =
      if other = key then some value else members.lookup other := by
  induction members with
  | nil =>
      by_cases h : other = key
      · simp [insertMember, h]
      · simp [insertMember, List.lookup_cons, beq_eq_false_iff_ne.2 h, h]
  | cons member rest ih =>
      obtain ⟨head, old⟩ := member
      unfold insertMember
      by_cases hhead : key = head
      · subst hhead
        by_cases h : other = key
        · simp [h]
        · simp [List.lookup_cons, beq_eq_false_iff_ne.2 h, h]
      · by_cases hless : key < head
        · by_cases h : other = key
          · simp [hhead, hless, h]
          · simp [hhead, hless, List.lookup_cons, beq_eq_false_iff_ne.2 h, h]
        · by_cases h : other = head
          · simp [hhead, hless, h, Ne.symm hhead]
          · simp [hhead, hless, List.lookup_cons, beq_eq_false_iff_ne.2 h, ih]

/-! ## Parts of a document -/

def member? : Json → String → Option Json
  | .object members, key => members.lookup key
  | _, _ => none

def isNull : Json → Bool
  | .null => true
  | _ => false

def boolean? : Json → Option Bool
  | .boolean value => some value
  | _ => none

/-- An integer within the 64-bit range. -/
def integer? : Json → Option Int64
  | .integer value => Checked.narrow value
  | _ => none

/-- Any number, as the nearest double. -/
def float? : Json → Option Float
  | .float value => some value
  | .integer value => some (Decimal.nearest value)
  | _ => none

def string? : Json → Option String
  | .string value => some value
  | _ => none

def array? : Json → Option (List Json)
  | .array items => some items
  | _ => none

def strings? (document : Json) : Option (List String) :=
  document.array?.bind fun items => items.mapM string?

end Json

end CypherExpr
