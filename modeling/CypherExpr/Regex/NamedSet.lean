import CypherExpr.Regex.CharSet

/-!
# Sets of characters under names

Names are compared without regard to case, blanks, hyphens and underscores, and without a leading
`is`.
-/

namespace CypherExpr.Regex

/-- The form under which names are compared. -/
def looseName (name : String) : String :=
  let chars := name.toList
  let body :=
    match chars with
    | 'i' :: 's' :: rest | 'I' :: 's' :: rest | 'i' :: 'S' :: rest | 'I' :: 'S' :: rest => rest
    | _ => chars
  let kept := body.filter fun c => decide (c.toNat < 128) && c != ' ' && c != '_' && c != '-'
  let plain := kept.map Char.toLower
  if body.length < chars.length && plain == ['c'] then "isc" else String.ofList plain

/-- A set with the names that stand for it. -/
structure NamedSet where
  names : List String
  set : CharSet

namespace NamedSet

/-- Whether the name in its loose form is one of the set's. -/
def isNamed (row : NamedSet) (loose : String) : Bool :=
  row.names.any fun name => looseName name == loose

/-- The set that the name stands for in a table. -/
def lookup (table : List NamedSet) (loose : String) : Option CharSet :=
  (table.find? fun row => row.isNamed loose).map NamedSet.set

end NamedSet

end CypherExpr.Regex
