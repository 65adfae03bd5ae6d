import CypherExpr.Regex.Cache

/-!
# String predicates

`STARTS WITH`, `ENDS WITH`, `CONTAINS` and `=~`.  A null on the left makes them false, a null on the
right makes them null.
-/

namespace CypherExpr.StringPredicate

/-- The frame of the string predicates: `test` is asked about two strings only. -/
def lift (test : String → String → Result Bool) : Value → Value → Result Value
  | .null, _ => .ok (.boolean false)
  | _, .null => .ok .null
  | .string left, .string right => (test left right).map .boolean
  | .string _, right => .error (.mismatch "String" right)
  | left, _ => .error (.mismatch "String" left)

def startsWith : Value → Value → Result Value :=
  lift fun text part => .ok (part.toList.isPrefixOf text.toList)

def endsWith : Value → Value → Result Value :=
  lift fun text part => .ok (part.toList.isSuffixOf text.toList)

/-- Whether the part stands somewhere in the text. -/
def occurs (part : List Char) : List Char → Bool
  | [] => part.isEmpty
  | c :: rest => part.isPrefixOf (c :: rest) || occurs part rest

def contains : Value → Value → Result Value :=
  lift fun text part => .ok (occurs part.toList text.toList)

/-- Whether the text matches the compiled pattern. -/
def regexMatch : Value → Value → Result Value :=
  lift fun text pattern => (Regex.compile pattern).map fun regex => regex.isMatch text

/-- The same predicate with a cache of compiled patterns, which two strings alone consult. -/
def regexMatchCached (cache : RegexCache) (left right : Value) : Result Value × RegexCache :=
  match left, right with
  | .string _, .string pattern =>
      let (compiled, after) := cache.compile pattern
      (lift (fun text _ => compiled.map fun regex => regex.isMatch text) left right, after)
  | _, _ => (regexMatch left right, cache)

end CypherExpr.StringPredicate
