import CypherExpr.Regex.CharSet

/-!
# Character sets as spans

A set of characters written out: the inclusive spans of code points that it holds, in increasing
order, with a gap between each two.  Surrogates are not characters, so the code points before and
after them are neighbours.
-/

namespace CypherExpr.Regex

/-- An inclusive range of code points. -/
abbrev Span := Nat × Nat

namespace Span

/-- The code point after another. -/
def next (point : Nat) : Nat := if point = 0xD7FF then 0xE000 else point + 1

/-- The code point before another. -/
def previous (point : Nat) : Nat := if point = 0xE000 then 0xD7FF else point - 1

def last : Nat := 0x10FFFF

/-- Joins spans in increasing order of their starts, after the span under way. -/
def join (current : Span) : List Span → List Span
  | [] => [current]
  | span :: rest =>
      if span.1 ≤ next current.2 then join (current.1, max current.2 span.2) rest
      else current :: join span rest

/-- The spans of any ranges. -/
def normalize (pairs : List Span) : List Span :=
  match pairs.mergeSort fun left right => decide (left.1 ≤ right.1) with
  | [] => []
  | first :: rest => join first rest

/-- The spans from `start` on that the given ones leave out. -/
def gaps (start : Nat) : List Span → List Span
  | [] => if start ≤ last then [(start, last)] else []
  | span :: rest =>
      if start < span.1 then (start, previous span.1) :: gaps (next span.2) rest
      else gaps (next span.2) rest

def complement (spans : List Span) : List Span := gaps 0 spans

def union (left right : List Span) : List Span := normalize (left ++ right)

def intersection (left right : List Span) : List Span :=
  complement (union (complement left) (complement right))

def difference (left right : List Span) : List Span :=
  complement (union (complement left) right)

def contains (spans : List Span) (point : Nat) : Bool :=
  spans.any fun span => decide (span.1 ≤ point) && decide (point ≤ span.2)

/-- The characters that folding moves, each with the representative of its class. -/
def foldings : List (Nat × Nat) :=
  Text.foldRuns.flatMap fun run =>
    (List.range ((run.last - run.first) / run.step + 1)).map fun index =>
      let point := run.first + run.step * index
      (point, Text.foldPoint point)

/-- Adds to spans every character that differs from one of theirs at most in case. -/
def caseless (spans : List Span) : List Span :=
  let heads := foldings.filterMap fun (point, head) =>
    if contains spans point || contains spans head then some head else none
  let added := foldings.flatMap fun (point, head) =>
    if heads.contains head then [(point, point), (head, head)] else []
  union spans added

/-- The same for the letters of ASCII only. -/
def asciiCaseless (spans : List Span) : List Span :=
  let added := (List.range 26).flatMap fun index =>
    let upper := 0x41 + index
    let lower := 0x61 + index
    if contains spans upper || contains spans lower then [(upper, upper), (lower, lower)] else []
  union spans added

end Span

/-- The spans of a set. -/
def CharSet.spans : CharSet → List Span
  | .ranges pairs => Span.normalize pairs.pairs
  | .complement set => Span.complement set.spans
  | .union left right => Span.union left.spans right.spans
  | .intersection left right => Span.intersection left.spans right.spans
  | .difference left right => Span.difference left.spans right.spans
  | .symmetricDifference left right =>
      let left := left.spans
      let right := right.spans
      Span.union (Span.difference left right) (Span.difference right left)
  | .caseless set => Span.caseless set.spans
  | .asciiCaseless set => Span.asciiCaseless set.spans

end CypherExpr.Regex
