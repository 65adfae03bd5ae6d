import CypherExpr.Regex.Basic
import CypherExpr.Regex.Span

/-!
# Shapes of regular expressions

The shape of a regular expression is what its automaton is made from: the same expression with
adjacent characters as one literal, without concatenations in concatenations or alternatives in
alternatives, with alternative characters as one set, and with what all alternatives begin with in
front of them.
-/

namespace CypherExpr.Regex

inductive Shape where
  | empty
  /-- One character after another, at least one -/
  | literal (points : List Nat)
  /-- One character of a set that does not hold exactly one -/
  | chars (spans : List Span)
  | look (condition : Look)
  | repeat (body : Shape) (least : Nat) (most : Option Nat)
  /-- A group that captures, under its number -/
  | group (index : Nat) (body : Shape)
  | concat (parts : List Shape)
  | alternation (branches : List Shape)
  deriving BEq

namespace Shape

def ofSpans : List Span → Shape
  | [(low, high)] => if low = high then .literal [low] else .chars [(low, high)]
  | spans => .chars spans

/-! ## Lengths -/

/-- The number of bytes that encode a character. -/
def width (point : Nat) : Nat :=
  if point < 0x80 then 1 else if point < 0x800 then 2 else if point < 0x10000 then 3 else 4

mutual

/-- The least number of bytes that the shape matches, if it matches anything. -/
def leastLength : Shape → Option Nat
  | .empty => some 0
  | .literal points => some (points.map width).sum
  | .chars spans => spans.head?.map fun span => width span.1
  | .look _ => some 0
  | .repeat body least _ => (leastLength body).map fun length => length * least
  | .group _ body => leastLength body
  | .concat parts => leastTotal parts
  | .alternation branches => leastOf branches

def leastTotal : List Shape → Option Nat
  | [] => some 0
  | part :: rest => do some ((← leastLength part) + (← leastTotal rest))

def leastOf : List Shape → Option Nat
  | [] => none
  | [branch] => leastLength branch
  | branch :: rest => do some (min (← leastLength branch) (← leastOf rest))

end

mutual

/-- The greatest number of bytes that the shape matches, if there is one. -/
def greatestLength : Shape → Option Nat
  | .empty => some 0
  | .literal points => some (points.map width).sum
  | .chars spans => spans.getLast?.map fun span => width span.2
  | .look _ => some 0
  | .repeat body _ most => do some ((← greatestLength body) * (← most))
  | .group _ body => greatestLength body
  | .concat parts => greatestTotal parts
  | .alternation branches => greatestOf branches

def greatestTotal : List Shape → Option Nat
  | [] => some 0
  | part :: rest => do some ((← greatestLength part) + (← greatestTotal rest))

def greatestOf : List Shape → Option Nat
  | [] => none
  | [branch] => greatestLength branch
  | branch :: rest => do some (max (← greatestLength branch) (← greatestOf rest))

end

/-! ## Construction -/

/-- A repetition.  One of what matches the empty text only needs no second round, and exactly one
round is the body itself. -/
def ofRepeat (body : Shape) (least : Nat) (most : Option Nat) : Shape :=
  let idle := greatestLength body == some 0
  let least := if idle then min least 1 else least
  let most := if idle then some ((most.map fun bound => min bound 1).getD 1) else most
  if least = 0 ∧ most = some 0 then .empty
  else if least = 1 ∧ most = some 1 then body
  else .repeat body least most

/-- Joins adjacent literals. -/
def joinLiterals : List Shape → List Shape
  | [] => []
  | part :: rest =>
      match part, joinLiterals rest with
      | .literal points, .literal others :: rest => .literal (points ++ others) :: rest
      | part, rest => part :: rest

def ofConcat (parts : List Shape) : Shape :=
  let flat := parts.flatMap fun part =>
    match part with
    | .empty => []
    | .concat inner => inner
    | part => [part]
  match joinLiterals flat with
  | [] => .empty
  | [part] => part
  | parts => .concat parts

/-- The sets of alternatives that are all characters or all sets. -/
def charBranches? (branches : List Shape) : Option (List Span) :=
  let single (branch : Shape) : Option (List Span) :=
    match branch with
    | .literal [point] => some [(point, point)]
    | _ => none
  let several (branch : Shape) : Option (List Span) :=
    match branch with
    | .chars spans => some spans
    | _ => none
  (branches.mapM single <|> branches.mapM several).map List.flatten

/-- How many parts two concatenations have in common at their beginnings. -/
def commonLength : List Shape → List Shape → Nat
  | left :: lefts, right :: rights => if left == right then commonLength lefts rights + 1 else 0
  | _, _ => 0

/-- Alternatives, of which none is a list of alternatives. -/
def ofBranches (branches : List Shape) : Shape :=
  match branches with
  | [] => .chars []
  | [branch] => branch
  | branches =>
      match charBranches? branches with
      | some spans => ofSpans (Span.normalize spans)
      | none => .alternation branches

def flatBranches (branches : List Shape) : List Shape :=
  branches.flatMap fun branch =>
    match branch with
    | .alternation inner => inner
    | branch => [branch]

/-- Alternatives; what they all begin with is put in front. -/
def ofAlternation (branches : List Shape) : Shape :=
  let flat := flatBranches branches
  let parts (branch : Shape) : Option (List Shape) :=
    match branch with
    | .concat parts => some parts
    | _ => none
  match flat.mapM parts with
  | some (first :: second :: others) =>
      let rows := second :: others
      let common := rows.foldl (fun least row => min least (commonLength first row)) first.length
      if common = 0 then ofBranches flat
      else
        let tails := (first :: rows).map fun row => ofConcat (row.drop common)
        ofConcat (first.take common ++ [ofBranches (flatBranches tails)])
  | _ => ofBranches flat

end Shape

end CypherExpr.Regex
