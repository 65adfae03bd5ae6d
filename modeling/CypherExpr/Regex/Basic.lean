import CypherExpr.Regex.CharSet

/-!
# Regular expressions

A regular expression relates the positions of a text: from where it starts to where it may end.  It
is run on sets of positions, so the time is bounded by the size of the expression and of the text.
-/

namespace CypherExpr

namespace Regex

/-- A condition on a position, which looks at the characters around it. -/
inductive Look where
  | textStart
  | textEnd
  | lineStart
  | lineEnd
  /-- Lines that may end in a carriage return, a line feed or both in that order -/
  | anyLineStart
  | anyLineEnd
  | wordBoundary
  | notWordBoundary
  | wordStart
  | wordEnd
  | wordStartHalf
  | wordEndHalf
  | asciiWordBoundary
  | asciiNotWordBoundary
  | asciiWordStart
  | asciiWordEnd
  | asciiWordStartHalf
  | asciiWordEndHalf
  deriving DecidableEq

/-- Whether the condition holds between two characters, of which either may be missing. -/
def Look.holds (look : Look) (before after : Option Char) : Bool :=
  let word (c : Option Char) := c.any CharSet.wordChars.contains
  let ascii (c : Option Char) := c.any CharSet.asciiWordChars.contains
  match look with
  | .textStart => before.isNone
  | .textEnd => after.isNone
  | .lineStart => before.isNone || before == some '\n'
  | .lineEnd => after.isNone || after == some '\n'
  | .anyLineStart =>
      before.isNone || before == some '\n' || (before == some '\r' && after != some '\n')
  | .anyLineEnd =>
      after.isNone || after == some '\r' || (after == some '\n' && before != some '\r')
  | .wordBoundary => word before != word after
  | .notWordBoundary => word before == word after
  | .wordStart => !word before && word after
  | .wordEnd => word before && !word after
  | .wordStartHalf => !word before
  | .wordEndHalf => !word after
  | .asciiWordBoundary => ascii before != ascii after
  | .asciiNotWordBoundary => ascii before == ascii after
  | .asciiWordStart => !ascii before && ascii after
  | .asciiWordEnd => ascii before && !ascii after
  | .asciiWordStartHalf => !ascii before
  | .asciiWordEndHalf => !ascii after

end Regex

inductive Regex where
  | empty
  | char (set : Regex.CharSet)
  | look (look : Regex.Look)
  | seq (left right : Regex)
  | alt (left right : Regex)
  /-- Between `least` and `most` times, without end where `most` is absent -/
  | repeat (body : Regex) (least : Nat) (most : Option Nat)

namespace Regex

/-- Positions of the second list that are not in the first are added at its end. -/
def merge (left right : List Nat) : List Nat :=
  left ++ right.filter fun position => !left.contains position

/-- Takes a step a number of times, each from where the one before arrived. -/
def iterate (step : List Nat → List Nat) : Nat → List Nat → List Nat
  | 0, positions => positions
  | count + 1, positions => iterate step count (step positions)

/-- The positions arrived at after at most a number of steps.  A step that reaches nothing new is
the last one taken. -/
def within (step : List Nat → List Nat) : Nat → List Nat → List Nat
  | 0, positions => positions
  | count + 1, positions =>
      let reached := merge positions (step positions)
      if reached.length = positions.length then positions else within step count reached

/-- The positions at which the expression may end when it starts at one of the given positions.  A
step that consumes nothing leads nowhere new, so as many steps as the text has characters reach
everything that can be reached, and one more suffices for a step to be idle. -/
def ends (text : Array Char) : Regex → List Nat → List Nat
  | .empty, starts => starts
  | .char set, starts =>
      starts.filterMap fun position =>
        match text[position]? with
        | some c => if set.contains c then some (position + 1) else none
        | none => none
  | .look condition, starts =>
      starts.filter fun position =>
        condition.holds (if position = 0 then none else text[position - 1]?) text[position]?
  | .seq left right, starts => ends text right (ends text left starts)
  | .alt left right, starts => merge (ends text left starts) (ends text right starts)
  | .repeat body least most, starts =>
      let step := ends text body
      let arrived := iterate step (min least (text.size + 1)) starts
      match most with
      | none => within step text.size arrived
      | some bound => within step (min (bound - least) text.size) arrived

/-- Whether the expression matches somewhere in the text. -/
def isMatch (regex : Regex) (text : String) : Bool :=
  let chars := text.toList.toArray
  !(ends chars regex (List.range (chars.size + 1))).isEmpty

end Regex

end CypherExpr
