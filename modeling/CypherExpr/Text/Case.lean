import CypherExpr.Text.CaseTable
import CypherExpr.Text.Letter

/-!
# Case conversion

Full Unicode case conversion, without regard to language: a character may become several, and a
capital sigma at the end of a word becomes the final form of the letter.
-/

namespace CypherExpr.Text

/-- Where the run sends a code point, if it is in the run. -/
def CaseRun.apply (run : CaseRun) (point : Nat) : Option Nat :=
  if run.first ≤ point ∧ point ≤ run.last ∧ (point - run.first) % run.step = 0 then
    some (point + run.shift).toNat
  else none

def shifted (runs : List CaseRun) (point : Nat) : Nat :=
  (runs.findSome? fun run => run.apply point).getD point

/-- The conversion of one character by a table of strings and a table of runs. -/
def mapped (strings : List (Nat × List Nat)) (runs : List CaseRun) (c : Char) : List Char :=
  match strings.lookup c.toNat with
  | some points => points.map Char.ofNat
  | none => [Char.ofNat (shifted runs c.toNat)]

def upperOf (c : Char) : List Char :=
  if c.toNat < 128 then [c.toUpper] else mapped upperStrings upperRuns c

def lowerOf (c : Char) : List Char :=
  if c.toNat < 128 then [c.toLower] else mapped lowerStrings lowerRuns c

def toUpper (text : String) : String :=
  String.ofList (text.toList.flatMap upperOf)

/-- Whether the first character that takes part in casing is a cased letter. -/
def cased (chars : List Char) : Bool :=
  match chars.dropWhile isCaseIgnorable with
  | [] => false
  | c :: _ => isCased c

/-- Lowers the characters from left to right; `before` holds those already passed, nearest first.  A
capital sigma ends a word when a cased letter stands before it and none after it. -/
def lowerFrom (before : List Char) : List Char → List Char
  | [] => []
  | c :: rest =>
      let image :=
        if c == 'Σ' then (if cased before && !cased rest then ['ς'] else ['σ']) else lowerOf c
      image ++ lowerFrom (c :: before) rest

def toLower (text : String) : String :=
  String.ofList (lowerFrom [] text.toList)

/-! ## Case folding -/

/-- The representative of the case-folding class of a code point. -/
def foldPoint (point : Nat) : Nat := shifted foldRuns point

/-- The run read backward: the member of the run that is sent to `point`. -/
def CaseRun.preimage (run : CaseRun) (point : Nat) : Option Nat :=
  let source := (point : Int) - run.shift
  if (run.first : Int) ≤ source ∧ source ≤ run.last ∧ (source - run.first) % run.step = 0 then
    some source.toNat
  else none

/-- Every character that matches `c` when case does not matter, `c` among them. -/
def caseVariants (c : Char) : List Char :=
  let head := foldPoint c.toNat
  Char.ofNat head :: (foldRuns.filterMap fun run => run.preimage head).map Char.ofNat

end CypherExpr.Text
