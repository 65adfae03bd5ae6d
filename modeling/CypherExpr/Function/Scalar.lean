import CypherExpr.Error
import CypherExpr.Number.Decimal
import CypherExpr.Text.Blank
import CypherExpr.Text.Case

/-!
# Scalar functions

Functions of the values of one row.  A null argument gives null unless the function says otherwise.
-/

namespace CypherExpr.Scalar

/-- The only argument of a function of one argument. -/
def single (name : String) : List Value → Result Value
  | [value] => .ok value
  | args =>
      .error (.invocation name ("expected exactly 1 argument(s), got " ++ toString args.length))

/-- A function of one argument that is null for null. -/
def onValue (name : String) (run : Value → Result Value) (args : List Value) : Result Value :=
  match single name args with
  | .ok .null => .ok .null
  | .ok value => run value
  | .error cause => .error cause

def ofCount (count : Nat) : Value := .integer (Checked.count count)

def ofChecked (operation : String) : Option Int64 → Result Value
  | some value => .ok (.integer value)
  | none => .error (.overflow operation)

/-! ## Lists -/

def size : List Value → Result Value :=
  onValue "size" fun
    | .list items => .ok (ofCount items.length)
    | .string text => .ok (ofCount text.length)
    | other => .error (.mismatch "List or String" other)

def length : List Value → Result Value :=
  onValue "length" fun
    | .path path => .ok (ofCount path.length)
    | .list items => .ok (ofCount items.length)
    | .string text => .ok (ofCount text.length)
    | other => .error (.mismatch "Path" other)

/-- A function of one list. -/
def onList (name : String) (run : List Value → Value) : List Value → Result Value :=
  onValue name fun
    | .list items => .ok (run items)
    | other => .error (.mismatch "List" other)

def head : List Value → Result Value := onList "head" fun items => .ofOption items.head?

def last : List Value → Result Value := onList "last" fun items => .ofOption items.getLast?

def tail : List Value → Result Value := onList "tail" fun items => .list (items.drop 1)

def reverse : List Value → Result Value :=
  onValue "reverse" fun
    | .list items => .ok (.list items.reverse)
    | .string text => .ok (.string (String.ofList text.toList.reverse))
    | other => .error (.mismatch "List or String" other)

/-- Whether a value lies beyond the stop, in the direction of the step. -/
def isPast (stop step value : Int64) : Bool :=
  decide (0 < step ∧ stop < value) || decide (step < 0 ∧ value < stop)

/-- How many integers there are from a value on to the stop, in the direction of the step. -/
def distance (stop step value : Int64) : Nat :=
  if 0 < step.toInt then (stop.toInt + 1 - value.toInt).toNat
  else (value.toInt + 1 - stop.toInt).toNat

theorem isPast_iff {stop step value : Int64} :
    isPast stop step value = true ↔
      (0 < step.toInt ∧ stop.toInt < value.toInt) ∨
        (step.toInt < 0 ∧ value.toInt < stop.toInt) := by
  simp [isPast, Int64.lt_iff_toInt_lt]

/-- A term that is not past the stop is farther from it than the next one, which may be no word. -/
theorem distance_lt {stop step value : Int64} (hstep : step ≠ 0)
    (hpast : ¬ isPast stop step value = true) :
    (Checked.add value step).elim 0 (distance stop step) < distance stop step value := by
  have hzero : step.toInt ≠ 0 := fun hzero => hstep (Int64.toInt_inj.mp hzero)
  rw [isPast_iff] at hpast
  cases hnext : Checked.add value step with
  | none =>
      rw [Option.elim_none, distance]
      split <;> omega
  | some next =>
      have hsum := Checked.narrow_eq_some_iff.mp hnext
      rw [Option.elim_some, distance, distance]
      split <;> omega

/-- The terms of a progression from the current one on: up to the stop, or up to the last one that
is a word. -/
def terms (stop step : Int64) (hstep : step ≠ 0) : Option Int64 → List Int64
  | none => []
  | some value =>
      if isPast stop step value then []
      else value :: terms stop step hstep (Checked.add value step)
termination_by current => current.elim 0 (distance stop step)
decreasing_by exact distance_lt hstep ‹_›

/-- An integer argument; errors name the kind that was found. -/
def integerArgument : Value → Result Int64
  | .integer value => .ok value
  | other => .error (.mismatch "Integer" other)

/-- The progression from start to stop, both bounds included. -/
def rangeBetween (start stop step : Value) : Result Value := do
  let start ← integerArgument start
  let stop ← integerArgument stop
  let step ← integerArgument step
  if hstep : step = 0 then .error (.invocation "range" "step must not be zero")
  else .ok (.list ((terms stop step hstep (some start)).map .integer))

def range : List Value → Result Value
  | [start, stop] =>
      if start.isNull || stop.isNull then .ok .null else rangeBetween start stop (.integer 1)
  | [start, stop, step] =>
      if start.isNull || stop.isNull || step.isNull then .ok .null else rangeBetween start stop step
  | args => .error (.invocation "range" ("expected 2 to 3 arguments, got " ++ toString args.length))

/-! ## Graph entities -/

/-- A function of the properties of a map, a node or a relationship. -/
def onProperties (name : String) (run : Properties Value → Value) : List Value → Result Value :=
  onValue name fun value =>
    match value.properties? with
    | some properties => .ok (run properties)
    | none => .error (.mismatch "Map, Node or Relationship" value)

def keys : List Value → Result Value :=
  onProperties "keys" fun properties => .list (properties.keys.map .string)

def properties : List Value → Result Value := onProperties "properties" .map

def labels : List Value → Result Value :=
  onValue "labels" fun
    | .node node => .ok (.list (node.labels.map .string))
    | other => .error (.mismatch "Node" other)

def kind : List Value → Result Value :=
  onValue "type" fun
    | .relationship relationship => .ok (.string relationship.kind)
    | other => .error (.mismatch "Relationship" other)

def id : List Value → Result Value :=
  onValue "id" fun
    | .node node => .ok (.integer node.id)
    | .relationship relationship => .ok (.integer relationship.id)
    | other => .error (.mismatch "Node or Relationship" other)

def nodes : List Value → Result Value :=
  onValue "nodes" fun
    | .path path => .ok (.list (path.nodes.map .node))
    | other => .error (.mismatch "Path" other)

def relationships : List Value → Result Value :=
  onValue "relationships" fun
    | .path path => .ok (.list (path.relationships.map .relationship))
    | other => .error (.mismatch "Path" other)

/-! ## Null handling -/

/-- The first argument that is not null. -/
def coalesce (args : List Value) : Result Value :=
  .ok (.ofOption (args.find? fun value => !value.isNull))

/-! ## Strings and conversion -/

/-- A function of one string. -/
def onString (name : String) (run : String → String) : List Value → Result Value :=
  onValue name fun
    | .string text => .ok (.string (run text))
    | other => .error (.mismatch "String" other)

def toUpper : List Value → Result Value := onString "toUpper" Text.toUpper

def toLower : List Value → Result Value := onString "toLower" Text.toLower

def trim : List Value → Result Value := onString "trim" Text.trim

def toText : List Value → Result Value :=
  onValue "toString" fun value =>
    match value with
    | .list _ | .map _ | .node _ | .relationship _ | .path _ =>
        .error (.mismatch "Boolean, number, String or temporal value" value)
    | _ => .ok (.string value.plainText)

/-- The integer that a text stands for: a decimal integer, or a decimal number cut to an integer. -/
def integerOfText (text : String) : Option Int64 :=
  let trimmed := Text.trim text
  Decimal.readInteger trimmed <|> (Decimal.readFloat trimmed).bind Binary64.toInteger

/-- Conversion to an integer; null where the text is no number or the number is out of range. -/
def toInteger : List Value → Result Value :=
  onValue "toInteger" fun
    | .integer value => .ok (.integer value)
    | .float value => .ok (.ofOption ((Binary64.toInteger value).map .integer))
    | .boolean value => .ok (.integer (if value then 1 else 0))
    | .string text => .ok (.ofOption ((integerOfText text).map .integer))
    | other => .error (.mismatch "Boolean, number or String" other)

/-- Conversion to a float; null where the text is no number. -/
def toFloat : List Value → Result Value :=
  onValue "toFloat" fun
    | .float value => .ok (.float value)
    | .integer value => .ok (.float (Binary64.ofInteger value))
    | .string text => .ok (.ofOption ((Decimal.readFloat (Text.trim text)).map .float))
    | other => .error (.mismatch "number or String" other)

/-! ## Numbers -/

def abs : List Value → Result Value :=
  onValue "abs" fun
    | .integer value => ofChecked "abs" (Checked.magnitude value)
    | .float value => .ok (.float value.abs)
    | other => .error (.mismatch "Integer or Float" other)

def sqrt : List Value → Result Value :=
  onValue "sqrt" fun value =>
    match value.asFloat? with
    | some number => .ok (.float number.sqrt)
    | none => .error (.mismatch "Integer or Float" value)

end CypherExpr.Scalar
