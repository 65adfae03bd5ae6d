import CypherExpr.Error
import CypherExpr.Text.Case
import CypherExpr.Typing.ValueType

/-!
# Functions and their registry

A function has a name, a range of argument counts, a declared return type and an implementation.
Names are resolved without regard to case.
-/

namespace CypherExpr

/-- A function that expressions can call.  It is assumed to keep no state: what a call gives depends
on its arguments alone, and no call changes what a later one gives. -/
structure Function where
  /-- The name as registered. -/
  name : String
  least : Nat
  /-- The greatest number of arguments, absent where there is none. -/
  most : Option Nat
  returns : ValueType
  /-- Whether the function folds the rows of a group; its first argument is then a column. -/
  aggregating : Bool
  /-- The implementation; its errors may bear marks of its own. -/
  run : List Value → Outcome Value

namespace Function

/-- A function of one argument. -/
def scalar (name : String) (returns : ValueType) (run : List Value → Result Value) : Function :=
  ⟨name, 1, some 1, returns, false, fun args => .ofResult (run args)⟩

/-- A function of one column. -/
def aggregate (name : String) (returns : ValueType) (run : List Value → Result Value) : Function :=
  ⟨name, 1, some 1, returns, true, fun args => .ofResult (run args)⟩

def withArity (function : Function) (least : Nat) (most : Option Nat) : Function :=
  { function with least := least, most := most }

def accepts (function : Function) (count : Nat) : Bool :=
  decide (function.least ≤ count) && function.most.all fun most => decide (count ≤ most)

def arityText (function : Function) : String :=
  match function.most with
  | some most =>
      if most = function.least then "exactly " ++ toString most ++ " argument(s)"
      else toString function.least ++ " to " ++ toString most ++ " arguments"
  | none => "at least " ++ toString function.least ++ " argument(s)"

/-- The error for a call with a wrong number of arguments. -/
def arityCause (function : Function) (name : String) (count : Nat) : Cause :=
  .invocation name ("expected " ++ function.arityText ++ ", got " ++ toString count)

end Function

/-- Functions under their names in lower case. -/
structure Registry where
  functions : Properties Function

namespace Registry

def empty : Registry := ⟨[]⟩

/-- Registers a function in place of any earlier one of its name. -/
def register (registry : Registry) (function : Function) : Registry :=
  ⟨registry.functions.set (Text.toLower function.name) function⟩

def ofFunctions (functions : List Function) : Registry := functions.foldl register empty

def find? (registry : Registry) (name : String) : Option Function :=
  registry.functions.get? (Text.toLower name)

def contains (registry : Registry) (name : String) : Bool := (registry.find? name).isSome

def isAggregating (registry : Registry) (name : String) : Bool :=
  (registry.find? name).any Function.aggregating

def size (registry : Registry) : Nat := registry.functions.length

end Registry

end CypherExpr
