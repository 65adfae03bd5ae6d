import CypherExpr.Value.Basic

/-!
# Binding contexts

The variables, parameters and path segments that an expression can see.  Deriving a context puts new
bindings in front of the old ones and leaves the old context as it was.
-/

namespace CypherExpr

structure Context where
  /-- Variables with their values; the first entry for a name counts. -/
  bindings : List (String × Value)
  /-- Paths matched earlier, under the names of their relationship variables. -/
  segments : List (String × Path Value)
  parameters : List (String × Value)

namespace Context

def empty : Context := ⟨[], [], []⟩

def lookup (context : Context) (name : String) : Option Value :=
  List.lookup name context.bindings

def isBound (context : Context) (name : String) : Bool := (context.lookup name).isSome

def parameter? (context : Context) (name : String) : Option Value :=
  List.lookup name context.parameters

def segment? (context : Context) (name : String) : Option (Path Value) :=
  List.lookup name context.segments

def bind (context : Context) (name : String) (value : Value) : Context :=
  { context with bindings := (name, value) :: context.bindings }

/-- Adds bindings from left to right: of two for one name the later counts. -/
def bindAll (context : Context) (entries : List (String × Value)) : Context :=
  entries.foldl (fun soFar entry => soFar.bind entry.1 entry.2) context

def withSegment (context : Context) (name : String) (path : Path Value) : Context :=
  { context with segments := (name, path) :: context.segments }

/-- Supplies a parameter in place of any earlier one of that name. -/
def withParameter (context : Context) (name : String) (value : Value) : Context :=
  { context with parameters := (name, value) :: context.parameters }

@[simp]
theorem lookup_bind (context : Context) (name other : String) (value : Value) :
    (context.bind name value).lookup other =
      if other = name then some value else context.lookup other := by
  by_cases h : other = name
  · simp [bind, lookup, h]
  · simp [bind, lookup, List.lookup_cons, beq_eq_false_iff_ne.2 h, h]

@[simp]
theorem parameter?_bind (context : Context) (name other : String) (value : Value) :
    (context.bind name value).parameter? other = context.parameter? other := rfl

@[simp]
theorem segment?_bind (context : Context) (name other : String) (value : Value) :
    (context.bind name value).segment? other = context.segment? other := rfl

end Context

end CypherExpr
