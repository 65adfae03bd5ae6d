import CypherExpr.Expr.Render
import CypherExpr.Value.Access

/-!
# Evaluation errors

An error is a cause and, once it has left an expression, is marked with the text of that expression.
An error that is marked already keeps its mark, so the innermost expression is the one recorded.
-/

namespace CypherExpr

/-- What went wrong. -/
inductive Cause where
  /-- A value was of the wrong kind for the operation -/
  | typeMismatch (expected found : String)
  | unboundVariable (name : String)
  | unboundParameter (name : String)
  | unsupported (construct : String)
  /-- A function was called in a way that it does not accept -/
  | invocation (name message : String)
  | undefinedFunction (name : String)
  | divisionByZero
  | overflow (operation : String)
  | invalidRegex (pattern : String)
  | pathConstruction (message : String)
  /-- A pattern was evaluated without a graph -/
  | missingGraph
  | graph (message : String)
  | recursionLimit
  deriving DecidableEq

def Cause.message : Cause → String
  | .typeMismatch expected found => "Type mismatch: expected " ++ expected ++ ", found " ++ found
  | .unboundVariable name => "Unbound variable: " ++ name
  | .unboundParameter name => "Unbound parameter: $" ++ name
  | .unsupported construct => "Unsupported construct: " ++ construct
  | .invocation name message => "Invalid invocation of " ++ name ++ ": " ++ message
  | .undefinedFunction name => "Undefined function: " ++ name
  | .divisionByZero => "Division by zero"
  | .overflow operation => "Arithmetic overflow in " ++ operation
  | .invalidRegex pattern => "Invalid regex pattern: " ++ pattern
  | .pathConstruction message => "Cannot construct path: " ++ message
  | .missingGraph => "No graph configured for pattern evaluation"
  | .graph message => "Graph error: " ++ message
  | .recursionLimit => "Maximum recursion depth exceeded"

/-- The value was not of the expected kind. -/
def Cause.mismatch (expected : String) (value : Value) : Cause :=
  .typeMismatch expected value.kindName

/-- A cause, or an error marked with the text of an expression. -/
inductive EvalError where
  | ofCause (cause : Cause)
  | marked (expression : String) (source : EvalError)
  deriving DecidableEq

namespace EvalError

/-- The cause below all marks. -/
def root : EvalError → Cause
  | ofCause cause => cause
  | marked _ source => source.root

/-- The text that the error is marked with. -/
def mark? : EvalError → Option String
  | ofCause _ => none
  | marked expression _ => some expression

/-- Marks the error with an expression that it leaves, unless it is marked already. -/
def leaving (error : EvalError) (expr : Expr) : EvalError :=
  match error with
  | ofCause cause => marked expr.render (ofCause cause)
  | marked expression source => marked expression source

def message : EvalError → String
  | ofCause cause => cause.message
  | marked expression source => source.message ++ " (in `" ++ expression ++ "`)"

@[simp]
theorem root_leaving (error : EvalError) (expr : Expr) :
    (error.leaving expr).root = error.root := by
  cases error <;> rfl

end EvalError

/-- The outcome of an operation on values. -/
abbrev Result (α : Type) := Except Cause α

/-- The outcome of evaluating an expression. -/
abbrev Outcome (α : Type) := Except EvalError α

namespace Outcome

def ofResult {α : Type} : Result α → Outcome α
  | .ok value => .ok value
  | .error cause => .error (.ofCause cause)

def fail {α : Type} (cause : Cause) : Outcome α := .error (.ofCause cause)

/-- The outcome of an expression whose parts gave this outcome. -/
def leaving {α : Type} (outcome : Outcome α) (expr : Expr) : Outcome α :=
  match outcome with
  | .ok value => .ok value
  | .error error => .error (error.leaving expr)

end Outcome

end CypherExpr
