import CypherExpr.Engine.Eval

/-!
# Aggregation

An aggregating expression folds the rows of one group.  The column of the first argument is
collected over the rows, without repetitions if asked for; the other arguments are evaluated on the
first row. -/

namespace CypherExpr

namespace Engine

/-- The values of an expression on the rows, in order.  With `distinct`, a value equal to one
already kept is left out. -/
def column (engine : Engine) (expr : Expr) (distinct : Bool) (kept : List Value) :
    List Context → Outcome (List Value)
  | [] => .ok kept
  | row :: rest => do
      let value ← engine.evaluate expr row
      if distinct && kept.any fun old => old.equals value then engine.column expr distinct kept rest
      else engine.column expr distinct (kept ++ [value]) rest

def aggregateCall (engine : Engine) (name : String) (args : List Expr) (distinct : Bool)
    (rows : List Context) : Outcome Value :=
  match engine.registry.find? name with
  | none => Outcome.fail (.undefinedFunction name)
  | some function =>
      if !function.aggregating then
        Outcome.fail (.invocation name "not an aggregating function")
      else
        match args with
        | [] => Outcome.fail (.invocation name "aggregation needs an argument")
        | first :: others =>
            if function.accepts args.length then do
              let entries ← engine.column first distinct [] rows
              let extra ← Eval.all engine.evaluate (rows.head?.getD .empty) others
              function.run (.list entries :: extra)
            else Outcome.fail (function.arityCause name args.length)

/-- Folds an aggregating expression over the rows of a group. -/
def aggregate (engine : Engine) (expr : Expr) (rows : List Context) : Outcome Value :=
  let outcome : Outcome Value :=
    match expr with
    | .countRows =>
        match Checked.narrow rows.length with
        | some size => .ok (.integer size)
        | none => Outcome.fail (.overflow "count(*)")
    | .call name args distinct => engine.aggregateCall name args distinct rows
    | other => Outcome.fail (.invocation other.kindName "expression is not an aggregation")
  outcome.leaving expr

theorem aggregate_call (engine : Engine) (name : String) (args : List Expr) (distinct : Bool)
    (rows : List Context) :
    engine.aggregate (.call name args distinct) rows =
      (engine.aggregateCall name args distinct rows).leaving (.call name args distinct) := rfl

end Engine

end CypherExpr
