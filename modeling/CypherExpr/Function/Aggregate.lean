import CypherExpr.Error
import CypherExpr.Value.Order

/-!
# Aggregate functions

Functions of a column, the list of the values of a group of rows.  Null entries are ignored.
-/

namespace CypherExpr.Aggregate

/-- The entries of the column, which is the first argument, without the nulls. -/
def column (name : String) : List Value → Result (List Value)
  | .list items :: _ => .ok (items.filter fun value => !value.isNull)
  | other :: _ => .error (.mismatch "List" other)
  | [] => .error (.invocation name "missing aggregated column")

def count (args : List Value) : Result Value := do
  let entries ← column "count" args
  match Checked.narrow entries.length with
  | some size => .ok (.integer size)
  | none => .error (.overflow "count")

def collect (args : List Value) : Result Value :=
  (column "collect" args).map .list

/-- Adds an entry to a sum: integers stay integers, and a float makes the sum a float. -/
def addEntry (total entry : Value) : Result Value :=
  match total, entry with
  | .integer left, .integer right =>
      match Checked.add left right with
      | some sum => .ok (.integer sum)
      | none => .error (.overflow "sum")
  | _, _ =>
      match total.asFloat?, entry.asFloat? with
      | some left, some right => .ok (.float (left + right))
      | _, _ => .error (.mismatch "Integer or Float" entry)

/-- The sum of the entries from left to right, the integer zero for none. -/
def sum (args : List Value) : Result Value := do
  let entries ← column "sum" args
  entries.foldlM addEntry (.integer 0)

/-- The entries as doubles. -/
def numbers : List Value → Result (List Float)
  | [] => .ok []
  | entry :: rest =>
      match entry.asFloat? with
      | some number => (numbers rest).map (number :: ·)
      | none => .error (.mismatch "Integer or Float" entry)

/-- The arithmetic mean as a float, null for no entries. -/
def avg (args : List Value) : Result Value := do
  let entries ← column "avg" args
  let values ← numbers entries
  if values.isEmpty then .ok .null
  else .ok (.float (values.foldl (· + ·) 0 / Float.ofNat values.length))

/-- The better of two entries: the new one if it stands to the best so far as `wanted` says. -/
def better (name : String) (wanted : Ordering) (best entry : Value) : Result Value :=
  match entry.order best with
  | some ordering => .ok (if ordering == wanted then entry else best)
  | none =>
      .error (.invocation name
        ("cannot compare " ++ entry.kindName ++ " with " ++ best.kindName))

/-- The first of the entries that are best, null for no entries. -/
def extreme (name : String) (wanted : Ordering) (args : List Value) : Result Value := do
  match ← column name args with
  | [] => .ok .null
  | first :: rest => rest.foldlM (better name wanted) first

def min : List Value → Result Value := extreme "min" .lt

def max : List Value → Result Value := extreme "max" .gt

end CypherExpr.Aggregate
