/-!
# Expressions

The expressions of the query language as trees.  Patterns, path steps and the items of a map
projection are parametric in the expressions they contain.
-/

namespace CypherExpr

inductive Literal where
  | null
  | boolean (value : Bool)
  | integer (value : Int64)
  | float (value : Float)
  | string (value : String)

def Literal.isNull : Literal → Bool
  | .null => true
  | _ => false

inductive BinaryOp where
  | and
  | or
  | xor
  | equal
  | notEqual
  | less
  | lessOrEqual
  | greater
  | greaterOrEqual
  | startsWith
  | endsWith
  | contains
  | regexMatch
  | isIn
  | add
  | subtract
  | multiply
  | divide
  | modulo
  | power
  deriving DecidableEq, Repr

namespace BinaryOp

def symbol : BinaryOp → String
  | and => "AND"
  | or => "OR"
  | xor => "XOR"
  | equal => "="
  | notEqual => "<>"
  | less => "<"
  | lessOrEqual => "<="
  | greater => ">"
  | greaterOrEqual => ">="
  | startsWith => "STARTS WITH"
  | endsWith => "ENDS WITH"
  | contains => "CONTAINS"
  | regexMatch => "=~"
  | isIn => "IN"
  | add => "+"
  | subtract => "-"
  | multiply => "*"
  | divide => "/"
  | modulo => "%"
  | power => "^"

def isArithmetic : BinaryOp → Bool
  | add | subtract | multiply | divide | modulo | power => true
  | _ => false

/-- Predicates give a truth value or null. -/
def isPredicate (op : BinaryOp) : Bool := !op.isArithmetic

end BinaryOp

inductive UnaryOp where
  | not
  | negate
  | isNull
  | isNotNull
  deriving DecidableEq, Repr

inductive Quantifier where
  | all
  | any
  | none
  | single
  deriving DecidableEq, Repr

def Quantifier.word : Quantifier → String
  | .all => "all"
  | .any => "any"
  | .none => "none"
  | .single => "single"

/-- The direction in which a pattern crosses a relationship, seen from its left node. -/
inductive Direction where
  | outgoing
  | incoming
  | both
  deriving DecidableEq, Repr

/-- Bounds on the number of relationships that a pattern crosses. -/
structure HopRange where
  least : Option Nat
  most : Option Nat
  deriving DecidableEq, Repr

structure NodePattern (ε : Type) where
  name? : Option String
  labels : List String
  properties : List (String × ε)

structure RelationshipPattern (ε : Type) where
  name? : Option String
  kinds : List String
  properties : List (String × ε)
  direction : Direction
  range : Option HopRange

/-- Whether the pattern crosses exactly one relationship. -/
def RelationshipPattern.isSingleHop {ε : Type} (pattern : RelationshipPattern ε) : Bool :=
  match pattern.range with
  | none => true
  | some range => range.least == some 1 && range.most == some 1

/-- A node pattern followed by relationship patterns, each with the node pattern it leads to. -/
structure Pattern (ε : Type) where
  start : NodePattern ε
  chain : List (RelationshipPattern ε × NodePattern ε)

def Pattern.hops {ε : Type} (pattern : Pattern ε) : Nat := pattern.chain.length

inductive ProjectionItem (ε : Type) where
  /-- The entry `.key` -/
  | property (key : String)
  /-- The entry `key: value` -/
  | entry (key : String) (value : ε)
  /-- The entry `name`, for `name: name` -/
  | variable (name : String)
  /-- The entry `.*` -/
  | allProperties

/-- A chain of steps from which a path is rebuilt.  A segment is a path matched earlier and known
by the name of its relationship variable. -/
inductive PathStep (ε : Type) where
  | done
  | node (node : ε) (next : PathStep ε)
  | relationship (relationship : ε) (node : Option ε) (next : PathStep ε)
  | segment (name : String) (next : PathStep ε)

namespace PathStep

def isDone {ε : Type} : PathStep ε → Bool
  | done => true
  | _ => false

def isSegment {ε : Type} : PathStep ε → Bool
  | segment .. => true
  | _ => false

end PathStep

inductive Expr where
  | literal (value : Literal)
  | variable (name : String)
  | parameter (name : String)
  /-- Property access `subject.key` -/
  | property (subject : Expr) (key : String)
  /-- Subscript `container[index]` -/
  | index (container index : Expr)
  /-- Slice `list[from..to]` -/
  | slice (list : Expr) (lower upper : Option Expr)
  | binary (op : BinaryOp) (left right : Expr)
  | unary (op : UnaryOp) (operand : Expr)
  /-- Conjunction of any number of operands -/
  | conjunction (operands : List Expr)
  /-- Disjunction of any number of operands -/
  | disjunction (operands : List Expr)
  | call (name : String) (args : List Expr) (distinct : Bool)
  /-- The aggregation `count(*)` -/
  | countRows
  | list (items : List Expr)
  | map (entries : List (String × Expr))
  /-- Map projection `variable` with its items in braces -/
  | mapProjection (subject : String) (items : List (ProjectionItem Expr))
  /-- The expression `CASE … WHEN … THEN … ELSE … END` -/
  | case (subject : Option Expr) (alternatives : List (Expr × Expr)) (default : Option Expr)
  /-- List comprehension `[binder IN list WHERE predicate | projection]` -/
  | comprehension (binder : String) (list : Expr) (predicate projection : Option Expr)
  /-- Left fold `reduce(accumulator = init, binder IN list | body)` -/
  | reduce (accumulator : String) (init : Expr) (binder : String) (list body : Expr)
  /-- Quantified predicate `all(binder IN list WHERE predicate)` -/
  | quantified (quantifier : Quantifier) (binder : String) (list : Expr) (predicate : Option Expr)
  /-- Pattern as an expression, worth the list of its paths -/
  | pattern (pattern : Pattern Expr)
  /-- Pattern comprehension `[name = pattern WHERE predicate | projection]` -/
  | patternComprehension (name : Option String) (pattern : Pattern Expr)
      (predicate : Option Expr) (projection : Expr)
  /-- Path rebuilt from steps -/
  | path (steps : PathStep Expr)

namespace Expr

instance : Inhabited Expr := ⟨.literal .null⟩

def null : Expr := literal .null

/-- The name of the kind of an expression. -/
def kindName : Expr → String
  | .literal .. => "Literal"
  | .variable .. => "Variable"
  | .parameter .. => "Parameter"
  | .property .. => "Property"
  | .index .. => "Index"
  | .slice .. => "Slice"
  | .binary .. => "Binary"
  | .unary .. => "Unary"
  | .conjunction .. => "Ands"
  | .disjunction .. => "Ors"
  | .call .. => "FunctionCall"
  | .countRows => "CountStar"
  | .list .. => "List"
  | .map .. => "Map"
  | .mapProjection .. => "MapProjection"
  | .case .. => "Case"
  | .comprehension .. => "ListComprehension"
  | .reduce .. => "Reduce"
  | .quantified .. => "Quantified"
  | .pattern .. => "Pattern"
  | .patternComprehension .. => "PatternComprehension"
  | .path .. => "Path"

end Expr

end CypherExpr
