import CypherExpr.Expr.Basic
import CypherExpr.Value.Render

/-!
# Text of expressions

Expressions are written in the syntax of the query language.  Binary operations are in parentheses;
the other operators are not, so the text names an expression and is not meant to be read back.
-/

namespace CypherExpr

/-- The doubles without a numeral, as literals name them. -/
def literalFloatWords : Decimal.SpecialWords := ⟨"NaN", "inf"⟩

def Literal.render : Literal → String
  | .null => "null"
  | .boolean value => toString value
  | .integer value => toString value.toInt
  | .float value => Decimal.render literalFloatWords value
  | .string value => quoted value

def HopRange.render (range : HopRange) : String :=
  "*" ++ (range.least.map toString).getD "" ++ ".." ++ (range.most.map toString).getD ""

/-- What stands before and after the brackets of a relationship pattern. -/
def Direction.arrows : Direction → String × String
  | .outgoing => ("-", "->")
  | .incoming => ("<-", "-")
  | .both => ("-", "-")

namespace Expr

def joined (texts : List String) : String := ", ".intercalate texts

/-- Rendered entries in braces after a blank, nothing if there are none. -/
def constraintText (entries : List String) : String :=
  if entries.isEmpty then "" else " " ++ Value.braced entries

mutual

def render : Expr → String
  | .literal value => value.render
  | .variable name => name
  | .parameter name => "$" ++ name
  | .property subject key => render subject ++ "." ++ key
  | .index container position => render container ++ "[" ++ render position ++ "]"
  | .slice source lower upper =>
      render source ++ "[" ++ renderOption "" lower ++ ".." ++ renderOption "" upper ++ "]"
  | .binary op left right => "(" ++ render left ++ " " ++ op.symbol ++ " " ++ render right ++ ")"
  | .unary .not operand => "NOT " ++ render operand
  | .unary .negate operand => "-" ++ render operand
  | .unary .isNull operand => render operand ++ " IS NULL"
  | .unary .isNotNull operand => render operand ++ " IS NOT NULL"
  | .conjunction operands => " AND ".intercalate (renderList operands)
  | .disjunction operands => " OR ".intercalate (renderList operands)
  | .call name args distinct =>
      name ++ "(" ++ (if distinct then "DISTINCT " else "") ++ joined (renderList args) ++ ")"
  | .countRows => "count(*)"
  | .list items => "[" ++ joined (renderList items) ++ "]"
  | .map entries => Value.braced (renderEntries entries)
  | .mapProjection subject items => subject ++ " " ++ Value.braced (renderItems items)
  | .case subject alternatives fallback =>
      "CASE" ++ renderOption " " subject ++ String.join (renderAlternatives alternatives)
        ++ renderOption " ELSE " fallback ++ " END"
  | .comprehension binder source predicate projection =>
      "[" ++ binder ++ " IN " ++ render source ++ renderOption " WHERE " predicate
        ++ renderOption " | " projection ++ "]"
  | .reduce accumulator init binder source body =>
      "reduce(" ++ accumulator ++ " = " ++ render init ++ ", " ++ binder ++ " IN " ++ render source
        ++ " | " ++ render body ++ ")"
  | .quantified quantifier binder source predicate =>
      quantifier.word ++ "(" ++ binder ++ " IN " ++ render source
        ++ renderOption " WHERE " predicate ++ ")"
  | .pattern shape => renderPattern shape
  | .patternComprehension name shape predicate projection =>
      "[" ++ (name.map (· ++ " = ")).getD "" ++ renderPattern shape
        ++ renderOption " WHERE " predicate ++ " | " ++ render projection ++ "]"
  | .path steps => renderSteps steps
termination_by structural expr => expr

/-- The lead and the expression, or nothing. -/
def renderOption (lead : String) : Option Expr → String
  | none => ""
  | some expr => lead ++ render expr
termination_by structural expr => expr

def renderList : List Expr → List String
  | [] => []
  | expr :: rest => render expr :: renderList rest
termination_by structural exprs => exprs

def renderEntries : List (String × Expr) → List String
  | [] => []
  | (key, expr) :: rest => (key ++ ": " ++ render expr) :: renderEntries rest
termination_by structural entries => entries

def renderItems : List (ProjectionItem Expr) → List String
  | [] => []
  | .property key :: rest => ("." ++ key) :: renderItems rest
  | .entry key expr :: rest => (key ++ ": " ++ render expr) :: renderItems rest
  | .variable name :: rest => name :: renderItems rest
  | .allProperties :: rest => ".*" :: renderItems rest
termination_by structural items => items

def renderAlternatives : List (Expr × Expr) → List String
  | [] => []
  | (condition, result) :: rest =>
      (" WHEN " ++ render condition ++ " THEN " ++ render result) :: renderAlternatives rest
termination_by structural alternatives => alternatives

def renderPattern : Pattern Expr → String
  | ⟨start, chain⟩ => renderNodePattern start ++ renderChain chain
termination_by structural shape => shape

def renderChain : List (RelationshipPattern Expr × NodePattern Expr) → String
  | [] => ""
  | (hop, target) :: rest =>
      renderRelationshipPattern hop ++ renderNodePattern target ++ renderChain rest
termination_by structural chain => chain

def renderNodePattern : NodePattern Expr → String
  | ⟨name, labels, properties⟩ =>
      "(" ++ name.getD "" ++ String.join (labels.map (":" ++ ·))
        ++ constraintText (renderEntries properties) ++ ")"
termination_by structural shape => shape

def renderRelationshipPattern : RelationshipPattern Expr → String
  | ⟨name, kinds, properties, direction, range⟩ =>
      direction.arrows.1 ++ "[" ++ name.getD ""
        ++ (if kinds.isEmpty then "" else ":" ++ "|".intercalate kinds)
        ++ (range.map HopRange.render).getD ""
        ++ constraintText (renderEntries properties) ++ "]" ++ direction.arrows.2
termination_by structural shape => shape

def renderSteps : PathStep Expr → String
  | .done => ""
  | .node expr next => "(" ++ render expr ++ ")" ++ renderSteps next
  | .relationship expr target next =>
      "-[" ++ render expr ++ "]-(" ++ renderOption "" target ++ ")" ++ renderSteps next
  | .segment name next => "-[" ++ name ++ "*]-" ++ renderSteps next
termination_by structural steps => steps

end

end Expr

def NodePattern.render (shape : NodePattern Expr) : String := Expr.renderNodePattern shape

def RelationshipPattern.render (shape : RelationshipPattern Expr) : String :=
  Expr.renderRelationshipPattern shape

end CypherExpr
