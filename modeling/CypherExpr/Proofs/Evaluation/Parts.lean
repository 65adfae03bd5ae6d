import CypherExpr.Expr.Basic

/-!
# Parts and names of expressions

What evaluation can reach from an expression: its immediate parts, each with the names that the
expression binds around it, and the names that the expression looks up itself.  Everything that is
said about subexpressions, depth and free names is said through these lists, so a new construct of
the language is described in one place.
-/

namespace CypherExpr

/-! ## Expressions held by patterns, items and steps -/

section Holders

variable {ε ε' : Type}

def NodePattern.exprs (pattern : NodePattern ε) : List ε := pattern.properties.map Prod.snd

def RelationshipPattern.exprs (pattern : RelationshipPattern ε) : List ε :=
  pattern.properties.map Prod.snd

def Pattern.exprs (pattern : Pattern ε) : List ε :=
  pattern.start.exprs ++ pattern.chain.flatMap fun hop => hop.1.exprs ++ hop.2.exprs

/-- The variables of the node and relationship patterns. -/
def Pattern.names (pattern : Pattern ε) : List String :=
  pattern.start.name?.toList ++
    pattern.chain.flatMap fun hop => hop.1.name?.toList ++ hop.2.name?.toList

def ProjectionItem.expr? : ProjectionItem ε → Option ε
  | .entry _ value => some value
  | _ => none

def ProjectionItem.name? : ProjectionItem ε → Option String
  | .variable name => some name
  | _ => none

namespace PathStep

def exprs : PathStep ε → List ε
  | done => []
  | node expr next => expr :: next.exprs
  | relationship expr target next => expr :: (target.toList ++ next.exprs)
  | segment _ next => next.exprs

def segmentNames : PathStep ε → List String
  | done => []
  | node _ next => next.segmentNames
  | relationship _ _ next => next.segmentNames
  | segment name next => name :: next.segmentNames

end PathStep

/-! ## Rewriting the expressions held -/

def mapEntries (f : ε → ε') (entries : List (String × ε)) : List (String × ε') :=
  entries.map fun entry => (entry.1, f entry.2)

@[simp]
theorem mapEntries_id (entries : List (String × ε)) : mapEntries id entries = entries := by
  simp [mapEntries]

def NodePattern.map (f : ε → ε') (pattern : NodePattern ε) : NodePattern ε' :=
  ⟨pattern.name?, pattern.labels, mapEntries f pattern.properties⟩

def RelationshipPattern.map (f : ε → ε') (pattern : RelationshipPattern ε) :
    RelationshipPattern ε' :=
  ⟨pattern.name?, pattern.kinds, mapEntries f pattern.properties, pattern.direction,
    pattern.range⟩

def Pattern.map (f : ε → ε') (pattern : Pattern ε) : Pattern ε' :=
  ⟨pattern.start.map f, pattern.chain.map fun hop => (hop.1.map f, hop.2.map f)⟩

def ProjectionItem.map (f : ε → ε') : ProjectionItem ε → ProjectionItem ε'
  | .property key => .property key
  | .entry key value => .entry key (f value)
  | .variable name => .variable name
  | .allProperties => .allProperties

def PathStep.map (f : ε → ε') : PathStep ε → PathStep ε'
  | done => done
  | node expr next => node (f expr) (next.map f)
  | relationship expr target next => relationship (f expr) (target.map f) (next.map f)
  | segment name next => segment name (next.map f)

@[simp]
theorem NodePattern.map_id (pattern : NodePattern ε) : pattern.map id = pattern := by
  simp [NodePattern.map]

@[simp]
theorem RelationshipPattern.map_id (pattern : RelationshipPattern ε) :
    pattern.map id = pattern := by
  simp [RelationshipPattern.map]

@[simp]
theorem Pattern.map_id (pattern : Pattern ε) : pattern.map id = pattern := by
  simp [Pattern.map]

@[simp]
theorem ProjectionItem.map_id : (ProjectionItem.map id : ProjectionItem ε → _) = id := by
  funext item
  cases item <;> rfl

@[simp]
theorem PathStep.map_id (steps : PathStep ε) : steps.map id = steps := by
  induction steps with
  | done => rfl
  | node expr next ih => simp [PathStep.map, ih]
  | relationship expr target next ih => simp [PathStep.map, ih]
  | segment name next ih => simp [PathStep.map, ih]

@[simp]
theorem RelationshipPattern.isSingleHop_map (f : ε → ε') (pattern : RelationshipPattern ε) :
    (pattern.map f).isSingleHop = pattern.isSingleHop := rfl

@[simp]
theorem PathStep.isSegment_map (f : ε → ε') (steps : PathStep ε) :
    (steps.map f).isSegment = steps.isSegment := by
  cases steps <;> rfl

end Holders

/-! ## Immediate parts -/

/-- A part of an expression with the names that are bound around it, in the order of binding. -/
structure ScopedPart where
  bound : List String
  expr : Expr

namespace Expr

/-- Parts that stand in the scope of the same names. -/
def within (bound : List String) (exprs : List Expr) : List ScopedPart :=
  exprs.map fun expr => ⟨bound, expr⟩

/-- The immediate parts of an expression.  Path steps and parts of patterns are no expressions of
their own, so the expressions that they hold are immediate parts. -/
def scopedParts : Expr → List ScopedPart
  | .literal _ | .variable _ | .parameter _ | .countRows => []
  | .property subject _ => within [] [subject]
  | .index container position => within [] [container, position]
  | .slice source lower upper => within [] (source :: (lower.toList ++ upper.toList))
  | .binary _ left right => within [] [left, right]
  | .unary _ operand => within [] [operand]
  | .conjunction operands | .disjunction operands => within [] operands
  | .call _ args _ => within [] args
  | .list items => within [] items
  | .map entries => within [] (entries.map Prod.snd)
  | .mapProjection _ items => within [] (items.filterMap ProjectionItem.expr?)
  | .case subject alternatives fallback =>
      within [] (subject.toList ++ alternatives.flatMap (fun branch => [branch.1, branch.2]) ++
        fallback.toList)
  | .comprehension binder source predicate projection =>
      within [] [source] ++ within [binder] (predicate.toList ++ projection.toList)
  | .reduce accumulator init binder source body =>
      within [] [init, source] ++ within [accumulator, binder] [body]
  | .quantified _ binder source predicate => within [] [source] ++ within [binder] predicate.toList
  | .pattern shape => within [] shape.exprs
  | .patternComprehension name shape predicate projection =>
      within [] shape.exprs ++ within name.toList (predicate.toList ++ [projection])
  | .path steps => within [] steps.exprs

def parts (expr : Expr) : List Expr := expr.scopedParts.map ScopedPart.expr

/-- The names that an expression itself looks up among the variables. -/
def lookedUp : Expr → List String
  | .variable name => [name]
  | .mapProjection subject items => subject :: items.filterMap ProjectionItem.name?
  | .pattern shape | .patternComprehension _ shape _ _ => shape.names
  | _ => []

/-- The names that an expression itself looks up among the path segments. -/
def segmentNames : Expr → List String
  | .path steps => steps.segmentNames
  | _ => []

/-- Rewrites the immediate parts. -/
def mapParts (f : Expr → Expr) : Expr → Expr
  | .literal value => .literal value
  | .variable name => .variable name
  | .parameter name => .parameter name
  | .property subject key => .property (f subject) key
  | .index container position => .index (f container) (f position)
  | .slice source lower upper => .slice (f source) (lower.map f) (upper.map f)
  | .binary op left right => .binary op (f left) (f right)
  | .unary op operand => .unary op (f operand)
  | .conjunction operands => .conjunction (operands.map f)
  | .disjunction operands => .disjunction (operands.map f)
  | .call name args distinct => .call name (args.map f) distinct
  | .countRows => .countRows
  | .list items => .list (items.map f)
  | .map entries => .map (mapEntries f entries)
  | .mapProjection subject items => .mapProjection subject (items.map (ProjectionItem.map f))
  | .case subject alternatives fallback =>
      .case (subject.map f) (alternatives.map fun branch => (f branch.1, f branch.2))
        (fallback.map f)
  | .comprehension binder source predicate projection =>
      .comprehension binder (f source) (predicate.map f) (projection.map f)
  | .reduce accumulator init binder source body =>
      .reduce accumulator (f init) binder (f source) (f body)
  | .quantified quantifier binder source predicate =>
      .quantified quantifier binder (f source) (predicate.map f)
  | .pattern shape => .pattern (shape.map f)
  | .patternComprehension name shape predicate projection =>
      .patternComprehension name (shape.map f) (predicate.map f) (f projection)
  | .path steps => .path (steps.map f)

@[simp]
theorem mapParts_id (expr : Expr) : expr.mapParts id = expr := by
  cases expr <;> simp [mapParts]

/-! ## Subexpressions and free names -/

/-- The part stands so many levels of expressions below the root. -/
inductive PartAt : Nat → Expr → Expr → Prop
  | root (expr : Expr) : PartAt 0 expr expr
  | deeper {level : Nat} {part between expr : Expr} (hbetween : between ∈ expr.parts)
      (hpart : PartAt level part between) : PartAt (level + 1) part expr

/-- The expression itself or one of its subexpressions. -/
def Contains (expr part : Expr) : Prop := ∃ level, PartAt level part expr

/-- The name occurs in the expression outside the scopes that bind it. -/
inductive Free (name : String) : Expr → Prop
  | here {expr : Expr} (hname : name ∈ expr.lookedUp) : Free name expr
  | part {expr : Expr} {part : ScopedPart} (hpart : part ∈ expr.scopedParts)
      (hbound : name ∉ part.bound) (hfree : Free name part.expr) : Free name expr

/-- Some path in the expression has a segment of that name. -/
def UsesSegment (expr : Expr) (name : String) : Prop :=
  ∃ part, expr.Contains part ∧ name ∈ part.segmentNames

@[simp]
theorem mem_within {bound : List String} {exprs : List Expr} {part : ScopedPart} :
    part ∈ within bound exprs ↔ part.bound = bound ∧ part.expr ∈ exprs := by
  simp only [within, List.mem_map]
  constructor
  · rintro ⟨expr, hexpr, rfl⟩
    exact ⟨rfl, hexpr⟩
  · rintro ⟨rfl, hexpr⟩
    exact ⟨part.expr, hexpr, rfl⟩

theorem mem_parts {expr : Expr} {part : ScopedPart} (hpart : part ∈ expr.scopedParts) :
    part.expr ∈ expr.parts :=
  List.mem_map_of_mem hpart

theorem Contains.self (expr : Expr) : expr.Contains expr := ⟨0, .root expr⟩

theorem Contains.of_part {expr between part : Expr} (hbetween : between ∈ expr.parts)
    (hpart : between.Contains part) : expr.Contains part := by
  obtain ⟨level, hlevel⟩ := hpart
  exact ⟨level + 1, .deeper hbetween hlevel⟩

theorem contains_iff {expr part : Expr} :
    expr.Contains part ↔ part = expr ∨ ∃ between ∈ expr.parts, between.Contains part := by
  constructor
  · rintro ⟨level, hlevel⟩
    cases hlevel with
    | root => exact .inl rfl
    | deeper hbetween hpart => exact .inr ⟨_, hbetween, _, hpart⟩
  · rintro (rfl | ⟨between, hbetween, hpart⟩)
    · exact .self part
    · exact hpart.of_part hbetween

theorem UsesSegment.of_part {expr between : Expr} {name : String}
    (hbetween : between ∈ expr.parts) (huses : between.UsesSegment name) :
    expr.UsesSegment name := by
  obtain ⟨part, hpart, hname⟩ := huses
  exact ⟨part, hpart.of_part hbetween, hname⟩

theorem free_iff (expr : Expr) {name : String} :
    expr.Free name ↔ name ∈ expr.lookedUp ∨
      ∃ part ∈ expr.scopedParts, name ∉ part.bound ∧ part.expr.Free name := by
  constructor
  · intro hfree
    cases hfree with
    | here hname => exact .inl hname
    | part hpart hbound hfree => exact .inr ⟨_, hpart, hbound, hfree⟩
  · rintro (hname | ⟨part, hpart, hbound, hfree⟩)
    · exact .here hname
    · exact .part hpart hbound hfree

@[simp]
theorem free_variable_iff {name other : String} :
    (Expr.variable other).Free name ↔ name = other := by
  rw [free_iff]
  simp [lookedUp, scopedParts]

@[simp]
theorem not_free_literal {name : String} (constant : Literal) :
    ¬ (Expr.literal constant).Free name := by
  rw [free_iff]
  simp [lookedUp, scopedParts]

end Expr

end CypherExpr
