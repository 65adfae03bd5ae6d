import CypherExpr.Proofs.Evaluation.DepthLimit
import CypherExpr.Proofs.Evaluation.Scoping

/-!
# Inlining a variable

A variable that is bound to the value of an expression may be replaced by that expression, as far as
no loop rebinds a name on the way.  The inlined expression may be evaluated many times, in many
scopes, or not at all; each time it has the value that the variable had, by the law of free names,
unless the depth limit cuts it off.
-/

namespace CypherExpr

namespace Expr

mutual

/-- The expression with another one in place of a variable.  Names that are no variables, such as
those of patterns and binders, stay as they are, and every scope is entered. -/
def inline (name : String) (value : Expr) : Expr → Expr
  | .literal constant => .literal constant
  | .variable other => if other = name then value else .variable other
  | .parameter other => .parameter other
  | .property subject key => .property (inline name value subject) key
  | .index container position =>
      .index (inline name value container) (inline name value position)
  | .slice source lower upper =>
      .slice (inline name value source) (inlineOption name value lower)
        (inlineOption name value upper)
  | .binary op left right => .binary op (inline name value left) (inline name value right)
  | .unary op operand => .unary op (inline name value operand)
  | .conjunction operands => .conjunction (inlineList name value operands)
  | .disjunction operands => .disjunction (inlineList name value operands)
  | .call function args distinct => .call function (inlineList name value args) distinct
  | .countRows => .countRows
  | .list items => .list (inlineList name value items)
  | .map entries => .map (inlineEntries name value entries)
  | .mapProjection subject items => .mapProjection subject (inlineItems name value items)
  | .case subject alternatives fallback =>
      .case (inlineOption name value subject) (inlineAlternatives name value alternatives)
        (inlineOption name value fallback)
  | .comprehension binder source predicate projection =>
      .comprehension binder (inline name value source) (inlineOption name value predicate)
        (inlineOption name value projection)
  | .reduce accumulator init binder source body =>
      .reduce accumulator (inline name value init) binder (inline name value source)
        (inline name value body)
  | .quantified quantifier binder source predicate =>
      .quantified quantifier binder (inline name value source)
        (inlineOption name value predicate)
  | .pattern shape => .pattern (inlinePattern name value shape)
  | .patternComprehension found shape predicate projection =>
      .patternComprehension found (inlinePattern name value shape)
        (inlineOption name value predicate) (inline name value projection)
  | .path steps => .path (inlineSteps name value steps)
termination_by structural expr => expr

def inlineOption (name : String) (value : Expr) : Option Expr → Option Expr
  | none => none
  | some expr => some (inline name value expr)
termination_by structural expr => expr

def inlineList (name : String) (value : Expr) : List Expr → List Expr
  | [] => []
  | expr :: rest => inline name value expr :: inlineList name value rest
termination_by structural exprs => exprs

def inlineEntries (name : String) (value : Expr) :
    List (String × Expr) → List (String × Expr)
  | [] => []
  | (key, expr) :: rest => (key, inline name value expr) :: inlineEntries name value rest
termination_by structural entries => entries

def inlineItems (name : String) (value : Expr) :
    List (ProjectionItem Expr) → List (ProjectionItem Expr)
  | [] => []
  | .property key :: rest => .property key :: inlineItems name value rest
  | .entry key expr :: rest =>
      .entry key (inline name value expr) :: inlineItems name value rest
  | .variable other :: rest => .variable other :: inlineItems name value rest
  | .allProperties :: rest => .allProperties :: inlineItems name value rest
termination_by structural items => items

def inlineAlternatives (name : String) (value : Expr) :
    List (Expr × Expr) → List (Expr × Expr)
  | [] => []
  | (condition, result) :: rest =>
      (inline name value condition, inline name value result) ::
        inlineAlternatives name value rest
termination_by structural alternatives => alternatives

def inlinePattern (name : String) (value : Expr) : Pattern Expr → Pattern Expr
  | ⟨start, chain⟩ => ⟨inlineNodePattern name value start, inlineChain name value chain⟩
termination_by structural shape => shape

def inlineChain (name : String) (value : Expr) :
    List (RelationshipPattern Expr × NodePattern Expr) →
      List (RelationshipPattern Expr × NodePattern Expr)
  | [] => []
  | (hop, target) :: rest =>
      (inlineRelationshipPattern name value hop, inlineNodePattern name value target) ::
        inlineChain name value rest
termination_by structural chain => chain

def inlineNodePattern (name : String) (value : Expr) : NodePattern Expr → NodePattern Expr
  | ⟨own, labels, properties⟩ => ⟨own, labels, inlineEntries name value properties⟩
termination_by structural shape => shape

def inlineRelationshipPattern (name : String) (value : Expr) :
    RelationshipPattern Expr → RelationshipPattern Expr
  | ⟨own, kinds, properties, direction, range⟩ =>
      ⟨own, kinds, inlineEntries name value properties, direction, range⟩
termination_by structural shape => shape

def inlineSteps (name : String) (value : Expr) : PathStep Expr → PathStep Expr
  | .done => .done
  | .node expr next => .node (inline name value expr) (inlineSteps name value next)
  | .relationship expr target next =>
      .relationship (inline name value expr) (inlineOption name value target)
        (inlineSteps name value next)
  | .segment other next => .segment other (inlineSteps name value next)
termination_by structural steps => steps

end

variable {name : String} {value : Expr}

/-! ## Inlining rewrites parts -/

@[simp]
theorem inlineOption_eq (expr : Option Expr) :
    inlineOption name value expr = expr.map (inline name value) := by
  cases expr <;> rfl

@[simp]
theorem inlineList_eq (exprs : List Expr) :
    inlineList name value exprs = exprs.map (inline name value) := by
  induction exprs with
  | nil => rfl
  | cons expr rest ih => rw [inlineList, ih, List.map_cons]

@[simp]
theorem inlineEntries_eq (entries : List (String × Expr)) :
    inlineEntries name value entries = mapEntries (inline name value) entries := by
  induction entries with
  | nil => rfl
  | cons entry rest ih => rw [inlineEntries, ih, mapEntries, mapEntries, List.map_cons]

@[simp]
theorem inlineItems_eq (items : List (ProjectionItem Expr)) :
    inlineItems name value items = items.map (ProjectionItem.map (inline name value)) := by
  induction items with
  | nil => rfl
  | cons item rest ih => cases item <;> rw [inlineItems, ih, List.map_cons, ProjectionItem.map]

@[simp]
theorem inlineAlternatives_eq (alternatives : List (Expr × Expr)) :
    inlineAlternatives name value alternatives =
      alternatives.map fun branch => (inline name value branch.1, inline name value branch.2) := by
  induction alternatives with
  | nil => rfl
  | cons branch rest ih => rw [inlineAlternatives, ih, List.map_cons]

@[simp]
theorem inlineNodePattern_eq (shape : NodePattern Expr) :
    inlineNodePattern name value shape = shape.map (inline name value) := by
  rw [inlineNodePattern, inlineEntries_eq, NodePattern.map]

@[simp]
theorem inlineRelationshipPattern_eq (shape : RelationshipPattern Expr) :
    inlineRelationshipPattern name value shape = shape.map (inline name value) := by
  rw [inlineRelationshipPattern, inlineEntries_eq, RelationshipPattern.map]

@[simp]
theorem inlinePattern_eq (shape : Pattern Expr) :
    inlinePattern name value shape = shape.map (inline name value) := by
  obtain ⟨start, chain⟩ := shape
  have hchain : inlineChain name value chain = chain.map fun hop =>
      (hop.1.map (inline name value), hop.2.map (inline name value)) := by
    induction chain with
    | nil => rfl
    | cons hop rest ih => simp [inlineChain, ih]
  rw [inlinePattern, inlineNodePattern_eq, hchain, Pattern.map]

@[simp]
theorem inlineSteps_eq (steps : PathStep Expr) :
    inlineSteps name value steps = steps.map (inline name value) := by
  induction steps with
  | done => rfl
  | node expr next ih => rw [inlineSteps, ih, PathStep.map]
  | relationship expr target next ih => rw [inlineSteps, ih, inlineOption_eq, PathStep.map]
  | segment other next ih => rw [inlineSteps, ih, PathStep.map]

/-- Away from the variable itself, inlining goes into the parts and changes nothing else. -/
theorem inline_eq_mapParts {expr : Expr} (hexpr : expr ≠ .variable name) :
    inline name value expr = expr.mapParts (inline name value) := by
  cases expr with
  | «variable» other =>
      have hother : other ≠ name := fun hequal => hexpr (hequal ▸ rfl)
      rw [inline, if_neg hother, mapParts]
  | _ => simp [inline, mapParts]

/-! ## Where inlining is sound -/

/-- The names that an expression binds while it loops. -/
def loopNames : Expr → List String
  | .comprehension binder .. => [binder]
  | .reduce accumulator _ binder .. => [accumulator, binder]
  | .quantified _ binder .. => [binder]
  | _ => []

/-- Names are bound around parts by loops, and by pattern comprehensions, which are not
evaluated. -/
theorem mem_loopNames_of_bound {expr : Expr} (hexpr : expr.kindName ≠ "PatternComprehension")
    {part : ScopedPart} (hpart : part ∈ expr.scopedParts) {binder : String}
    (hbinder : binder ∈ part.bound) : binder ∈ expr.loopNames := by
  cases expr
  case comprehension | reduce | quantified =>
    simp only [scopedParts, List.mem_append, mem_within] at hpart
    rcases hpart with ⟨hbound, _⟩ | ⟨hbound, _⟩ <;> simp_all [loopNames]
  all_goals simp_all [scopedParts, kindName]

/-- A name occurs in the expression only as a variable, and no loop of the expression rebinds it or
a name that is free in the value to be inlined. -/
structure Inlinable (name : String) (value expr : Expr) : Prop where
  onlyVariable : ∀ part, expr.Contains part → name ∈ part.lookedUp → part = .variable name
  notRebound : ∀ part, expr.Contains part → ∀ binder ∈ part.loopNames,
    binder ≠ name ∧ ¬ value.Free binder

theorem Inlinable.part {expr between : Expr} (hinlinable : Inlinable name value expr)
    (hbetween : between ∈ expr.parts) : Inlinable name value between where
  onlyVariable part hpart := hinlinable.onlyVariable part (hpart.of_part hbetween)
  notRebound part hpart := hinlinable.notRebound part (hpart.of_part hbetween)

theorem Inlinable.of_parts {expr : Expr}
    (hvariable : name ∈ expr.lookedUp → expr = .variable name)
    (hbinders : ∀ binder ∈ expr.loopNames, binder ≠ name ∧ ¬ value.Free binder)
    (hparts : ∀ between ∈ expr.parts, Inlinable name value between) :
    Inlinable name value expr where
  onlyVariable part hpart hname := by
    rcases contains_iff.mp hpart with rfl | ⟨between, hbetween, hpart⟩
    · exact hvariable hname
    · exact (hparts between hbetween).onlyVariable part hpart hname
  notRebound part hpart := by
    rcases contains_iff.mp hpart with rfl | ⟨between, hbetween, hpart⟩
    · exact hbinders
    · exact (hparts between hbetween).notRebound part hpart

end Expr

/-! ## Outcomes and contexts of the two runs -/

/-- The outcomes have the same value if any, unless one of them hits the limit. -/
def OutcomeRelation.sameValue : OutcomeRelation where
  Holds left right := left.HitsLimit ∨ right.HitsLimit ∨
    ∀ value, left = .ok value ↔ right = .ok value
  ok _ := .inr (.inr fun _ => Iff.rfl)
  fail _ _ := .inr (.inr fun _ => Iff.rfl)
  bind := by
    rintro α β left right next next' (hlimit | hlimit | hvalue) hnext
    · exact .inl (hlimit.bind next)
    · exact .inr (.inl (hlimit.bind next'))
    · cases left with
      | ok value =>
          obtain rfl := (hvalue value).mp rfl
          exact hnext value
      | error error =>
          cases right with
          | ok value => exact absurd ((hvalue value).mpr rfl) (by simp)
          | error error' => exact .inr (.inr fun value => ⟨nofun, nofun⟩)

theorem OutcomeRelation.sameValue_of_eq {α : Type} {left right : Outcome α}
    (hequal : left = right) : sameValue.Holds left right :=
  .inr (.inr fun _ => hequal ▸ Iff.rfl)

theorem OutcomeRelation.sameValue_fail {α : Type} (cause cause' : Cause) :
    sameValue.Holds (Outcome.fail cause : Outcome α) (Outcome.fail cause') :=
  .inr (.inr fun _ => by simp [Outcome.fail])

theorem OutcomeRelation.sameValue_leaving {left right : Outcome Value}
    (hrelated : sameValue.Holds left right) (expr expr' : Expr) :
    sameValue.Holds (left.leaving expr) (right.leaving expr') := by
  simpa only [sameValue, Outcome.hitsLimit_leaving, Outcome.leaving_eq_ok_iff] using hrelated

/-- The left context binds the name to a value, the right one agrees with it elsewhere and answers
what the inlined expression asks as the context does in which that has the value. -/
structure Context.Inlines (name : String) (value : Expr) (result : Value)
    (base left right : Context) : Prop where
  bound : left.lookup name = some result
  others : ∀ other, other ≠ name → left.lookup other = right.lookup other
  parameters : ∀ other, left.parameter? other = right.parameter? other
  segments : ∀ other, left.segment? other = right.segment? other
  agree : AgreeOn value right base

namespace Context

theorem lookup_bindAll_of_not_mem {context : Context} {name : String}
    {entries : List (String × Value)} (hname : name ∉ entries.map Prod.fst) :
    (context.bindAll entries).lookup name = context.lookup name := by
  induction entries generalizing context with
  | nil => rfl
  | cons entry rest ih =>
      simp only [List.map_cons, List.mem_cons, not_or] at hname
      exact (ih hname.2).trans (by rw [lookup_bind, if_neg hname.1])

theorem Inlines.bindAll {name : String} {value : Expr} {result : Value}
    {base left right : Context} (hcontexts : Inlines name value result base left right)
    {entries : List (String × Value)}
    (hentries : ∀ binder ∈ entries.map Prod.fst, binder ≠ name ∧ ¬ value.Free binder) :
    Inlines name value result base (left.bindAll entries) (right.bindAll entries) where
  bound := by
    have hname : name ∉ entries.map Prod.fst := fun hmem => (hentries name hmem).1 rfl
    rw [lookup_bindAll_of_not_mem hname, hcontexts.bound]
  others other hother := lookup_bindAll_congr entries fun _ => hcontexts.others other hother
  parameters other := by simpa using hcontexts.parameters other
  segments other := by simpa using hcontexts.segments other
  agree := {
    parameters := fun other => by simpa using hcontexts.agree.parameters other
    lookup := fun other hfree => by
      have hother : other ∉ entries.map Prod.fst := fun hmem => (hentries other hmem).2 hfree
      rw [lookup_bindAll_of_not_mem hother, hcontexts.agree.lookup other hfree]
    segments := fun other huses => by simpa using hcontexts.agree.segments other huses }

end Context

namespace Engine

/-- Where the variable stands, both runs have its value, unless the limit cuts the inlined
expression off. -/
theorem eval_variable_inlined (engine : Engine) {name : String} {value : Expr} {result : Value}
    {base left right : Context} (hvalue : engine.evaluate value base = .ok result)
    (hcontexts : Context.Inlines name value result base left right) {budget : Nat}
    (hbudget : budget < engine.options.maxDepth + 1) :
    OutcomeRelation.sameValue.Holds (engine.eval (budget + 1) (.variable name) left)
      (engine.eval (budget + 1) value right) := by
  have hvariable : engine.eval (budget + 1) (.variable name) left = .ok result := by
    simp [eval, Eval.level, Eval.valueOf, hcontexts.bound, Outcome.ofResult, Outcome.leaving]
  have hscope := engine.eval_congr (budget + 1) hcontexts.agree
  rcases engine.eval_hitsLimit_or_eq hbudget value base with hlimit | hequal
  · exact .inr (.inl (hscope ▸ hlimit))
  · refine OutcomeRelation.sameValue_of_eq ?_
    rw [hvariable, hscope, hequal]
    exact hvalue.symm

/-- Within a budget, the run that looks the variable up and the run of the expression with the
variable inlined have the same value. -/
theorem eval_inline (engine : Engine) {name : String} {value : Expr} {result : Value}
    {base : Context} (hvalue : engine.evaluate value base = .ok result) {budget : Nat}
    (hbudget : budget ≤ engine.options.maxDepth + 1) {expr : Expr} {left right : Context}
    (hinlinable : Expr.Inlinable name value expr)
    (hcontexts : Context.Inlines name value result base left right) :
    OutcomeRelation.sameValue.Holds (engine.eval budget expr left)
      (engine.eval budget (Expr.inline name value expr) right) := by
  induction budget generalizing expr left right with
  | zero => exact .inl rfl
  | succ budget ih =>
      by_cases hvariable : expr = .variable name
      · subst hvariable
        rw [Expr.inline, if_pos rfl]
        exact engine.eval_variable_inlined hvalue hcontexts hbudget
      rw [Expr.inline_eq_mapParts hvariable]
      by_cases hpattern : expr.kindName = "PatternComprehension"
      · cases expr <;> simp only [Expr.kindName, String.reduceEq] at hpattern
        exact OutcomeRelation.sameValue_leaving (OutcomeRelation.sameValue_fail _ _) _ _
      have hnames : ∀ other ∈ expr.lookedUp, left.lookup other = right.lookup other := by
        intro other hother
        refine hcontexts.others other fun hequal => hvariable ?_
        exact hinlinable.onlyVariable expr (.self expr) (hequal ▸ hother)
      have hparts : Eval.PartsRelated .sameValue (engine.eval budget) (engine.eval budget)
          (Expr.inline name value) left right expr.scopedParts := by
        intro part hpart entries hentries
        refine ih (by omega) (hinlinable.part (Expr.mem_parts hpart)) (hcontexts.bindAll ?_)
        intro binder hbinder
        exact hinlinable.notRebound expr (.self expr) binder
          (Expr.mem_loopNames_of_bound hpattern hpart (hentries ▸ hbinder))
      exact Eval.level_related (R := .sameValue)
        (fun _ _ _ _ => OutcomeRelation.sameValue_of_eq rfl)
        (fun _ _ hrelated => OutcomeRelation.sameValue_leaving hrelated _ _)
        (fun _ => OutcomeRelation.sameValue_fail _ _) hcontexts.parameters hnames
        (fun other _ => hcontexts.segments other) hparts

/-- If an expression has a value in a context, then a variable bound to that value and the
expression in its place give every expression the same value, where inlining is sound and neither
evaluation hits the depth limit. -/
theorem evaluate_bind_eq_ok_iff_inline (engine : Engine) (context : Context) (name : String)
    (value expr : Expr) (result : Value) (hvalue : engine.evaluate value context = .ok result)
    (hinlinable : Expr.Inlinable name value expr)
    (hbound : ¬ (engine.evaluate expr (context.bind name result)).HitsLimit)
    (hinlined : ¬ (engine.evaluate (Expr.inline name value expr) context).HitsLimit)
    (outcome : Value) :
    engine.evaluate expr (context.bind name result) = .ok outcome ↔
      engine.evaluate (Expr.inline name value expr) context = .ok outcome := by
  have hcontexts : Context.Inlines name value result context (context.bind name result) context :=
    { bound := by simp
      others := fun other hother => by simp [hother]
      parameters := fun _ => rfl
      segments := fun _ => rfl
      agree := ⟨fun _ => rfl, fun _ _ => rfl, fun _ _ => rfl⟩ }
  have hrelated := engine.eval_inline hvalue (Nat.le_refl _) hinlinable hcontexts
  exact (hrelated.resolve_left hbound).resolve_left hinlined outcome

/-- The sum `y + 1`. -/
def successor : Expr := .binary .add (.variable "y") (.literal (.integer 1))

/-- The comprehension `[i IN [x, 5] | i * x]`. -/
def multiples : Expr :=
  .comprehension "i" (.list [.variable "x", .literal (.integer 5)]) none
    (some (.binary .multiply (.variable "i") (.variable "x")))

def rowOfTwo : Context := ⟨[("y", .integer 2)], [], []⟩

theorem inlinable_multiples : Expr.Inlinable "x" successor multiples := by
  have hfresh : ¬ successor.Free "i" := by
    rw [successor, Expr.free_iff]
    simp [Expr.lookedUp, Expr.scopedParts, Expr.within]
  have hvariable : ∀ other, Expr.Inlinable "x" successor (.variable other) := fun other =>
    .of_parts (by simp +contextual [Expr.lookedUp]) (by simp [Expr.loopNames])
      (by simp [Expr.parts, Expr.scopedParts])
  have hliteral : ∀ constant, Expr.Inlinable "x" successor (.literal constant) := fun constant =>
    .of_parts (by simp [Expr.lookedUp]) (by simp [Expr.loopNames])
      (by simp [Expr.parts, Expr.scopedParts])
  have hlist : Expr.Inlinable "x" successor (.list [.variable "x", .literal (.integer 5)]) :=
    .of_parts (by simp [Expr.lookedUp]) (by simp [Expr.loopNames])
      (by simp [Expr.parts, Expr.scopedParts, Expr.within, hvariable, hliteral])
  have hproduct : Expr.Inlinable "x" successor
      (.binary .multiply (.variable "i") (.variable "x")) :=
    .of_parts (by simp [Expr.lookedUp]) (by simp [Expr.loopNames])
      (by simp [Expr.parts, Expr.scopedParts, Expr.within, hvariable])
  exact .of_parts (by simp [multiples, Expr.lookedUp])
    (by simp [multiples, Expr.loopNames, hfresh])
    (by simp [multiples, Expr.parts, Expr.scopedParts, Expr.within, hlist, hproduct])

/-- With `y` bound to 2, `[i IN [x, 5] | i * x]` has the same value for `x` bound to 3 as for
`y + 1` in place of `x`. -/
theorem evaluate_multiples_inlined :
    standard.evaluate successor rowOfTwo = .ok (.integer 3) ∧
      Expr.Inlinable "x" successor multiples ∧
      standard.evaluate multiples (rowOfTwo.bind "x" (.integer 3)) =
        .ok (.list [.integer 9, .integer 15]) ∧
      standard.evaluate (Expr.inline "x" successor multiples) rowOfTwo =
        .ok (.list [.integer 9, .integer 15]) := by
  have hvalue : standard.evaluate successor rowOfTwo = .ok (.integer 3) := rfl
  have hbound : standard.evaluate multiples (rowOfTwo.bind "x" (.integer 3)) =
      .ok (.list [.integer 9, .integer 15]) := rfl
  have hinlined : ¬ (standard.evaluate (Expr.inline "x" successor multiples) rowOfTwo).HitsLimit :=
    Outcome.not_hitsLimit_ok (Value.list [.integer 9, .integer 15])
  refine ⟨hvalue, inlinable_multiples, hbound, ?_⟩
  exact (standard.evaluate_bind_eq_ok_iff_inline rowOfTwo "x" successor multiples (.integer 3)
    hvalue inlinable_multiples (hbound ▸ Outcome.not_hitsLimit_ok _) hinlined _).mp hbound

end Engine

end CypherExpr
