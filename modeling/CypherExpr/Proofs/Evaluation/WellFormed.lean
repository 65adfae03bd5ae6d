import CypherExpr.Engine.Aggregate
import CypherExpr.Proofs.Function.WellFormed
import CypherExpr.Proofs.Graph.WellFormed
import CypherExpr.Proofs.Operator.WellFormed

/-!
# Evaluation gives well-formed values

An expression takes values from its context, from functions and from the graph, and puts them
together to lists, maps and paths.  If all that it takes is well-formed, so is what it evaluates to.
One level gives well-formed values if the evaluator of its parts does, with one lemma for each
construct, and the whole follows by induction on the budget.  So unique keys and connected paths
need not be assumed of the values that a program computes.
-/

namespace CypherExpr

open Value (wellFormed_null wellFormed_of_empty wellFormed_list_iff wellFormed_map_iff
  wellFormed_ofOption wellFormed_path_of_elements)

/-! ## Contexts and engines -/

/-- All variables, parameters and segments of the context have well-formed values. -/
structure Context.WellFormed (context : Context) : Prop where
  bindings : ∀ entry ∈ context.bindings, entry.2.WellFormed
  segments : ∀ entry ∈ context.segments, (Value.path entry.2).WellFormed
  parameters : ∀ entry ∈ context.parameters, entry.2.WellFormed

namespace Context.WellFormed

variable {context : Context}

theorem empty : Context.empty.WellFormed := ⟨nofun, nofun, nofun⟩

theorem bind (hcontext : context.WellFormed) (name : String) {value : Value}
    (hvalue : value.WellFormed) : (context.bind name value).WellFormed where
  bindings := List.forall_mem_cons.mpr ⟨hvalue, hcontext.bindings⟩
  segments := hcontext.segments
  parameters := hcontext.parameters

theorem segment? (hcontext : context.WellFormed) {name : String} {walk : Path Value}
    (hwalk : context.segment? name = some walk) : (Value.path walk).WellFormed :=
  hcontext.segments (name, walk) (Properties.mem_of_get? hwalk)

theorem valueOf (hcontext : context.WellFormed) (name : String) :
    Ensures (Eval.valueOf context name) Value.WellFormed := by
  unfold Eval.valueOf
  split
  · next value hvalue =>
    exact .ok (hcontext.bindings (name, value) (Properties.mem_of_get? hvalue))
  · exact .error _

theorem parameterOf (hcontext : context.WellFormed) (name : String) :
    Ensures (Eval.parameterOf context name) Value.WellFormed := by
  unfold Eval.parameterOf
  split
  · next value hvalue =>
    exact .ok (hcontext.parameters (name, value) (Properties.mem_of_get? hvalue))
  · exact .error _

end Context.WellFormed

/-- The functions of the engine keep values well-formed, and its graph answers with well-formed
paths. -/
structure Engine.WellFormed (engine : Engine) : Prop where
  functions : engine.registry.KeepsWellFormed
  graph : ∀ source ∈ engine.graph, source.GivesWellFormed

/-- In well-formed contexts the evaluator gives well-formed values. -/
def Evaluator.KeepsWellFormed (sub : Evaluator) : Prop :=
  ∀ expr context, context.WellFormed → Ensures (sub expr context) Value.WellFormed

namespace Eval

theorem source_wellFormed {value : Value} (hvalue : value.WellFormed) :
    Ensures (source value) fun items? => ∀ items ∈ items?, ∀ item ∈ items, item.WellFormed := by
  unfold source
  split
  · exact .ok nofun
  · refine .ok fun items hitems => ?_
    cases hitems
    exact wellFormed_list_iff.mp hvalue
  · exact .error _

/-- Elements put in front of those that follow, if any do. -/
theorem forall_mem_map_append (front : List (PathElement Value))
    (hfront : ∀ element ∈ front, element.value.WellFormed)
    {behind? : Option (List (PathElement Value))}
    (hbehind : ∀ behind ∈ behind?, ∀ element ∈ behind, element.value.WellFormed) :
    ∀ elements ∈ behind?.map (front ++ ·), ∀ element ∈ elements, element.value.WellFormed := by
  intro elements helements
  obtain ⟨behind, hmem, rfl⟩ := Option.map_eq_some_iff.mp helements
  exact List.forall_mem_append.mpr ⟨hfront, hbehind behind hmem⟩

section Constructs

variable {sub : Evaluator} (hsub : sub.KeepsWellFormed)
variable {context : Context} (hcontext : context.WellFormed)

include hsub hcontext

/-! ## Sequences of parts -/

theorem all_wellFormed (exprs : List Expr) :
    Ensures (all sub context exprs) fun values => ∀ value ∈ values, value.WellFormed := by
  induction exprs with
  | nil => exact .ok nofun
  | cons expr rest ih =>
      refine .bind (hsub expr context hcontext) fun value hvalue => ?_
      exact .bind ih fun values hvalues => .ok (List.forall_mem_cons.mpr ⟨hvalue, hvalues⟩)

theorem entries_wellFormed {soFar : Properties Value} (hsoFar : soFar.WellFormed)
    (properties : List (String × Expr)) :
    Ensures (entries sub context soFar properties) Properties.WellFormed := by
  induction properties generalizing soFar with
  | nil => exact .ok hsoFar
  | cons entry rest ih =>
      obtain ⟨key, expr⟩ := entry
      exact .bind (hsub expr context hcontext) fun value hvalue => ih (hsoFar.set key hvalue)

/-! ## Conditionals -/

theorem alternatives_wellFormed (subject : Option Value) (fallback : Option Expr)
    (branches : List (Expr × Expr)) :
    Ensures (alternatives sub context subject fallback branches) Value.WellFormed := by
  induction branches with
  | nil =>
      cases fallback with
      | none => exact .ok wellFormed_null
      | some expr => exact hsub expr context hcontext
  | cons branch rest ih =>
      obtain ⟨condition, result⟩ := branch
      refine .bind (.any _) fun guard _ => ?_
      split
      · exact hsub result context hcontext
      · exact ih

theorem case_wellFormed (subject fallback : Option Expr) (branches : List (Expr × Expr)) :
    Ensures (case sub context subject branches fallback) Value.WellFormed := by
  refine .bind (.any _) fun value _ => ?_
  split
  · exact .ok wellFormed_null
  · exact alternatives_wellFormed hsub hcontext _ fallback branches

/-! ## Loops over lists -/

theorem comprehend_wellFormed (binder : String) (predicate projection : Option Expr)
    {items : List Value} (hitems : ∀ item ∈ items, item.WellFormed) :
    Ensures (comprehend sub context binder predicate projection items)
      fun values => ∀ value ∈ values, value.WellFormed := by
  induction items with
  | nil => exact .ok nofun
  | cons item rest ih =>
      obtain ⟨hitem, hrest⟩ := List.forall_mem_cons.mp hitems
      have hprojected : Ensures
          (projected sub projection (context.bind binder item) item) Value.WellFormed := by
        cases projection with
        | none => exact .ok hitem
        | some expr => exact hsub expr _ (hcontext.bind binder hitem)
      refine .bind (.any _) fun keep _ => ?_
      cases keep with
      | true =>
          refine .bind hprojected fun value hvalue => ?_
          refine .bind (ih hrest) fun values hvalues => ?_
          exact .ok (List.forall_mem_cons.mpr ⟨hvalue, hvalues⟩)
      | false => exact ih hrest

theorem comprehension_wellFormed (binder : String) (list : Expr)
    (predicate projection : Option Expr) :
    Ensures (comprehension sub context binder list predicate projection) Value.WellFormed := by
  refine .bind (hsub list context hcontext) fun value hvalue => ?_
  refine .bind (.ofResult (source_wellFormed hvalue)) fun items? hitems => ?_
  cases items? with
  | none => exact .ok wellFormed_null
  | some items =>
      have hvalues := comprehend_wellFormed hsub hcontext binder predicate projection
        (hitems items rfl)
      exact .bind hvalues fun values hvalues => .ok (wellFormed_list_iff.mpr hvalues)

theorem fold_wellFormed (accumulator binder : String) (body : Expr) {value : Value}
    (hvalue : value.WellFormed) {items : List Value} (hitems : ∀ item ∈ items, item.WellFormed) :
    Ensures (fold sub context accumulator binder body value items) Value.WellFormed := by
  induction items generalizing value with
  | nil => exact .ok hvalue
  | cons item rest ih =>
      obtain ⟨hitem, hrest⟩ := List.forall_mem_cons.mp hitems
      have hscope := (hcontext.bind accumulator hvalue).bind binder hitem
      exact .bind (hsub body _ hscope) fun next hnext => ih hnext hrest

theorem reduce_wellFormed (accumulator binder : String) (init list body : Expr) :
    Ensures (reduce sub context accumulator init binder list body) Value.WellFormed := by
  refine .bind (hsub init context hcontext) fun first hfirst => ?_
  refine .bind (hsub list context hcontext) fun value hvalue => ?_
  refine .bind (.ofResult (source_wellFormed hvalue)) fun items? hitems => ?_
  cases items? with
  | none => exact .ok wellFormed_null
  | some items =>
      exact fold_wellFormed hsub hcontext accumulator binder body hfirst (hitems items rfl)

/-! ## Map projection -/

theorem projectItems_wellFormed {properties soFar : Properties Value}
    (hproperties : properties.WellFormed) (hsoFar : soFar.WellFormed)
    (items : List (ProjectionItem Expr)) :
    Ensures (projectItems sub context properties soFar items) Properties.WellFormed := by
  induction items generalizing soFar with
  | nil => exact .ok hsoFar
  | cons item rest ih =>
      cases item with
      | property key =>
          exact ih (hsoFar.set key (wellFormed_ofOption (hproperties.get? key)))
      | entry key expr =>
          exact .bind (hsub expr context hcontext) fun value hvalue => ih (hsoFar.set key hvalue)
      | «variable» name =>
          exact .bind (.ofResult (hcontext.valueOf name)) fun value hvalue =>
            ih (hsoFar.set name hvalue)
      | allProperties => exact ih (hsoFar.setAll hproperties.values)

theorem mapProjection_wellFormed (subject : String) (items : List (ProjectionItem Expr)) :
    Ensures (mapProjection sub context subject items) Value.WellFormed := by
  refine .bind (.ofResult (hcontext.valueOf subject)) fun value hvalue => ?_
  split
  · exact .ok wellFormed_null
  · split
    · next properties hproperties =>
      have hitems := projectItems_wellFormed hsub hcontext (hvalue.properties? _ hproperties)
        .nil items
      exact .bind hitems fun projected hprojected => .ok (wellFormed_map_iff.mpr hprojected)
    · exact .fail _

/-! ## Calls -/

theorem call_wellFormed {engine : Engine} (hengine : engine.WellFormed) (name : String)
    (args : List Expr) : Ensures (call sub engine context name args) Value.WellFormed := by
  unfold call
  split
  · exact .fail _
  · next function hfound =>
    split
    · refine .bind (all_wellFormed hsub hcontext args) fun values hvalues => ?_
      split
      · exact .ok (wellFormed_list_iff.mpr hvalues)
      · exact hengine.functions name function hfound values hvalues
    · exact .fail _

/-! ## Paths -/

theorem nodeOf_wellFormed (expr : Expr) :
    Ensures (nodeOf sub context expr)
      fun entity? => ∀ entity ∈ entity?, (Value.node entity).WellFormed := by
  refine .bind (hsub expr context hcontext) fun value hvalue => ?_
  split
  · exact .ok nofun
  · refine .ok fun entity hentity => ?_
    cases hentity
    exact hvalue
  · exact .fail _

theorem relationshipOf_wellFormed (expr : Expr) :
    Ensures (relationshipOf sub context expr)
      fun entity? => ∀ entity ∈ entity?, (Value.relationship entity).WellFormed := by
  refine .bind (hsub expr context hcontext) fun value hvalue => ?_
  split
  · exact .ok nofun
  · refine .ok fun entity hentity => ?_
    cases hentity
    exact hvalue
  · exact .fail _

theorem assemble_wellFormed (steps : PathStep Expr) :
    Ensures (assemble sub context steps)
      fun elements? => ∀ elements ∈ elements?, ∀ element ∈ elements,
        element.value.WellFormed := by
  induction steps with
  | done =>
      refine .ok fun elements helements => ?_
      cases helements
      exact nofun
  | node expr next ih =>
      unfold assemble
      split
      · exact ih
      · refine .bind (nodeOf_wellFormed hsub hcontext expr) fun entity? hentity => ?_
        cases entity? with
        | none => exact .ok nofun
        | some entity =>
            refine .bind ih fun behind? hbehind => .ok ?_
            exact forall_mem_map_append [.node entity]
              (List.forall_mem_singleton.mpr (hentity entity rfl)) hbehind
  | relationship expr target next ih =>
      cases target with
      | none => exact .fail _
      | some target =>
          refine .bind (relationshipOf_wellFormed hsub hcontext expr) fun crossed? hcrossed => ?_
          cases crossed? with
          | none => exact .ok nofun
          | some crossed =>
              have hfirst := hcrossed crossed rfl
              simp only
              split
              · refine .bind ih fun behind? hbehind => .ok ?_
                exact forall_mem_map_append [.relationship crossed]
                  (List.forall_mem_singleton.mpr hfirst) hbehind
              · refine .bind (nodeOf_wellFormed hsub hcontext target) fun entity? hentity => ?_
                cases entity? with
                | none => exact .ok nofun
                | some entity =>
                    refine .bind ih fun behind? hbehind => .ok ?_
                    exact forall_mem_map_append [.relationship crossed, .node entity]
                      (List.forall_mem_cons.mpr
                        ⟨hfirst, List.forall_mem_singleton.mpr (hentity entity rfl)⟩) hbehind
  | segment name next ih =>
      unfold assemble
      split
      · exact .fail _
      · next walk hwalk =>
        refine .bind ih fun behind? hbehind => .ok ?_
        exact forall_mem_map_append walk.elements (hcontext.segment? hwalk).elements hbehind

theorem path_wellFormed (steps : PathStep Expr) :
    Ensures (path sub context steps) Value.WellFormed := by
  refine .bind (assemble_wellFormed hsub hcontext steps) fun elements? helements => ?_
  cases elements? with
  | none => exact .ok wellFormed_null
  | some elements =>
      simp only
      split
      · exact .fail _
      · split
        · next walk hwalk => exact .ok (wellFormed_path_of_elements (helements elements rfl) hwalk)
        · exact .fail _

end Constructs

/-! ## Values that hold nothing -/

variable (sub : Evaluator) (context : Context)

theorem conjunction_wellFormed (operands : List Expr) :
    Ensures (conjunction sub context operands) Value.WellFormed := by
  induction operands with
  | nil => exact .ok (wellFormed_of_empty rfl rfl)
  | cons expr rest ih =>
      refine .bind (.any _) fun value _ => .bind (.any _) fun isTrue _ => ?_
      cases isTrue with
      | true => exact ih
      | false => exact .ok (wellFormed_of_empty rfl rfl)

theorem disjunction_wellFormed (operands : List Expr) :
    Ensures (disjunction sub context operands) Value.WellFormed := by
  induction operands with
  | nil => exact .ok (wellFormed_of_empty rfl rfl)
  | cons expr rest ih =>
      refine .bind (.any _) fun value _ => .bind (.any _) fun isTrue _ => ?_
      cases isTrue with
      | true => exact .ok (wellFormed_of_empty rfl rfl)
      | false => exact ih

theorem quantified_wellFormed (quantifier : Quantifier) (binder : String) (list : Expr)
    (predicate : Option Expr) :
    Ensures (quantified sub context quantifier binder list predicate) Value.WellFormed := by
  refine .bind (.any _) fun value _ => .bind (.any _) fun items? _ => ?_
  cases items? with
  | none => exact .ok wellFormed_null
  | some items => exact .bind (.any _) fun result _ => .ok (wellFormed_of_empty rfl rfl)

/-! ## Patterns -/

theorem oneHop_wellFormed {graph : PathSource} (hgraph : graph.GivesWellFormed)
    (start finish : NodePattern Expr) (hop : RelationshipPattern Expr) :
    Ensures (oneHop sub graph context start hop finish) Value.WellFormed := by
  refine .bind (.any _) fun startBound _ => .bind (.any _) fun finishBound _ => ?_
  refine .bind (.any _) fun hopBound _ => ?_
  split
  · exact .ok wellFormed_null
  · refine .bind (.any _) fun startFilter _ => .bind (.any _) fun hopFilter _ => ?_
    refine .bind (.any _) fun finishFilter _ => ?_
    split
    · exact .fail _
    · next found hfound =>
      refine .ok (wellFormed_list_iff.mpr (List.forall_mem_map.mpr fun walk hwalk => ?_))
      exact hgraph _ _ _ _ _ _ found hfound walk (List.mem_filter.mp hwalk).1

theorem pattern_wellFormed {engine : Engine} (hengine : engine.WellFormed)
    (shape : Pattern Expr) : Ensures (pattern sub engine context shape) Value.WellFormed := by
  unfold pattern
  split
  · next hop finish _ =>
    split
    · split
      · exact .fail _
      · next graph hgraph =>
        exact oneHop_wellFormed sub context (hengine.graph graph hgraph) shape.start finish hop
    · exact .fail _
  · exact .fail _

/-! ## All constructs -/

variable {sub context}

/-- One level gives well-formed values if the evaluator of the parts does. -/
theorem level_wellFormed {engine : Engine} (hengine : engine.WellFormed)
    (hsub : sub.KeepsWellFormed) (expr : Expr) (hcontext : context.WellFormed) :
    Ensures (level sub engine expr context) Value.WellFormed := by
  cases expr with
  | literal value => exact .ok (literal_wellFormed value)
  | «variable» name => exact .leaving (.ofResult (hcontext.valueOf name)) _
  | parameter name => exact .leaving (.ofResult (hcontext.parameterOf name)) _
  | property subject key =>
      refine .leaving (.bind (hsub subject context hcontext) fun value hvalue => ?_) _
      exact .ofResult (property_wellFormed hvalue key)
  | index container position =>
      refine .bind (hsub container context hcontext) fun value hvalue => ?_
      refine .bind (.any _) fun key _ => ?_
      exact .leaving (.ofResult (Container.subscript_wellFormed hvalue key)) _
  | slice list lower upper =>
      refine .leaving (.bind (hsub list context hcontext) fun value hvalue => ?_) _
      refine .bind (.any _) fun first _ => .bind (.any _) fun last _ => ?_
      exact .ofResult (Container.slice_wellFormed hvalue first last)
  | binary op left right =>
      refine .leaving (.bind (hsub left context hcontext) fun first hfirst => ?_) _
      refine .bind (hsub right context hcontext) fun second hsecond => ?_
      exact .ofResult (binary_wellFormed op hfirst hsecond)
  | unary op operand =>
      refine .leaving (.bind (.any _) fun value _ => ?_) _
      exact .ofResult (unary_wellFormed op value)
  | conjunction operands => exact .leaving (conjunction_wellFormed sub context operands) _
  | disjunction operands => exact .leaving (disjunction_wellFormed sub context operands) _
  | call name args distinct =>
      exact .leaving (call_wellFormed hsub hcontext hengine name args) _
  | countRows => exact .leaving (.fail _) _
  | list items =>
      refine .leaving (.bind (all_wellFormed hsub hcontext items) fun values hvalues => ?_) _
      exact .ok (wellFormed_list_iff.mpr hvalues)
  | map properties =>
      refine .bind (entries_wellFormed hsub hcontext .nil properties) fun entries hentries => ?_
      exact .ok (wellFormed_map_iff.mpr hentries)
  | mapProjection subject items =>
      exact .leaving (mapProjection_wellFormed hsub hcontext subject items) _
  | case subject branches fallback =>
      exact .leaving (case_wellFormed hsub hcontext subject fallback branches) _
  | comprehension binder list predicate projection =>
      exact .leaving (comprehension_wellFormed hsub hcontext binder list predicate projection) _
  | reduce accumulator init binder list body =>
      exact .leaving (reduce_wellFormed hsub hcontext accumulator binder init list body) _
  | quantified quantifier binder list predicate =>
      exact .leaving (quantified_wellFormed sub context quantifier binder list predicate) _
  | pattern shape => exact .leaving (pattern_wellFormed sub context hengine shape) _
  | patternComprehension => exact .leaving (.fail _) _
  | path steps => exact .leaving (path_wellFormed hsub hcontext steps) _

end Eval

namespace Engine

variable {engine : Engine}

theorem eval_wellFormed (hengine : engine.WellFormed) (budget : Nat) :
    Evaluator.KeepsWellFormed (engine.eval budget) := by
  induction budget with
  | zero => exact fun expr context _ => .fail _
  | succ budget ih => exact fun expr context => Eval.level_wellFormed hengine ih expr

/-- An expression that takes well-formed values only evaluates to a well-formed value. -/
theorem evaluate_wellFormed (hengine : engine.WellFormed) (expr : Expr) {context : Context}
    (hcontext : context.WellFormed) :
    Ensures (engine.evaluate expr context) Value.WellFormed :=
  eval_wellFormed hengine _ expr context hcontext

theorem column_wellFormed (hengine : engine.WellFormed) (expr : Expr) (distinct : Bool)
    {kept : List Value} (hkept : ∀ value ∈ kept, value.WellFormed) {rows : List Context}
    (hrows : ∀ row ∈ rows, row.WellFormed) :
    Ensures (engine.column expr distinct kept rows)
      fun values => ∀ value ∈ values, value.WellFormed := by
  induction rows generalizing kept with
  | nil => exact .ok hkept
  | cons row rest ih =>
      obtain ⟨hrow, hrest⟩ := List.forall_mem_cons.mp hrows
      refine .bind (evaluate_wellFormed hengine expr hrow) fun value hvalue => ?_
      split
      · exact ih hkept hrest
      · exact ih (List.forall_mem_append.mpr ⟨hkept, List.forall_mem_singleton.mpr hvalue⟩) hrest

theorem aggregateCall_wellFormed (hengine : engine.WellFormed) (name : String)
    (args : List Expr) (distinct : Bool) {rows : List Context}
    (hrows : ∀ row ∈ rows, row.WellFormed) :
    Ensures (engine.aggregateCall name args distinct rows) Value.WellFormed := by
  have hfirstRow : (rows.head?.getD .empty).WellFormed := by
    cases rows with
    | nil => exact .empty
    | cons row rest => exact hrows row List.mem_cons_self
  unfold aggregateCall
  split
  · exact .fail _
  · next function hfound =>
    split
    · exact .fail _
    · cases args with
      | nil => exact .fail _
      | cons first others =>
          simp only
          split
          · refine .bind (column_wellFormed hengine first distinct (List.forall_mem_nil _) hrows)
              fun entries hentries => ?_
            refine .bind (Eval.all_wellFormed (eval_wellFormed hengine _) hfirstRow others)
              fun extra hextra => ?_
            apply hengine.functions name function hfound
            exact List.forall_mem_cons.mpr ⟨wellFormed_list_iff.mpr hentries, hextra⟩
          · exact .fail _

/-- An aggregation over rows of well-formed values gives a well-formed value. -/
theorem aggregate_wellFormed (hengine : engine.WellFormed) (expr : Expr) {rows : List Context}
    (hrows : ∀ row ∈ rows, row.WellFormed) :
    Ensures (engine.aggregate expr rows) Value.WellFormed := by
  unfold aggregate
  apply Ensures.leaving
  cases expr with
  | countRows =>
      cases Checked.narrow rows.length with
      | none => exact .fail _
      | some size => exact .ok (wellFormed_of_empty rfl rfl)
  | call name args distinct => exact aggregateCall_wellFormed hengine name args distinct hrows
  | _ => exact .fail _

/-- The standard functions and a graph of well-formed entities make a well-formed engine. -/
theorem wellFormed_standard {graph : Graph} (hgraph : graph.WellFormed) :
    (standard.withGraph graph.toPathSource).WellFormed where
  functions := Standard.registry_keepsWellFormed
  graph := by
    rintro _ ⟨⟩
    exact hgraph.toPathSource

end Engine

end CypherExpr
