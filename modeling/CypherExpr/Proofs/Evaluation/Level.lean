import CypherExpr.Proofs.Evaluation.OperatorCauses
import CypherExpr.Proofs.Evaluation.Outcomes
import CypherExpr.Proofs.Evaluation.Parts

/-!
# One level of evaluation respects relations

The evaluator of one level is given the evaluator of the parts.  Two runs of a level are related as
soon as the runs of its parts are, in every context that binds the names around them, and both
contexts answer the names that the level looks up itself alike.  The second run may be of an
expression whose parts are rewritten.  Each construct has its lemma, and `level_related` puts them
together; laws of the whole evaluator follow by induction on the budget.
-/

namespace CypherExpr.Eval

open Outcome (ofResult fail)

variable {R : OutcomeRelation} {sub sub' : Evaluator} {context context' : Context}
variable {f : Expr → Expr}

/-! ## Sequences of parts -/

theorem all_related {exprs : List Expr}
    (hparts : ∀ expr ∈ exprs, R.Holds (sub expr context) (sub' (f expr) context')) :
    R.Holds (all sub context exprs) (all sub' context' (exprs.map f)) := by
  induction exprs with
  | nil => exact R.ok []
  | cons expr rest ih =>
      simp only [List.forall_mem_cons] at hparts
      rw [List.map_cons, all, all]
      refine R.bind hparts.1 fun value => ?_
      exact R.bind (ih hparts.2) fun values => R.ok (value :: values)

theorem optional_related {expr? : Option Expr}
    (hparts : ∀ expr ∈ expr?, R.Holds (sub expr context) (sub' (f expr) context')) :
    R.Holds (optional sub context expr?) (optional sub' context' (expr?.map f)) := by
  cases expr? with
  | none => exact R.ok none
  | some expr => exact R.map (hparts expr rfl) some

theorem entries_related {properties : List (String × Expr)}
    (hparts : ∀ expr ∈ properties.map Prod.snd,
      R.Holds (sub expr context) (sub' (f expr) context'))
    (soFar : Properties Value) :
    R.Holds (entries sub context soFar properties)
      (entries sub' context' soFar (mapEntries f properties)) := by
  induction properties generalizing soFar with
  | nil => exact R.ok soFar
  | cons entry rest ih =>
      obtain ⟨key, expr⟩ := entry
      simp only [List.map_cons, List.forall_mem_cons] at hparts
      simp only [mapEntries, List.map_cons, entries]
      exact R.bind hparts.1 fun value => ih hparts.2 (soFar.set key value)

theorem conjunction_related {operands : List Expr}
    (hparts : ∀ expr ∈ operands, R.Holds (sub expr context) (sub' (f expr) context')) :
    R.Holds (conjunction sub context operands)
      (conjunction sub' context' (operands.map f)) := by
  induction operands with
  | nil => exact R.ok _
  | cons expr rest ih =>
      simp only [List.forall_mem_cons] at hparts
      rw [List.map_cons, conjunction, conjunction]
      refine R.bind hparts.1 fun value => ?_
      refine R.bind (R.ofResult (Logic.isTruthy_ne_limit value)) fun isTrue => ?_
      cases isTrue with
      | true => exact ih hparts.2
      | false => exact R.ok _

theorem disjunction_related {operands : List Expr}
    (hparts : ∀ expr ∈ operands, R.Holds (sub expr context) (sub' (f expr) context')) :
    R.Holds (disjunction sub context operands)
      (disjunction sub' context' (operands.map f)) := by
  induction operands with
  | nil => exact R.ok _
  | cons expr rest ih =>
      simp only [List.forall_mem_cons] at hparts
      rw [List.map_cons, disjunction, disjunction]
      refine R.bind hparts.1 fun value => ?_
      refine R.bind (R.ofResult (Logic.isTruthy_ne_limit value)) fun isTrue => ?_
      cases isTrue with
      | true => exact R.ok _
      | false => exact ih hparts.2

/-! ## Conditionals -/

theorem alternatives_related {branches : List (Expr × Expr)} {fallback : Option Expr}
    (hbranches : ∀ branch ∈ branches,
      R.Holds (sub branch.1 context) (sub' (f branch.1) context') ∧
        R.Holds (sub branch.2 context) (sub' (f branch.2) context'))
    (hfallback : ∀ expr ∈ fallback, R.Holds (sub expr context) (sub' (f expr) context'))
    (subject : Option Value) :
    R.Holds (alternatives sub context subject fallback branches)
      (alternatives sub' context' subject (fallback.map f)
        (branches.map fun branch => (f branch.1, f branch.2))) := by
  induction branches with
  | nil =>
      cases fallback with
      | none => exact R.ok _
      | some expr => exact hfallback expr rfl
  | cons branch rest ih =>
      obtain ⟨condition, result⟩ := branch
      simp only [List.forall_mem_cons] at hbranches
      simp only [List.map_cons, alternatives]
      refine R.bind hbranches.1.1 fun guard => ?_
      split
      · exact hbranches.1.2
      · exact ih hbranches.2

theorem case_related {subject fallback : Option Expr} {branches : List (Expr × Expr)}
    (hsubject : ∀ expr ∈ subject, R.Holds (sub expr context) (sub' (f expr) context'))
    (hbranches : ∀ branch ∈ branches,
      R.Holds (sub branch.1 context) (sub' (f branch.1) context') ∧
        R.Holds (sub branch.2 context) (sub' (f branch.2) context'))
    (hfallback : ∀ expr ∈ fallback, R.Holds (sub expr context) (sub' (f expr) context')) :
    R.Holds (case sub context subject branches fallback)
      (case sub' context' (subject.map f) (branches.map fun branch => (f branch.1, f branch.2))
        (fallback.map f)) := by
  rw [case, case]
  refine R.bind (optional_related hsubject) fun value => ?_
  split
  · exact R.ok _
  · exact alternatives_related hbranches hfallback _

/-! ## Loops over lists -/

theorem holds_related {predicate : Option Expr} {scope scope' : Context}
    (hpredicate : ∀ expr ∈ predicate, R.Holds (sub expr scope) (sub' (f expr) scope')) :
    R.Holds (holds sub predicate scope) (holds sub' (predicate.map f) scope') := by
  cases predicate with
  | none => exact R.ok true
  | some expr =>
      exact R.bind (hpredicate expr rfl) fun value => R.ofResult (Logic.keeps_ne_limit value)

theorem projected_related {projection : Option Expr} {scope scope' : Context}
    (hprojection : ∀ expr ∈ projection, R.Holds (sub expr scope) (sub' (f expr) scope'))
    (item : Value) :
    R.Holds (projected sub projection scope item)
      (projected sub' (projection.map f) scope' item) := by
  cases projection with
  | none => exact R.ok item
  | some expr => exact hprojection expr rfl

theorem comprehend_related {binder : String} {predicate projection : Option Expr}
    (hpredicate : ∀ expr ∈ predicate, ∀ item,
      R.Holds (sub expr (context.bind binder item)) (sub' (f expr) (context'.bind binder item)))
    (hprojection : ∀ expr ∈ projection, ∀ item,
      R.Holds (sub expr (context.bind binder item)) (sub' (f expr) (context'.bind binder item)))
    (items : List Value) :
    R.Holds (comprehend sub context binder predicate projection items)
      (comprehend sub' context' binder (predicate.map f) (projection.map f) items) := by
  induction items with
  | nil => exact R.ok []
  | cons item rest ih =>
      simp only [comprehend]
      refine R.bind (holds_related fun expr h => hpredicate expr h item) fun keep => ?_
      cases keep with
      | true =>
          refine R.bind (projected_related (fun expr h => hprojection expr h item) item)
            fun value => ?_
          exact R.bind ih fun values => R.ok (value :: values)
      | false => exact ih

theorem comprehension_related {binder : String} {list : Expr}
    {predicate projection : Option Expr}
    (hlist : R.Holds (sub list context) (sub' (f list) context'))
    (hpredicate : ∀ expr ∈ predicate, ∀ item,
      R.Holds (sub expr (context.bind binder item)) (sub' (f expr) (context'.bind binder item)))
    (hprojection : ∀ expr ∈ projection, ∀ item,
      R.Holds (sub expr (context.bind binder item))
        (sub' (f expr) (context'.bind binder item))) :
    R.Holds (comprehension sub context binder list predicate projection)
      (comprehension sub' context' binder (f list) (predicate.map f) (projection.map f)) := by
  rw [comprehension, comprehension]
  refine R.bind hlist fun value => R.bind (R.ofResult (source_ne_limit value)) fun items? => ?_
  cases items? with
  | none => exact R.ok _
  | some items =>
      exact R.bind (comprehend_related hpredicate hprojection items) fun values => R.ok _

theorem fold_related {accumulator binder : String} {body : Expr}
    (hbody : ∀ value item,
      R.Holds (sub body ((context.bind accumulator value).bind binder item))
        (sub' (f body) ((context'.bind accumulator value).bind binder item)))
    (value : Value) (items : List Value) :
    R.Holds (fold sub context accumulator binder body value items)
      (fold sub' context' accumulator binder (f body) value items) := by
  induction items generalizing value with
  | nil => exact R.ok value
  | cons item rest ih => exact R.bind (hbody value item) fun next => ih next

theorem reduce_related {accumulator binder : String} {init list body : Expr}
    (hinit : R.Holds (sub init context) (sub' (f init) context'))
    (hlist : R.Holds (sub list context) (sub' (f list) context'))
    (hbody : ∀ value item,
      R.Holds (sub body ((context.bind accumulator value).bind binder item))
        (sub' (f body) ((context'.bind accumulator value).bind binder item))) :
    R.Holds (reduce sub context accumulator init binder list body)
      (reduce sub' context' accumulator (f init) binder (f list) (f body)) := by
  rw [reduce, reduce]
  refine R.bind hinit fun first => R.bind hlist fun value => ?_
  refine R.bind (R.ofResult (source_ne_limit value)) fun items? => ?_
  cases items? with
  | none => exact R.ok _
  | some items => exact fold_related hbody first items

theorem afterFirst_related {binder : String} {predicate : Option Expr}
    (hpredicate : ∀ expr ∈ predicate, ∀ item,
      R.Holds (sub expr (context.bind binder item)) (sub' (f expr) (context'.bind binder item)))
    (wanted : Bool) (items : List Value) :
    R.Holds (afterFirst sub context binder predicate wanted items)
      (afterFirst sub' context' binder (predicate.map f) wanted items) := by
  induction items with
  | nil => exact R.ok none
  | cons item rest ih =>
      simp only [afterFirst]
      refine R.bind (holds_related fun expr h => hpredicate expr h item) fun found => ?_
      split
      · exact R.ok _
      · exact ih

theorem quantify_related {binder : String} {predicate : Option Expr}
    (hpredicate : ∀ expr ∈ predicate, ∀ item,
      R.Holds (sub expr (context.bind binder item)) (sub' (f expr) (context'.bind binder item)))
    (quantifier : Quantifier) (items : List Value) :
    R.Holds (quantify sub context quantifier binder predicate items)
      (quantify sub' context' quantifier binder (predicate.map f) items) := by
  have hsearch := afterFirst_related hpredicate
  cases quantifier with
  | all => exact R.bind (hsearch false items) fun rest? => R.ok _
  | any => exact R.bind (hsearch true items) fun rest? => R.ok _
  | none => exact R.bind (hsearch true items) fun rest? => R.ok _
  | single =>
      refine R.bind (hsearch true items) fun rest? => ?_
      cases rest? with
      | none => exact R.ok false
      | some rest => exact R.bind (hsearch true rest) fun second? => R.ok _

theorem quantified_related {binder : String} {list : Expr} {predicate : Option Expr}
    (hlist : R.Holds (sub list context) (sub' (f list) context'))
    (hpredicate : ∀ expr ∈ predicate, ∀ item,
      R.Holds (sub expr (context.bind binder item)) (sub' (f expr) (context'.bind binder item)))
    (quantifier : Quantifier) :
    R.Holds (quantified sub context quantifier binder list predicate)
      (quantified sub' context' quantifier binder (f list) (predicate.map f)) := by
  rw [quantified, quantified]
  refine R.bind hlist fun value => R.bind (R.ofResult (source_ne_limit value)) fun items? => ?_
  cases items? with
  | none => exact R.ok _
  | some items =>
      exact R.bind (quantify_related hpredicate quantifier items) fun result => R.ok _

/-! ## Map projection -/

theorem valueOf_congr {name : String} (hname : context.lookup name = context'.lookup name) :
    valueOf context name = valueOf context' name := by
  rw [valueOf, valueOf, hname]

theorem valueOf_related {name : String} (hname : context.lookup name = context'.lookup name) :
    R.Holds (ofResult (valueOf context name)) (ofResult (valueOf context' name)) := by
  rw [← valueOf_congr hname]
  exact R.ofResult (valueOf_ne_limit context name)

theorem projectItems_related {items : List (ProjectionItem Expr)}
    (hparts : ∀ expr ∈ items.filterMap ProjectionItem.expr?,
      R.Holds (sub expr context) (sub' (f expr) context'))
    (hnames : ∀ name ∈ items.filterMap ProjectionItem.name?,
      context.lookup name = context'.lookup name)
    (properties soFar : Properties Value) :
    R.Holds (projectItems sub context properties soFar items)
      (projectItems sub' context' properties soFar (items.map (ProjectionItem.map f))) := by
  induction items generalizing soFar with
  | nil => exact R.ok soFar
  | cons item rest ih =>
      simp only [List.map_cons, projectItems]
      have hrest := ih
        (fun expr h => hparts expr (by rw [List.filterMap_cons]; split <;> simp_all))
        (fun name h => hnames name (by rw [List.filterMap_cons]; split <;> simp_all))
      cases item with
      | property key => exact hrest _
      | allProperties => exact hrest _
      | entry key expr =>
          have hexpr := hparts expr (by simp [ProjectionItem.expr?])
          exact R.bind hexpr fun value => hrest _
      | «variable» name =>
          have hname := hnames name (by simp [ProjectionItem.name?])
          exact R.bind (valueOf_related hname) fun value => hrest _

theorem mapProjection_related {subject : String} {items : List (ProjectionItem Expr)}
    (hparts : ∀ expr ∈ items.filterMap ProjectionItem.expr?,
      R.Holds (sub expr context) (sub' (f expr) context'))
    (hnames : ∀ name ∈ subject :: items.filterMap ProjectionItem.name?,
      context.lookup name = context'.lookup name) :
    R.Holds (mapProjection sub context subject items)
      (mapProjection sub' context' subject (items.map (ProjectionItem.map f))) := by
  simp only [List.forall_mem_cons] at hnames
  rw [mapProjection, mapProjection]
  refine R.bind (valueOf_related hnames.1) fun value => ?_
  split
  · exact R.ok _
  · split
    · exact R.bind (projectItems_related hparts hnames.2 _ _) fun projected => R.ok _
    · exact R.fail _ (by simp [Cause.mismatch])

/-! ## Calls -/

theorem call_related {engine : Engine} {args : List Expr}
    (hrun : ∀ name function values, engine.registry.find? name = some function →
      R.Holds (function.run values) (function.run values))
    (hparts : ∀ expr ∈ args, R.Holds (sub expr context) (sub' (f expr) context'))
    (name : String) :
    R.Holds (call sub engine context name args)
      (call sub' engine context' name (args.map f)) := by
  rw [call, call]
  rw [List.length_map]
  split
  · exact R.fail _ (by simp)
  · rename_i function hfound
    split
    · refine R.bind (all_related hparts) fun values => ?_
      split
      · exact R.ok _
      · exact hrun name function values hfound
    · exact R.fail _ (by simp [Function.arityCause])

/-! ## Paths -/

theorem nodeOf_related {expr : Expr}
    (hexpr : R.Holds (sub expr context) (sub' (f expr) context')) :
    R.Holds (nodeOf sub context expr) (nodeOf sub' context' (f expr)) := by
  rw [nodeOf, nodeOf]
  refine R.bind hexpr fun value => ?_
  split
  · exact R.ok none
  · exact R.ok (some _)
  · exact R.fail _ (by simp [Cause.mismatch])

theorem relationshipOf_related {expr : Expr}
    (hexpr : R.Holds (sub expr context) (sub' (f expr) context')) :
    R.Holds (relationshipOf sub context expr) (relationshipOf sub' context' (f expr)) := by
  rw [relationshipOf, relationshipOf]
  refine R.bind hexpr fun value => ?_
  split
  · exact R.ok none
  · exact R.ok (some _)
  · exact R.fail _ (by simp [Cause.mismatch])

theorem assemble_related {steps : PathStep Expr}
    (hmissing : ∀ expr, R.Holds
      (fail (missingDestination expr) : Outcome (Option (List (PathElement Value))))
      (fail (missingDestination (f expr))))
    (hparts : ∀ expr ∈ steps.exprs, R.Holds (sub expr context) (sub' (f expr) context'))
    (hsegments : ∀ name ∈ steps.segmentNames,
      context.segment? name = context'.segment? name) :
    R.Holds (assemble sub context steps) (assemble sub' context' (steps.map f)) := by
  induction steps with
  | done => exact R.ok (some [])
  | node expr next ih =>
      simp only [PathStep.exprs, List.forall_mem_cons] at hparts
      simp only [PathStep.map, assemble, PathStep.isSegment_map]
      have hnext := ih hparts.2 hsegments
      split
      · exact hnext
      · refine R.bind (nodeOf_related hparts.1) fun node? => ?_
        cases node? with
        | none => exact R.ok none
        | some node => exact R.bind hnext fun rest? => R.ok _
  | relationship expr target next ih =>
      simp only [PathStep.exprs, List.forall_mem_cons, List.forall_mem_append] at hparts
      cases target with
      | none => exact hmissing expr
      | some target =>
          simp only [PathStep.map, Option.map_some, assemble, PathStep.isSegment_map]
          have hnext := ih hparts.2.2 hsegments
          refine R.bind (relationshipOf_related hparts.1) fun relationship? => ?_
          cases relationship? with
          | none => exact R.ok none
          | some relationship =>
              simp only
              split
              · exact R.bind hnext fun rest? => R.ok _
              · have htarget := hparts.2.1 target (by simp)
                refine R.bind (nodeOf_related htarget) fun node? => ?_
                cases node? with
                | none => exact R.ok none
                | some node => exact R.bind hnext fun rest? => R.ok _
  | segment name next ih =>
      simp only [PathStep.segmentNames, List.forall_mem_cons] at hsegments
      simp only [PathStep.map, assemble, ← hsegments.1]
      split
      · exact R.fail _ (by simp)
      · exact R.bind (ih hparts hsegments.2) fun rest? => R.ok _

theorem path_related {steps : PathStep Expr}
    (hmissing : ∀ expr, R.Holds
      (fail (missingDestination expr) : Outcome (Option (List (PathElement Value))))
      (fail (missingDestination (f expr))))
    (hparts : ∀ expr ∈ steps.exprs, R.Holds (sub expr context) (sub' (f expr) context'))
    (hsegments : ∀ name ∈ steps.segmentNames,
      context.segment? name = context'.segment? name) :
    R.Holds (path sub context steps) (path sub' context' (steps.map f)) := by
  rw [path, path]
  refine R.bind (assemble_related hmissing hparts hsegments) fun elements? => ?_
  cases elements? with
  | none => exact R.ok _
  | some elements =>
      simp only
      split
      · exact R.fail _ (by simp)
      · split
        · exact R.ok _
        · exact R.fail _ (by simp)

/-! ## Patterns -/

theorem endpoint_related {name? : Option String}
    (hname : ∀ name ∈ name?, context.lookup name = context'.lookup name)
    (expected : String) (idOf : Value → Option Int64) :
    R.Holds (ofResult (endpoint context expected idOf name?))
      (ofResult (endpoint context' expected idOf name?)) := by
  have hlookup : name?.bind context.lookup = name?.bind context'.lookup := by
    cases name? with
    | none => rfl
    | some name => exact hname name rfl
  have hendpoint : endpoint context expected idOf name? =
      endpoint context' expected idOf name? := by
    rw [endpoint, endpoint, hlookup]
  rw [← hendpoint]
  exact R.ofResult (endpoint_ne_limit context expected idOf name?)

theorem nodeFilter_related {shape : NodePattern Expr}
    (hparts : ∀ expr ∈ shape.exprs, R.Holds (sub expr context) (sub' (f expr) context')) :
    R.Holds (nodeFilter sub context shape) (nodeFilter sub' context' (shape.map f)) :=
  R.bind (entries_related hparts []) fun _ => R.ok _

theorem relationshipFilter_related {shape : RelationshipPattern Expr}
    (hparts : ∀ expr ∈ shape.exprs, R.Holds (sub expr context) (sub' (f expr) context')) :
    R.Holds (relationshipFilter sub context shape)
      (relationshipFilter sub' context' (shape.map f)) :=
  R.bind (entries_related hparts []) fun _ => R.ok _

theorem oneHop_related {start finish : NodePattern Expr} {hop : RelationshipPattern Expr}
    (hparts : ∀ expr ∈ start.exprs ++ (hop.exprs ++ finish.exprs),
      R.Holds (sub expr context) (sub' (f expr) context'))
    (hnames : ∀ name ∈ start.name?.toList ++ (hop.name?.toList ++ finish.name?.toList),
      context.lookup name = context'.lookup name)
    (graph : PathSource) :
    R.Holds (oneHop sub graph context start hop finish)
      (oneHop sub' graph context' (start.map f) (hop.map f) (finish.map f)) := by
  simp only [List.forall_mem_append, Option.mem_toList] at hparts hnames
  rw [oneHop, oneHop]
  refine R.bind (endpoint_related hnames.1 _ _) fun startBound => ?_
  refine R.bind (endpoint_related hnames.2.2 _ _) fun finishBound => ?_
  refine R.bind (endpoint_related hnames.2.1 _ _) fun hopBound => ?_
  split
  · exact R.ok _
  · refine R.bind (nodeFilter_related hparts.1) fun startFilter => ?_
    refine R.bind (relationshipFilter_related hparts.2.1) fun hopFilter => ?_
    refine R.bind (nodeFilter_related hparts.2.2) fun finishFilter => ?_
    simp only [RelationshipPattern.map]
    split
    · exact R.fail _ (by simp)
    · exact R.ok _

theorem pattern_related {shape : Pattern Expr}
    (hparts : ∀ expr ∈ shape.exprs, R.Holds (sub expr context) (sub' (f expr) context'))
    (hnames : ∀ name ∈ shape.names, context.lookup name = context'.lookup name)
    (engine : Engine) :
    R.Holds (pattern sub engine context shape)
      (pattern sub' engine context' (shape.map f)) := by
  obtain ⟨start, chain⟩ := shape
  match chain with
  | [] => exact R.fail _ (by simp)
  | [(hop, finish)] =>
      simp only [Pattern.exprs, Pattern.names, List.flatMap_cons, List.flatMap_nil,
        List.append_nil] at hparts hnames
      simp only [pattern, Pattern.map, List.map_cons, List.map_nil,
        RelationshipPattern.isSingleHop_map]
      by_cases hsingle : hop.isSingleHop
      · rw [if_pos hsingle, if_pos hsingle]
        cases engine.graph with
        | none => exact R.fail _ (by simp)
        | some graph => exact oneHop_related hparts hnames graph
      · rw [if_neg hsingle, if_neg hsingle]
        exact R.fail _ (by simp)
  | first :: second :: rest =>
      simp only [pattern, Pattern.map, List.map_cons, Pattern.hops, List.length_cons,
        List.length_map]
      exact R.fail _ (by simp)

/-! ## All constructs -/

/-- In every context that binds the names around a part, the runs of the part are related. -/
def PartsRelated (R : OutcomeRelation) (sub sub' : Evaluator) (f : Expr → Expr)
    (context context' : Context) (parts : List ScopedPart) : Prop :=
  ∀ part ∈ parts, ∀ entries : List (String × Value), entries.map Prod.fst = part.bound →
    R.Holds (sub part.expr (context.bindAll entries))
      (sub' (f part.expr) (context'.bindAll entries))

namespace PartsRelated

variable {parts rest : List ScopedPart} {exprs : List Expr}

theorem outside (hrelated : PartsRelated R sub sub' f context context' (Expr.within [] exprs)) :
    ∀ expr ∈ exprs, R.Holds (sub expr context) (sub' (f expr) context') := by
  intro expr hexpr
  exact hrelated ⟨[], expr⟩ (List.mem_map_of_mem hexpr) [] rfl

theorem bound {binder : String}
    (hrelated : PartsRelated R sub sub' f context context' (Expr.within [binder] exprs)) :
    ∀ expr ∈ exprs, ∀ item,
      R.Holds (sub expr (context.bind binder item))
        (sub' (f expr) (context'.bind binder item)) := by
  intro expr hexpr item
  exact hrelated ⟨[binder], expr⟩ (List.mem_map_of_mem hexpr) [(binder, item)] rfl

theorem boundTwice {first second : String}
    (hrelated : PartsRelated R sub sub' f context context'
      (Expr.within [first, second] exprs)) :
    ∀ expr ∈ exprs, ∀ value item,
      R.Holds (sub expr ((context.bind first value).bind second item))
        (sub' (f expr) ((context'.bind first value).bind second item)) := by
  intro expr hexpr value item
  exact hrelated ⟨[first, second], expr⟩ (List.mem_map_of_mem hexpr)
    [(first, value), (second, item)] rfl

theorem append (hrelated : PartsRelated R sub sub' f context context' (parts ++ rest)) :
    PartsRelated R sub sub' f context context' parts ∧
      PartsRelated R sub sub' f context context' rest :=
  List.forall_mem_append.mp hrelated

end PartsRelated

/-- Two runs of a level are related if the runs of its parts are. -/
theorem level_related {engine : Engine} {expr : Expr}
    (hrun : ∀ name function values, engine.registry.find? name = some function →
      R.Holds (function.run values) (function.run values))
    (hleaving : ∀ outcome outcome' : Outcome Value, R.Holds outcome outcome' →
      R.Holds (outcome.leaving expr) (outcome'.leaving (expr.mapParts f)))
    (hmissing : ∀ part, R.Holds
      (fail (missingDestination part) : Outcome (Option (List (PathElement Value))))
      (fail (missingDestination (f part))))
    (hparameters : ∀ name, context.parameter? name = context'.parameter? name)
    (hnames : ∀ name ∈ expr.lookedUp, context.lookup name = context'.lookup name)
    (hsegments : ∀ name ∈ expr.segmentNames,
      context.segment? name = context'.segment? name)
    (hparts : PartsRelated R sub sub' f context context' expr.scopedParts) :
    R.Holds (level sub engine expr context) (level sub' engine (expr.mapParts f) context') := by
  cases expr with
  | literal value => exact R.ok _
  | «variable» name => exact hleaving _ _ (valueOf_related (hnames name (by simp [Expr.lookedUp])))
  | parameter name =>
      refine hleaving _ _ ?_
      have hparameter : parameterOf context name = parameterOf context' name := by
        rw [parameterOf, parameterOf, hparameters]
      rw [← hparameter]
      exact R.ofResult (parameterOf_ne_limit context name)
  | property subject key =>
      refine hleaving _ _ (R.bind (hparts.outside subject (by simp)) fun value => ?_)
      exact R.ofResult (property_ne_limit key value)
  | index container position =>
      refine R.bind (hparts.outside container (by simp)) fun value => ?_
      refine R.bind (hparts.outside position (by simp)) fun key => ?_
      exact hleaving _ _ (R.ofResult (Container.subscript_ne_limit value key))
  | slice list lower upper =>
      have houtside := hparts.outside
      simp only [List.forall_mem_cons, List.forall_mem_append, Option.mem_toList] at houtside
      refine hleaving _ _ (R.bind houtside.1 fun value => ?_)
      refine R.bind (optional_related houtside.2.1) fun first => ?_
      refine R.bind (optional_related houtside.2.2) fun last => ?_
      exact R.ofResult (Container.slice_ne_limit value first last)
  | binary op left right =>
      refine hleaving _ _ (R.bind (hparts.outside left (by simp)) fun first => ?_)
      refine R.bind (hparts.outside right (by simp)) fun second => ?_
      exact R.ofResult (binary_ne_limit op first second)
  | unary op operand =>
      refine hleaving _ _ (R.bind (hparts.outside operand (by simp)) fun value => ?_)
      exact R.ofResult (unary_ne_limit op value)
  | conjunction operands => exact hleaving _ _ (conjunction_related hparts.outside)
  | disjunction operands => exact hleaving _ _ (disjunction_related hparts.outside)
  | call name args distinct => exact hleaving _ _ (call_related hrun hparts.outside name)
  | countRows => exact hleaving _ _ (R.fail _ (by simp))
  | list items =>
      exact hleaving _ _ (R.bind (all_related hparts.outside) fun values => R.ok _)
  | map properties => exact R.bind (entries_related hparts.outside []) fun entries => R.ok _
  | mapProjection subject items =>
      exact hleaving _ _ (mapProjection_related hparts.outside hnames)
  | case subject branches fallback =>
      have houtside := hparts.outside
      simp only [List.forall_mem_append, Option.mem_toList, List.forall_mem_flatMap,
        List.forall_mem_cons] at houtside
      refine hleaving _ _ (case_related houtside.1.1 (fun branch hbranch => ?_) houtside.2)
      have := houtside.1.2 branch hbranch
      exact ⟨this.1, this.2.1⟩
  | comprehension binder list predicate projection =>
      have hscoped := hparts.append.2.bound
      simp only [List.forall_mem_append, Option.mem_toList] at hscoped
      exact hleaving _ _ (comprehension_related (hparts.append.1.outside list (by simp))
        hscoped.1 hscoped.2)
  | reduce accumulator init binder list body =>
      have houtside := hparts.append.1.outside
      exact hleaving _ _ (reduce_related (houtside init (by simp)) (houtside list (by simp))
        (hparts.append.2.boundTwice body (by simp)))
  | quantified quantifier binder list predicate =>
      have hscoped := hparts.append.2.bound
      simp only [Option.mem_toList] at hscoped
      exact hleaving _ _ (quantified_related (hparts.append.1.outside list (by simp))
        hscoped quantifier)
  | pattern shape => exact hleaving _ _ (pattern_related hparts.outside hnames engine)
  | patternComprehension name shape predicate projection =>
      exact hleaving _ _ (R.fail _ (by simp))
  | path steps => exact hleaving _ _ (path_related hmissing hparts.outside hsegments)

/-- The case of two runs of one expression. -/
theorem level_related_same {engine : Engine} {expr : Expr}
    (hrun : ∀ name function values, engine.registry.find? name = some function →
      R.Holds (function.run values) (function.run values))
    (hleaving : ∀ outcome outcome' : Outcome Value, R.Holds outcome outcome' →
      R.Holds (outcome.leaving expr) (outcome'.leaving expr))
    (hparameters : ∀ name, context.parameter? name = context'.parameter? name)
    (hnames : ∀ name ∈ expr.lookedUp, context.lookup name = context'.lookup name)
    (hsegments : ∀ name ∈ expr.segmentNames,
      context.segment? name = context'.segment? name)
    (hparts : PartsRelated R sub sub' id context context' expr.scopedParts) :
    R.Holds (level sub engine expr context) (level sub' engine expr context') := by
  have hmissing : ∀ part, R.Holds
      (fail (missingDestination part) : Outcome (Option (List (PathElement Value))))
      (fail (missingDestination part)) :=
    fun part => R.fail _ (by simp [missingDestination])
  have hlevel := level_related (f := id) hrun (by simpa using hleaving) hmissing hparameters
    hnames hsegments hparts
  simpa using hlevel

end CypherExpr.Eval
