import CypherExpr.Proofs.Evaluation.DepthLimit

/-!
# Comprehensions in two stages

A comprehension filters and projects one element after the other, so it may project one element
before it finds that the next one cannot be filtered.  Where no element fails the order does not
matter: the elements can all be filtered first, and what is kept projected afterwards.  Of an
expression the two stages are two comprehensions, one inside the other, and the inner one stands a
level deeper, which only the depth limit can tell.
-/

namespace CypherExpr

namespace Eval

open Outcome

variable {sub : Evaluator} {context : Context} {binder : String}
  {predicate projection : Option Expr}

/-- The first element is projected if it is kept, and the rest follows. -/
theorem comprehend_cons_eq_ok_iff {item : Value} {rest values : List Value} :
    comprehend sub context binder predicate projection (item :: rest) = .ok values ↔
      ∃ keep, holds sub predicate (context.bind binder item) = .ok keep ∧
        if keep then
          ∃ value others, projected sub projection (context.bind binder item) item = .ok value ∧
            comprehend sub context binder predicate projection rest = .ok others ∧
            values = value :: others
        else comprehend sub context binder predicate projection rest = .ok values := by
  rw [comprehend, bind_eq_ok_iff]
  refine exists_congr fun keep => and_congr_right fun _ => ?_
  cases keep with
  | false => rfl
  | true =>
      simp only [if_true]
      constructor
      · intro hvalues
        obtain ⟨value, hvalue, hrest⟩ := bind_eq_ok_iff.mp hvalues
        obtain ⟨others, hothers, hvalues⟩ := bind_eq_ok_iff.mp hrest
        cases hvalues
        exact ⟨value, others, hvalue, hothers, rfl⟩
      · rintro ⟨value, others, hvalue, hothers, rfl⟩
        exact bind_eq_ok_iff.mpr ⟨value, hvalue, bind_eq_ok_iff.mpr ⟨others, hothers, rfl⟩⟩

/-- A filter keeps or drops the first element and goes on with the rest. -/
theorem filter_cons_eq_ok_iff {item : Value} {rest kept : List Value} :
    comprehend sub context binder predicate none (item :: rest) = .ok kept ↔
      ∃ keep, holds sub predicate (context.bind binder item) = .ok keep ∧
        ∃ others, comprehend sub context binder predicate none rest = .ok others ∧
          kept = if keep then item :: others else others := by
  rw [comprehend_cons_eq_ok_iff]
  refine exists_congr fun keep => and_congr_right fun _ => ?_
  cases keep with
  | true => simp [projected]
  | false => simp

/-- A projection without a filter projects the first element and goes on with the rest. -/
theorem project_cons_eq_ok_iff {item : Value} {rest values : List Value} :
    comprehend sub context binder none projection (item :: rest) = .ok values ↔
      ∃ value others, projected sub projection (context.bind binder item) item = .ok value ∧
        comprehend sub context binder none projection rest = .ok others ∧
        values = value :: others := by
  rw [comprehend_cons_eq_ok_iff]
  simp [holds]

/-- Filtering and projecting one by one gives what projecting the filtered elements gives. -/
theorem comprehend_eq_ok_iff_stages {items values : List Value} :
    comprehend sub context binder predicate projection items = .ok values ↔
      ∃ kept, comprehend sub context binder predicate none items = .ok kept ∧
        comprehend sub context binder none projection kept = .ok values := by
  induction items generalizing values with
  | nil =>
      constructor
      · intro hvalues
        exact ⟨[], rfl, hvalues⟩
      · rintro ⟨kept, hkept, hvalues⟩
        cases hkept
        exact hvalues
  | cons item rest ih =>
      rw [comprehend_cons_eq_ok_iff]
      constructor
      · rintro ⟨keep, hkeep, hvalues⟩
        cases keep with
        | false =>
            obtain ⟨kept, hkept, hproject⟩ := ih.mp hvalues
            exact ⟨kept, filter_cons_eq_ok_iff.mpr ⟨false, hkeep, kept, hkept, rfl⟩, hproject⟩
        | true =>
            obtain ⟨value, others, hvalue, hothers, rfl⟩ := hvalues
            obtain ⟨kept, hkept, hproject⟩ := ih.mp hothers
            exact ⟨item :: kept, filter_cons_eq_ok_iff.mpr ⟨true, hkeep, kept, hkept, rfl⟩,
              project_cons_eq_ok_iff.mpr ⟨value, others, hvalue, hproject, rfl⟩⟩
      · rintro ⟨kept, hfilter, hproject⟩
        obtain ⟨keep, hkeep, others, hothers, rfl⟩ := filter_cons_eq_ok_iff.mp hfilter
        refine ⟨keep, hkeep, ?_⟩
        cases keep with
        | false => exact ih.mpr ⟨others, hothers, hproject⟩
        | true =>
            obtain ⟨value, projections, hvalue, hrest, rfl⟩ := project_cons_eq_ok_iff.mp hproject
            exact ⟨value, projections, hvalue, ih.mpr ⟨others, hothers, hrest⟩, rfl⟩

/-- A loop over a source has a value if the source is null, or a list and the loop has one over its
elements. -/
theorem source_bind_eq_ok_iff {list : Expr} {loop : Option (List Value) → Outcome Value}
    {value : Value} :
    ((do loop (← ofResult (source (← sub list context)))) : Outcome Value) = .ok value ↔
      (sub list context = .ok .null ∧ loop none = .ok value) ∨
        ∃ items, sub list context = .ok (.list items) ∧ loop (some items) = .ok value := by
  constructor
  · intro hvalue
    obtain ⟨container, hcontainer, hrest⟩ := bind_eq_ok_iff.mp hvalue
    obtain ⟨items?, hitems, hloop⟩ := bind_eq_ok_iff.mp hrest
    have hsource := ofResult_eq_ok_iff.mp hitems
    cases container with
    | null =>
        cases hsource
        exact .inl ⟨hcontainer, hloop⟩
    | list items =>
        cases hsource
        exact .inr ⟨items, hcontainer, hloop⟩
    | _ => cases hsource
  · rintro (⟨hlist, hloop⟩ | ⟨items, hlist, hloop⟩)
    · exact bind_eq_ok_iff.mpr ⟨.null, hlist, hloop⟩
    · exact bind_eq_ok_iff.mpr ⟨.list items, hlist, hloop⟩

/-- A comprehension has a value if its source is null, or a list whose elements all have one. -/
theorem comprehension_eq_ok_iff {list : Expr} {value : Value} :
    comprehension sub context binder list predicate projection = .ok value ↔
      (sub list context = .ok .null ∧ value = .null) ∨
        ∃ items values, sub list context = .ok (.list items) ∧
          comprehend sub context binder predicate projection items = .ok values ∧
          value = .list values := by
  refine source_bind_eq_ok_iff.trans (or_congr (and_congr_right fun _ => ?_) ?_)
  · exact ⟨fun hvalue => (Except.ok.inj hvalue).symm, fun hvalue => hvalue ▸ rfl⟩
  · refine exists_congr fun items => ?_
    constructor
    · rintro ⟨hlist, hvalue⟩
      obtain ⟨values, hvalues, hvalue⟩ := bind_eq_ok_iff.mp hvalue
      exact ⟨values, hlist, hvalues, (Except.ok.inj hvalue).symm⟩
    · rintro ⟨values, hlist, hvalues, rfl⟩
      exact ⟨hlist, bind_eq_ok_iff.mpr ⟨values, hvalues, rfl⟩⟩

end Eval

namespace Engine

open Outcome

variable (engine : Engine) {context : Context} {binder : String} {list : Expr}
  {predicate projection : Option Expr} {value : Value}

theorem eval_comprehension_eq_ok_iff {budget : Nat} :
    engine.eval (budget + 1) (.comprehension binder list predicate projection) context =
        .ok value ↔
      (engine.eval budget list context = .ok .null ∧ value = .null) ∨
        ∃ items values, engine.eval budget list context = .ok (.list items) ∧
          Eval.comprehend (engine.eval budget) context binder predicate projection items =
            .ok values ∧ value = .list values :=
  leaving_eq_ok_iff.trans Eval.comprehension_eq_ok_iff

/-- The source of a comprehension is evaluated whatever the comprehension does with it. -/
theorem hitsLimit_eval_comprehension {budget : Nat}
    (hlimit : (engine.eval budget list context).HitsLimit) :
    (engine.eval (budget + 1) (.comprehension binder list predicate projection)
      context).HitsLimit :=
  (hitsLimit_leaving _ _).mpr (hlimit.bind _)

/-- A comprehension projects what the filter alone keeps. -/
theorem evaluate_comprehension_eq_ok_iff_filter :
    engine.evaluate (.comprehension binder list predicate projection) context = .ok value ↔
      (engine.evaluate (.comprehension binder list predicate none) context = .ok .null ∧
        value = .null) ∨
        ∃ kept values,
          engine.evaluate (.comprehension binder list predicate none) context =
            .ok (.list kept) ∧
          Eval.comprehend (engine.eval engine.options.maxDepth) context binder none projection
            kept = .ok values ∧ value = .list values := by
  constructor
  · intro hboth
    rcases engine.eval_comprehension_eq_ok_iff.mp hboth with
      ⟨hlist, hvalue⟩ | ⟨items, values, hlist, hvalues, hvalue⟩
    · exact .inl ⟨engine.eval_comprehension_eq_ok_iff.mpr (.inl ⟨hlist, rfl⟩), hvalue⟩
    · obtain ⟨kept, hkept, hproject⟩ := Eval.comprehend_eq_ok_iff_stages.mp hvalues
      refine .inr ⟨kept, values, ?_, hproject, hvalue⟩
      exact engine.eval_comprehension_eq_ok_iff.mpr (.inr ⟨items, kept, hlist, hkept, rfl⟩)
  · rintro (⟨hfilter, hvalue⟩ | ⟨kept, values, hfilter, hproject, hvalue⟩)
    · rcases engine.eval_comprehension_eq_ok_iff.mp hfilter with
        ⟨hlist, _⟩ | ⟨_, _, _, _, hnull⟩
      · exact engine.eval_comprehension_eq_ok_iff.mpr (.inl ⟨hlist, hvalue⟩)
      · cases hnull
    · rcases engine.eval_comprehension_eq_ok_iff.mp hfilter with
        ⟨_, hnull⟩ | ⟨items, _, hlist, hkept, hsame⟩
      · cases hnull
      · cases hsame
        have hvalues := Eval.comprehend_eq_ok_iff_stages.mpr ⟨kept, hkept, hproject⟩
        exact engine.eval_comprehension_eq_ok_iff.mpr (.inr ⟨items, values, hlist, hvalues, hvalue⟩)

/-- A comprehension with a filter and a projection has the values that projecting the filtered list
has, null among them, unless the filter, which stands one level deeper there, runs into the depth
limit. -/
theorem evaluate_comprehension_stages (context : Context) (binder : String) (list : Expr)
    (predicate projection : Option Expr) (value : Value)
    (hlimit : ¬ (engine.evaluate (.comprehension binder
      (.comprehension binder list predicate none) none projection) context).HitsLimit) :
    engine.evaluate (.comprehension binder list predicate projection) context = .ok value ↔
      engine.evaluate (.comprehension binder (.comprehension binder list predicate none) none
        projection) context = .ok value := by
  have hfilter : engine.eval engine.options.maxDepth (.comprehension binder list predicate none)
      context = engine.evaluate (.comprehension binder list predicate none) context := by
    refine (engine.eval_hitsLimit_or_eq (Nat.le_succ _) _ context).resolve_left fun hdeeper => ?_
    exact hlimit (engine.hitsLimit_eval_comprehension hdeeper)
  rw [evaluate_comprehension_eq_ok_iff_filter, ← hfilter]
  exact engine.eval_comprehension_eq_ok_iff.symm

/-- The predicate `x % 2 = 1`. -/
def isOdd : Expr :=
  .binary .equal (.binary .modulo (.variable "x") (.literal (.integer 2))) (.literal (.integer 1))

/-- The projection `x + 1`. -/
def oneMore : Expr := .binary .add (.variable "x") (.literal (.integer 1))

/-- The numbers in `xs`, of which one is not known, and those in `ys`, of which nothing is known. -/
def rowOfNumbers : Context :=
  ⟨[("xs", .list [.integer 1, .null, .integer 4, .integer 7]), ("ys", .null)], [], []⟩

/-- The odd numbers among 1, null, 4 and 7 are 1 and 7, which makes 2 and 8 in either form, and an
unknown list makes null. -/
theorem evaluate_comprehension_stages_odd :
    (¬ (standard.evaluate (.comprehension "x" (.comprehension "x" (.variable "xs") (some isOdd)
        none) none (some oneMore)) rowOfNumbers).HitsLimit ∧
      ¬ (standard.evaluate (.comprehension "x" (.comprehension "x" (.variable "ys") (some isOdd)
        none) none (some oneMore)) rowOfNumbers).HitsLimit) ∧
    standard.evaluate (.comprehension "x" (.variable "xs") (some isOdd) (some oneMore))
      rowOfNumbers = .ok (.list [.integer 2, .integer 8]) ∧
    standard.evaluate (.comprehension "x" (.variable "ys") (some isOdd) (some oneMore))
      rowOfNumbers = .ok .null := by
  have hxs : standard.evaluate (.comprehension "x" (.comprehension "x" (.variable "xs")
      (some isOdd) none) none (some oneMore)) rowOfNumbers =
        .ok (.list [.integer 2, .integer 8]) := rfl
  have hys : standard.evaluate (.comprehension "x" (.comprehension "x" (.variable "ys")
      (some isOdd) none) none (some oneMore)) rowOfNumbers = .ok .null := rfl
  have hwithin : ∀ {outcome : Outcome Value} {value : Value}, outcome = .ok value →
      ¬ outcome.HitsLimit := by
    rintro _ _ rfl
    exact not_hitsLimit_ok _
  refine ⟨⟨hwithin hxs, hwithin hys⟩, ?_, ?_⟩
  · exact (standard.evaluate_comprehension_stages rowOfNumbers "x" (.variable "xs") (some isOdd)
      (some oneMore) _ (hwithin hxs)).mpr hxs
  · exact (standard.evaluate_comprehension_stages rowOfNumbers "x" (.variable "ys") (some isOdd)
      (some oneMore) _ (hwithin hys)).mpr hys

end Engine

end CypherExpr
