import CypherExpr.Proofs.Evaluation.Comprehensions
import CypherExpr.Proofs.Typing.Soundness
import Mathlib.Data.List.Basic

/-!
# Inference of reductions

A reduction is inferred to be of the type of its initial value, but that is its value for the empty
list only.  For every other list it is the value that the body has on the last element, and the body
is not looked at: `reduce(total = 0, x IN [0.5] | total + x)` is said to be an integer.  Inference
is right where the body keeps to the type, that is, where it leads from an accumulator of the type
to one of the type again; the length of the list does not matter then.
-/

namespace CypherExpr

namespace Eval

open Outcome

variable {sub : Evaluator} {context : Context} {accumulator binder : String} {body : Expr}

/-- A fold over one more element takes one more step. -/
theorem fold_concat_eq_ok_iff {items : List Value} {first last value : Value} :
    fold sub context accumulator binder body first (items ++ [last]) = .ok value ↔
      ∃ reached, fold sub context accumulator binder body first items = .ok reached ∧
        sub body ((context.bind accumulator reached).bind binder last) = .ok value := by
  induction items generalizing first with
  | nil =>
      constructor
      · intro hvalue
        obtain ⟨next, hnext, hdone⟩ := bind_eq_ok_iff.mp hvalue
        cases hdone
        exact ⟨first, rfl, hnext⟩
      · rintro ⟨reached, hreached, hvalue⟩
        cases hreached
        exact bind_eq_ok_iff.mpr ⟨value, hvalue, rfl⟩
  | cons item rest ih =>
      constructor
      · intro hvalue
        obtain ⟨next, hnext, hrest⟩ := bind_eq_ok_iff.mp hvalue
        obtain ⟨reached, hreached, hlast⟩ := ih.mp hrest
        exact ⟨reached, bind_eq_ok_iff.mpr ⟨next, hnext, hreached⟩, hlast⟩
      · rintro ⟨reached, hreached, hlast⟩
        obtain ⟨next, hnext, hrest⟩ := bind_eq_ok_iff.mp hreached
        exact bind_eq_ok_iff.mpr ⟨next, hnext, ih.mpr ⟨reached, hrest, hlast⟩⟩

/-- What a fold starts with and every step keeps, it ends with. -/
theorem fold_induction {Kept : Value → Prop} {items : List Value} {first value : Value}
    (hfirst : Kept first)
    (hstep : ∀ reached next, ∀ item ∈ items, Kept reached →
      sub body ((context.bind accumulator reached).bind binder item) = .ok next → Kept next)
    (hfold : fold sub context accumulator binder body first items = .ok value) : Kept value := by
  induction items generalizing first with
  | nil =>
      cases hfold
      exact hfirst
  | cons item rest ih =>
      obtain ⟨next, hnext, hrest⟩ := bind_eq_ok_iff.mp hfold
      have hkept := hstep first next item List.mem_cons_self hfirst hnext
      exact ih hkept (fun reached next later hlater => hstep reached next later
        (List.mem_cons_of_mem item hlater)) hrest

/-- A reduction has a value if its source is null, or a list over which the body can be folded. -/
theorem reduce_eq_ok_iff {init list : Expr} {value : Value} :
    reduce sub context accumulator init binder list body = .ok value ↔
      ∃ first, sub init context = .ok first ∧
        ((sub list context = .ok .null ∧ value = .null) ∨
          ∃ items, sub list context = .ok (.list items) ∧
            fold sub context accumulator binder body first items = .ok value) := by
  rw [reduce, bind_eq_ok_iff]
  refine exists_congr fun first => and_congr_right fun _ => ?_
  refine source_bind_eq_ok_iff.trans (or_congr_left (and_congr_right fun _ => ?_))
  exact ⟨fun hvalue => (Except.ok.inj hvalue).symm, fun hvalue => hvalue ▸ rfl⟩

end Eval

/-! ## Scopes -/

theorem TypeContext.typeOf_declare (types : TypeContext) (name other : String)
    (type : ValueType) :
    (types.declare name type).typeOf other =
      if other = name then some type else types.typeOf other := by
  by_cases h : other = name
  · simp [declare, typeOf, h]
  · simp [declare, typeOf, List.lookup_cons, beq_eq_false_iff_ne.2 h, h]

/-- A context goes on conforming if a value is bound under a type that admits it. -/
theorem Context.Conforms.bind {context : Context} {types : TypeContext}
    (hconforms : context.Conforms types) (name : String) {type : ValueType} {value : Value}
    (hadmits : type.Admits value) :
    (context.bind name value).Conforms (types.declare name type) where
  names {other found bound} htype hvalue := by
    rw [TypeContext.typeOf_declare] at htype
    rw [lookup_bind] at hvalue
    split at htype
    · next hname =>
      rw [if_pos hname] at hvalue
      cases htype
      cases hvalue
      exact hadmits
    · next hname =>
      rw [if_neg hname] at hvalue
      exact hconforms.names htype hvalue
  parameters htype hvalue := hconforms.parameters htype hvalue

namespace Engine

open Outcome

section Reduction

variable (engine : Engine) {context : Context} {accumulator binder : String}
  {init list body : Expr} {first value : Value}

/-- A reduction with a value has folded its body over the elements, unless its source is null. -/
theorem exists_fold_of_evaluate (hfirst : engine.evaluate init context = .ok first)
    (heval : engine.evaluate (.reduce accumulator init binder list body) context = .ok value) :
    (engine.evaluate list context = .ok .null ∧ value = .null) ∨
      ∃ items, engine.evaluate list context = .ok (.list items) ∧
        Eval.fold (engine.eval engine.options.maxDepth) context accumulator binder body first
          items = .ok value := by
  obtain ⟨start, hstart, hcases⟩ := Eval.reduce_eq_ok_iff.mp (leaving_eq_ok_iff.mp heval)
  cases hfirst.symm.trans (engine.eval_eq_ok_of_le (Nat.le_succ _) hstart)
  refine hcases.imp (And.imp_left ?_) (Exists.imp fun items => And.imp_left ?_)
  · exact engine.eval_eq_ok_of_le (Nat.le_succ _)
  · exact engine.eval_eq_ok_of_le (Nat.le_succ _)

/-- If a type admits what a fold starts with, it admits the result exactly if there is no element or
it admits the value that the body has on the last one. -/
theorem admits_fold_iff {type : ValueType} {items : List Value} (hfirst : type.Admits first)
    (hfold : Eval.fold (engine.eval engine.options.maxDepth) context accumulator binder body first
      items = .ok value) :
    type.Admits value ↔ items = [] ∨ ∃ before last reached final, items = before ++ [last] ∧
      Eval.fold (engine.eval engine.options.maxDepth) context accumulator binder body first
        before = .ok reached ∧
      engine.evaluate body ((context.bind accumulator reached).bind binder last) = .ok final ∧
      type.Admits final := by
  constructor
  · intro hvalue
    rcases List.eq_nil_or_concat' items with rfl | ⟨before, last, rfl⟩
    · exact .inl rfl
    · obtain ⟨reached, hreached, hlast⟩ := Eval.fold_concat_eq_ok_iff.mp hfold
      have hfinal := engine.eval_eq_ok_of_le (Nat.le_succ _) hlast
      exact .inr ⟨before, last, reached, value, rfl, hreached, hfinal, hvalue⟩
  · rintro (rfl | ⟨before, last, reached, final, rfl, hreached, hfinal, hadmits⟩)
    · cases hfold
      exact hfirst
    · obtain ⟨_, hbefore, hlast⟩ := Eval.fold_concat_eq_ok_iff.mp hfold
      cases hreached.symm.trans hbefore
      cases hfinal.symm.trans (engine.eval_eq_ok_of_le (Nat.le_succ _) hlast)
      exact hadmits

/-- A type admits the result of a fold if it admits the start and, where the context conforms, all
values of the body. -/
theorem admits_fold_of_body {types : TypeContext} {type element : ValueType}
    {items : List Value} (hconforms : context.Conforms types) (hfirst : type.Admits first)
    (hitems : ∀ item ∈ items, element.Admits item)
    (hbody : ∀ scope next,
      scope.Conforms ((types.declare accumulator type).declare binder element) →
      engine.evaluate body scope = .ok next → type.Admits next)
    (hfold : Eval.fold (engine.eval engine.options.maxDepth) context accumulator binder body first
      items = .ok value) : type.Admits value := by
  refine Eval.fold_induction hfirst (fun reached next item hitem hreached hnext => ?_) hfold
  have hscope := (hconforms.bind accumulator hreached).bind binder (hitems item hitem)
  exact hbody _ next hscope (engine.eval_eq_ok_of_le (Nat.le_succ _) hnext)

end Reduction

/-- A reduction is inferred to be of the type of its initial value.  It has a value of that type
exactly if there is no element, or if the body has one on the last element, with the accumulator
that the elements before it lead to.  Over a list of any length it has one if all values of the
body are of the type where the accumulator is, and where the element is of a type that all elements
of the list have. -/
theorem evaluate_reduce_accepted_iff (engine : Engine) (types : TypeContext) (context : Context)
    (hconforms : context.Conforms types) (accumulator binder : String) (init list body : Expr)
    (type : ValueType) (first value : Value)
    (hinfer : engine.inferType (.reduce accumulator init binder list body) types = some type)
    (hfirst : engine.evaluate init context = .ok first)
    (hinit : ∀ known, engine.inferType init types = some known → known.Admits first)
    (heval : engine.evaluate (.reduce accumulator init binder list body) context = .ok value) :
    (type.Admits value ↔
      engine.evaluate list context = .ok .null ∨ engine.evaluate list context = .ok (.list []) ∨
        ∃ items last reached final,
          engine.evaluate list context = .ok (.list (items ++ [last])) ∧
          Eval.fold (engine.eval engine.options.maxDepth) context accumulator binder body first
            items = .ok reached ∧
          engine.evaluate body ((context.bind accumulator reached).bind binder last) =
            .ok final ∧ type.Admits final) ∧
    ∀ element : ValueType,
      (∀ items, engine.evaluate list context = .ok (.list items) →
        ∀ item ∈ items, element.Admits item) →
      (∀ scope next,
        scope.Conforms ((types.declare accumulator type).declare binder element) →
        engine.evaluate body scope = .ok next → type.Admits next) →
      type.Admits value := by
  have hadmits : type.Admits first := hinit type hinfer
  rcases engine.exists_fold_of_evaluate hfirst heval with ⟨hlist, rfl⟩ | ⟨items, hlist, hfold⟩
  · exact ⟨iff_of_true (.inl rfl) (.inl hlist), fun _ _ _ => .inl rfl⟩
  · refine ⟨(engine.admits_fold_iff hadmits hfold).trans ?_, fun element hitems hbody => ?_⟩
    · simp [hlist]
    · exact engine.admits_fold_of_body hconforms hadmits (hitems items hlist) hbody hfold

/-- The body `total + x`. -/
def totalWithElement : Expr := .binary .add (.variable "total") (.variable "x")

/-- The reduction `reduce(total = 0, x IN [1, 2] | total + x)`. -/
def sumOfOneAndTwo : Expr :=
  .reduce "total" (.literal (.integer 0)) "x"
    (.list [.literal (.integer 1), .literal (.integer 2)]) totalWithElement

/-- The reduction `reduce(total = 0, x IN [0.5] | total + x)`. -/
def sumOfOneHalf : Expr :=
  .reduce "total" (.literal (.integer 0)) "x" (.list [.literal (.float 0.5)]) totalWithElement

theorem conforms_empty : Context.empty.Conforms .empty where
  names htype := by cases htype
  parameters htype := by cases htype

/-- With integers for the accumulator and the element, `total + x` is an integer. -/
theorem integer_totalWithElement (scope : Context) (next : Value)
    (hscope : scope.Conforms ((TypeContext.empty.declare "total" .integer).declare "x" .integer))
    (hnext : standard.evaluate totalWithElement scope = .ok next) :
    ValueType.integer.Admits next := by
  have hfree : ((TypeContext.empty.declare "total" .integer).declare "x" .integer).ListFree := by
    constructor
    · intro name type htype
      rw [TypeContext.typeOf_declare, TypeContext.typeOf_declare] at htype
      split at htype
      · cases htype
        rfl
      · split at htype <;> cases htype
        rfl
    · intro name type htype
      cases htype
  have hscalar : totalWithElement.Scalar := .arithmetic rfl (.reference "total") (.reference "x")
  exact (standard.eval_admits hfree hscope hscalar rfl hnext).1

/-- The sum of the integers 1 and 2 is the integer that it is inferred to be. -/
theorem evaluate_reduce_accepted_integers :
    Context.empty.Conforms .empty ∧
    standard.inferType sumOfOneAndTwo .empty = some .integer ∧
    standard.evaluate (.literal (.integer 0)) .empty = .ok (.integer 0) ∧
    (∀ known, standard.inferType (.literal (.integer 0)) .empty = some known →
      known.Admits (.integer 0)) ∧
    standard.evaluate sumOfOneAndTwo .empty = .ok (.integer 3) ∧
    ValueType.integer.Admits (.integer 3) := by
  have hinit : ∀ known, standard.inferType (.literal (.integer 0)) .empty = some known →
      known.Admits (.integer 0) := by
    rintro _ ⟨⟩
    exact .inr rfl
  have helements : ∀ items, standard.evaluate (.list [.literal (.integer 1),
      .literal (.integer 2)]) .empty = .ok (.list items) →
      ∀ item ∈ items, ValueType.integer.Admits item := by
    rintro _ ⟨⟩
    simp only [List.forall_mem_cons]
    exact ⟨.inr rfl, .inr rfl, List.forall_mem_nil _⟩
  exact ⟨conforms_empty, rfl, rfl, hinit, rfl,
    (standard.evaluate_reduce_accepted_iff .empty .empty conforms_empty "total" "x" _ _ _ _ _ _
      rfl rfl hinit rfl).2 .integer helements integer_totalWithElement⟩

/-- The sum that starts with the integer 0 is inferred to be an integer, but with 0.5 it is a
float, which an integer type does not accept. -/
theorem evaluate_sumOfOneHalf_float :
    Context.empty.Conforms .empty ∧
    standard.inferType sumOfOneHalf .empty = some .integer ∧
    standard.evaluate (.literal (.integer 0)) .empty = .ok (.integer 0) ∧
    standard.inferType (.literal (.integer 0)) .empty = some .integer ∧
    ValueType.integer.Admits (.integer 0) ∧
    ∃ value, standard.evaluate sumOfOneHalf .empty = .ok value ∧ value.type = .float ∧
      ¬ ValueType.integer.Admits value := by
  refine ⟨conforms_empty, rfl, rfl, rfl, .inr rfl, _, rfl, rfl, ?_⟩
  rintro (hnull | haccepts)
  · cases hnull
  · cases haccepts

end Engine

end CypherExpr
