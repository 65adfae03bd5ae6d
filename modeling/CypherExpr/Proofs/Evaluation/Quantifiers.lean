import CypherExpr.Proofs.Evaluation.Comprehensions

/-!
# Quantifiers and the filtering comprehension

The comprehension `[x IN list WHERE p]` looks at every element of its source, a quantifier at no
more than decide it.  Where the comprehension has a value, each quantifier has one too, and it can
be read off the number of elements and the number of those kept: a search ends at the first kept
element, or at the first that is not kept, exactly where the comprehension says there is one.
-/

namespace CypherExpr

/-- What a quantifier says of `total` elements of which `kept` satisfy the predicate. -/
def Quantifier.verdict (total kept : Nat) : Quantifier → Bool
  | .all => kept == total
  | .any => kept != 0
  | .none => kept == 0
  | .single => kept == 1

namespace Eval

open Outcome

variable {sub : Evaluator} {context : Context} {binder : String} {predicate : Option Expr}

/-- Nothing is kept: a search for an element that satisfies the predicate fails. -/
theorem afterFirst_true_of_comprehend_nil {items : List Value}
    (hnone : comprehend sub context binder predicate none items = .ok []) :
    afterFirst sub context binder predicate true items = .ok none := by
  induction items with
  | nil => rfl
  | cons item rest ih =>
      obtain ⟨keep, hkeep, others, hothers, hkept⟩ := filter_cons_eq_ok_iff.mp hnone
      cases keep with
      | true => cases hkept
      | false =>
          cases hkept
          rw [afterFirst, hkeep]
          exact ih hothers

/-- Something is kept: the search stops at the first kept element, and the others are kept of what
is left. -/
theorem afterFirst_true_of_comprehend_cons {items : List Value} {first : Value}
    {others : List Value}
    (hsome : comprehend sub context binder predicate none items = .ok (first :: others)) :
    ∃ rest, afterFirst sub context binder predicate true items = .ok (some rest) ∧
      comprehend sub context binder predicate none rest = .ok others := by
  induction items with
  | nil => cases hsome
  | cons item rest ih =>
      obtain ⟨keep, hkeep, kept, hrest, hkept⟩ := filter_cons_eq_ok_iff.mp hsome
      rw [afterFirst, hkeep]
      cases keep with
      | true =>
          cases hkept
          exact ⟨rest, rfl, hrest⟩
      | false =>
          cases hkept
          exact ih hrest

/-- A search for an element that does not satisfy the predicate fails exactly if all are kept. -/
theorem afterFirst_false_of_comprehend {items kept : List Value}
    (hkept : comprehend sub context binder predicate none items = .ok kept) :
    kept.length ≤ items.length ∧
      ∃ found, afterFirst sub context binder predicate false items = .ok found ∧
        found.isNone = (kept.length == items.length) := by
  induction items generalizing kept with
  | nil =>
      cases hkept
      exact ⟨Nat.le_refl 0, none, rfl, rfl⟩
  | cons item rest ih =>
      obtain ⟨keep, hkeep, others, hothers, rfl⟩ := filter_cons_eq_ok_iff.mp hkept
      obtain ⟨hlength, found, hfound, hdecided⟩ := ih hothers
      rw [afterFirst, hkeep]
      cases keep with
      | true =>
          refine ⟨Nat.succ_le_succ hlength, found, hfound, ?_⟩
          rw [hdecided]
          simp
      | false =>
          have hfewer : others.length ≠ (item :: rest).length := by
            rw [List.length_cons]
            omega
          refine ⟨Nat.le_succ_of_le hlength, some rest, rfl, ?_⟩
          exact (beq_eq_false_iff_ne.mpr hfewer).symm

/-- A quantifier says what counting the kept elements says. -/
theorem quantify_of_comprehend (quantifier : Quantifier) {items kept : List Value}
    (hkept : comprehend sub context binder predicate none items = .ok kept) :
    quantify sub context quantifier binder predicate items =
      .ok (quantifier.verdict items.length kept.length) := by
  have hall : quantify sub context .all binder predicate items =
      .ok (Quantifier.verdict items.length kept.length .all) := by
    obtain ⟨_, found, hfound, hdecided⟩ := afterFirst_false_of_comprehend hkept
    rw [quantify, hfound, Quantifier.verdict, ← hdecided]
    rfl
  cases kept with
  | nil =>
      have hsearch := afterFirst_true_of_comprehend_nil hkept
      cases quantifier with
      | all => exact hall
      | any | none | single =>
          rw [quantify, hsearch]
          rfl
  | cons first others =>
      obtain ⟨rest, hsearch, hrest⟩ := afterFirst_true_of_comprehend_cons hkept
      cases quantifier with
      | all => exact hall
      | any | none =>
          rw [quantify, hsearch]
          rfl
      | single =>
          -- The second search takes up where the first one stopped.
          refine bind_eq_ok_iff.mpr ⟨some rest, hsearch, ?_⟩
          cases others with
          | nil =>
              have hsecond := afterFirst_true_of_comprehend_nil hrest
              exact bind_eq_ok_iff.mpr ⟨none, hsecond, rfl⟩
          | cons second more =>
              obtain ⟨left, hsecond, _⟩ := afterFirst_true_of_comprehend_cons hrest
              exact bind_eq_ok_iff.mpr ⟨some left, hsecond, rfl⟩

theorem quantified_of_quantify {quantifier : Quantifier} {list : Expr} {items : List Value}
    {verdict : Bool} (hlist : sub list context = .ok (.list items))
    (hverdict : quantify sub context quantifier binder predicate items = .ok verdict) :
    quantified sub context quantifier binder list predicate = .ok (.boolean verdict) := by
  refine source_bind_eq_ok_iff.mpr (.inr ⟨items, hlist, ?_⟩)
  exact bind_eq_ok_iff.mpr ⟨verdict, hverdict, rfl⟩

end Eval

namespace Engine

open Outcome

/-- Where the filtering comprehension is null, every quantifier over the same list is null.  Where
it is a list, its source is a list, and every quantifier is true or false as the lengths of the two
say: all elements are kept, some, none, or exactly one. -/
theorem evaluate_quantified_of_comprehension (engine : Engine) (context : Context)
    (binder : String) (list : Expr) (predicate : Option Expr) :
    (engine.evaluate (.comprehension binder list predicate none) context = .ok .null →
      ∀ quantifier, engine.evaluate (.quantified quantifier binder list predicate) context =
        .ok .null) ∧
    ∀ kept, engine.evaluate (.comprehension binder list predicate none) context =
        .ok (.list kept) →
      ∃ items, engine.evaluate list context = .ok (.list items) ∧
        ∀ quantifier, engine.evaluate (.quantified quantifier binder list predicate) context =
          .ok (.boolean (quantifier.verdict items.length kept.length)) := by
  constructor
  · intro hnull quantifier
    have hcomprehension := Eval.comprehension_eq_ok_iff.mp (leaving_eq_ok_iff.mp hnull)
    rcases hcomprehension with ⟨hlist, _⟩ | ⟨_, _, _, _, hvalue⟩
    · exact leaving_eq_ok_iff.mpr (bind_eq_ok_iff.mpr ⟨.null, hlist, rfl⟩)
    · cases hvalue
  · intro kept hkept
    have hcomprehension := Eval.comprehension_eq_ok_iff.mp (leaving_eq_ok_iff.mp hkept)
    rcases hcomprehension with ⟨_, hvalue⟩ | ⟨items, _, hlist, hfiltered, hvalue⟩
    · cases hvalue
    · cases hvalue
      have hsource := engine.eval_eq_ok_of_le (Nat.le_succ _) hlist
      refine ⟨items, hsource, fun quantifier => leaving_eq_ok_iff.mpr ?_⟩
      exact Eval.quantified_of_quantify hlist (Eval.quantify_of_comprehend quantifier hfiltered)

/-- The predicate `x > 2`. -/
def exceedsTwo : Expr := .binary .greater (.variable "x") (.literal (.integer 2))

def rowOfReadings : Context :=
  ⟨[("xs", .list [.integer 1, .integer 3, .null, .integer 5]), ("ys", .null)], [], []⟩

/-- Of the readings 1, 3, null and 5 two exceed 2: some do, but neither all, nor none, nor one.  Of
absent readings nothing is known. -/
theorem evaluate_quantified_exceedsTwo :
    standard.evaluate (.comprehension "x" (.variable "ys") (some exceedsTwo) none)
        rowOfReadings = .ok .null ∧
    standard.evaluate (.quantified .all "x" (.variable "ys") (some exceedsTwo))
        rowOfReadings = .ok .null ∧
    standard.evaluate (.comprehension "x" (.variable "xs") (some exceedsTwo) none)
        rowOfReadings = .ok (.list [.integer 3, .integer 5]) ∧
    standard.evaluate (.quantified .all "x" (.variable "xs") (some exceedsTwo))
        rowOfReadings = .ok (.boolean false) ∧
    standard.evaluate (.quantified .any "x" (.variable "xs") (some exceedsTwo))
        rowOfReadings = .ok (.boolean true) ∧
    standard.evaluate (.quantified .none "x" (.variable "xs") (some exceedsTwo))
        rowOfReadings = .ok (.boolean false) ∧
    standard.evaluate (.quantified .single "x" (.variable "xs") (some exceedsTwo))
        rowOfReadings = .ok (.boolean false) := by
  have hnull : standard.evaluate (.comprehension "x" (.variable "ys") (some exceedsTwo) none)
      rowOfReadings = .ok .null := rfl
  have hkept : standard.evaluate (.comprehension "x" (.variable "xs") (some exceedsTwo) none)
      rowOfReadings = .ok (.list [.integer 3, .integer 5]) := rfl
  have habsent := (standard.evaluate_quantified_of_comprehension rowOfReadings "x"
    (.variable "ys") (some exceedsTwo)).1 hnull
  obtain ⟨items, hitems, hverdict⟩ := (standard.evaluate_quantified_of_comprehension
    rowOfReadings "x" (.variable "xs") (some exceedsTwo)).2 _ hkept
  cases hitems
  exact ⟨hnull, habsent .all, hkept, hverdict .all, hverdict .any, hverdict .none,
    hverdict .single⟩

end Engine

end CypherExpr
