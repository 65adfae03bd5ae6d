import CypherExpr.Proofs.Evaluation.Functions
import CypherExpr.Proofs.Evaluation.Level

/-!
# Marks of errors

An error that leaves evaluation is marked once, with the text of a subexpression, with one
exception.  Subscripts and maps hand on the errors of their parts as they are, and the depth limit
is reported before an expression is entered; so where evaluation descends through subscripts and
maps alone until the limit is exceeded, the error bears no mark.
-/

namespace CypherExpr

/-- The error is marked once, with the text of the expression or of one of its subexpressions. -/
def EvalError.MarkedWithin (expr : Expr) (error : EvalError) : Prop :=
  ∃ part cause, expr.Contains part ∧ error = .marked part.render (.ofCause cause)

theorem EvalError.MarkedWithin.of_part {expr between : Expr} {error : EvalError}
    (hmarked : error.MarkedWithin between) (hbetween : between ∈ expr.parts) :
    error.MarkedWithin expr := by
  obtain ⟨part, cause, hpart, rfl⟩ := hmarked
  exact ⟨part, cause, hpart.of_part hbetween, rfl⟩

/-- An error of the first outcome is marked within the expression, or not marked at all. -/
def OutcomeRelation.markedOrBare (expr : Expr) : OutcomeRelation where
  Holds left _ := ∀ error, left = .error error →
    error.MarkedWithin expr ∨ ∃ cause, error = .ofCause cause
  ok _ := nofun
  fail cause _ := by
    rintro error hfail
    cases hfail
    exact .inr ⟨cause, rfl⟩
  bind := by
    intro α β left right next next' hleft hnext
    cases left with
    | ok value => exact hnext value
    | error error =>
        intro raised hraised
        cases hraised
        exact hleft error rfl

/-- What leaves an expression is marked. -/
theorem OutcomeRelation.markedWithin_of_leaving {expr : Expr} {left right : Outcome Value}
    (hrelated : (markedOrBare expr).Holds left right) {error : EvalError}
    (herror : left.leaving expr = .error error) : error.MarkedWithin expr := by
  cases left with
  | ok value => cases herror
  | error raised =>
      cases herror
      rcases hrelated raised rfl with ⟨part, cause, hpart, rfl⟩ | ⟨cause, rfl⟩
      · exact ⟨part, cause, hpart, rfl⟩
      · exact ⟨expr, cause, .self expr, rfl⟩

theorem Outcome.leaving_ne_bare {α : Type} (outcome : Outcome α) (expr : Expr) (cause : Cause) :
    outcome.leaving expr ≠ .error (.ofCause cause) := by
  cases outcome with
  | ok value => simp [leaving]
  | error error => cases error <;> simp [leaving, EvalError.leaving]

namespace Engine

/-- Evaluation descends through subscripts and maps alone until the budget is spent: the part that
it goes into has siblings before it that have values. -/
inductive Exposed (engine : Engine) (context : Context) : Nat → Expr → Prop
  | spent (expr : Expr) : Exposed engine context 0 expr
  | container {budget : Nat} {container position : Expr}
      (hcontainer : Exposed engine context budget container) :
      Exposed engine context (budget + 1) (.index container position)
  | position {budget : Nat} {container position : Expr} {value : Value}
      (hvalue : engine.eval budget container context = .ok value)
      (hposition : Exposed engine context budget position) :
      Exposed engine context (budget + 1) (.index container position)
  | entry {budget : Nat} {before after : List (String × Expr)} {key : String} {expr : Expr}
      (hbefore : ∀ entry ∈ before, ∃ value, engine.eval budget entry.2 context = .ok value)
      (hexpr : Exposed engine context budget expr) :
      Exposed engine context (budget + 1) (.map (before ++ (key, expr) :: after))

/-- An error is marked within the expression, or not marked at all. -/
theorem eval_markedOrBare (engine : Engine)
    (hfunctions : ∀ name function, engine.registry.find? name = some function →
      function.Unmarked)
    (budget : Nat) (expr : Expr) (context : Context) :
    (OutcomeRelation.markedOrBare expr).Holds (engine.eval budget expr context)
      (engine.eval budget expr context) := by
  induction budget generalizing expr context with
  | zero =>
      rintro error herror
      cases herror
      exact .inr ⟨.recursionLimit, rfl⟩
  | succ budget ih =>
      have hparts : Eval.PartsRelated (.markedOrBare expr) (engine.eval budget)
          (engine.eval budget) id context context expr.scopedParts := by
        intro part hpart entries _ error herror
        refine (ih part.expr _ error herror).imp_left fun hmarked => ?_
        exact hmarked.of_part (Expr.mem_parts hpart)
      exact Eval.level_related_same (R := .markedOrBare expr)
        (fun name function values hfound error hrun =>
          .inr ((hfunctions name function hfound).eq_ofCause hrun))
        (fun _ _ hrelated _ herror =>
          .inl (OutcomeRelation.markedWithin_of_leaving hrelated herror))
        (fun _ => rfl) (fun _ _ => rfl) (fun _ _ => rfl) hparts

end Engine

/-- The first entry that fails decides the error of all. -/
theorem Eval.entries_eq_error_iff {sub : Evaluator} {context : Context}
    {properties : List (String × Expr)} {soFar : Properties Value} {error : EvalError} :
    entries sub context soFar properties = .error error ↔
      ∃ before key expr after, properties = before ++ (key, expr) :: after ∧
        (∀ entry ∈ before, ∃ value, sub entry.2 context = .ok value) ∧
        sub expr context = .error error := by
  induction properties generalizing soFar with
  | nil => simp [entries]
  | cons entry rest ih =>
      obtain ⟨key, expr⟩ := entry
      rw [entries]
      constructor
      · intro hentries
        cases hexpr : sub expr context with
        | error raised =>
            rw [hexpr] at hentries
            cases hentries
            exact ⟨[], key, expr, rest, rfl, List.forall_mem_nil _, hexpr⟩
        | ok value =>
            rw [hexpr] at hentries
            obtain ⟨before, other, failing, after, rfl, hbefore, hfailing⟩ := ih.mp hentries
            refine ⟨(key, expr) :: before, other, failing, after, rfl, ?_, hfailing⟩
            exact List.forall_mem_cons.mpr ⟨⟨value, hexpr⟩, hbefore⟩
      · rintro ⟨before, other, failing, after, hsplit, hbefore, hfailing⟩
        cases before with
        | nil =>
            cases hsplit
            rw [hfailing]
            rfl
        | cons first before =>
            cases hsplit
            obtain ⟨value, hexpr⟩ := hbefore (key, expr) List.mem_cons_self
            rw [hexpr]
            refine ih.mpr ⟨before, other, failing, after, rfl, ?_, hfailing⟩
            exact fun entry hentry => hbefore entry (List.mem_cons_of_mem _ hentry)

namespace Engine

/-- An error bears no mark exactly where evaluation descends through subscripts and maps alone until
the budget is spent. -/
theorem eval_eq_bare_iff (engine : Engine) {budget : Nat} {expr : Expr} {context : Context}
    {cause : Cause} :
    engine.eval budget expr context = .error (.ofCause cause) ↔
      cause = .recursionLimit ∧ engine.Exposed context budget expr := by
  induction budget generalizing expr with
  | zero =>
      constructor
      · rintro hlimit
        cases hlimit
        exact ⟨rfl, .spent expr⟩
      · rintro ⟨rfl, _⟩
        rfl
  | succ budget ih =>
      rw [eval]
      cases expr with
      | index container position =>
          simp only [Eval.level]
          constructor
          · intro hbare
            cases hcontainer : engine.eval budget container context with
            | error raised =>
                rw [hcontainer] at hbare
                cases hbare
                exact (ih.mp hcontainer).imp_right .container
            | ok value =>
                cases hposition : engine.eval budget position context with
                | error raised =>
                    rw [hcontainer, hposition] at hbare
                    cases hbare
                    exact (ih.mp hposition).imp_right (.position hcontainer)
                | ok key =>
                    rw [hcontainer, hposition] at hbare
                    exact absurd hbare (Outcome.leaving_ne_bare _ _ _)
          · rintro ⟨rfl, hexposed⟩
            cases hexposed with
            | container hcontainer =>
                rw [ih.mpr ⟨rfl, hcontainer⟩]
                rfl
            | position hvalue hposition =>
                rw [hvalue, ih.mpr ⟨rfl, hposition⟩]
                rfl
      | map properties =>
          have hlevel : Eval.level (engine.eval budget) engine (.map properties) context =
              .error (.ofCause cause) ↔
                Eval.entries (engine.eval budget) context [] properties =
                  .error (.ofCause cause) := by
            simp only [Eval.level]
            cases Eval.entries (engine.eval budget) context [] properties with
            | ok entries => exact ⟨nofun, nofun⟩
            | error raised => exact ⟨fun h => by cases h; rfl, fun h => by cases h; rfl⟩
          rw [hlevel, Eval.entries_eq_error_iff]
          constructor
          · rintro ⟨before, key, expr, after, rfl, hbefore, hexpr⟩
            exact (ih.mp hexpr).imp_right (.entry hbefore)
          · rintro ⟨rfl, hexposed⟩
            cases hexposed with
            | entry hbefore hexpr => exact ⟨_, _, _, _, rfl, hbefore, ih.mpr ⟨rfl, hexpr⟩⟩
      | literal | countRows | patternComprehension =>
          refine ⟨nofun, ?_⟩
          rintro ⟨_, hexposed⟩
          cases hexposed
      | _ =>
          refine ⟨fun hbare => absurd hbare (Outcome.leaving_ne_bare _ _ _), ?_⟩
          rintro ⟨_, hexposed⟩
          cases hexposed

/-- With the standard functions, evaluation marks each error once, with the text of a
subexpression, exactly where it is not exposed; and where it is, it fails for the depth limit
without a mark. -/
theorem evaluate_marks_errors_iff (engine : Engine)
    (hregistry : engine.registry = Standard.registry) (expr : Expr) (context : Context) :
    ((∀ error, engine.evaluate expr context = .error error → error.MarkedWithin expr) ↔
      ¬ engine.Exposed context (engine.options.maxDepth + 1) expr) ∧
    (engine.Exposed context (engine.options.maxDepth + 1) expr →
      engine.evaluate expr context = .error (.ofCause .recursionLimit)) := by
  have hexposed : engine.Exposed context (engine.options.maxDepth + 1) expr →
      engine.evaluate expr context = .error (.ofCause .recursionLimit) :=
    fun hexposed => engine.eval_eq_bare_iff.mpr ⟨rfl, hexposed⟩
  have hfunctions : ∀ name function, engine.registry.find? name = some function →
      function.Unmarked := by
    intro name function hfound
    rw [hregistry] at hfound
    exact Standard.unmarked_of_mem (Registry.mem_of_find?_ofFunctions hfound)
  refine ⟨⟨fun hmarked hbare => ?_, fun hbare error herror => ?_⟩, hexposed⟩
  · obtain ⟨part, cause, _, hcause⟩ := hmarked _ (hexposed hbare)
    cases hcause
  · rcases engine.eval_markedOrBare hfunctions _ expr context error herror with
      hmarked | ⟨cause, rfl⟩
    · exact hmarked
    · exact absurd (engine.eval_eq_bare_iff.mp herror).2 hbare

/-- The sum `1 + missing` fails, and the error is marked within it. -/
theorem evaluate_sum_marked :
    standard.registry = Standard.registry ∧
      ∃ error, standard.evaluate
          (.binary .add (.literal (.integer 1)) (.variable "missing")) .empty = .error error ∧
        error.MarkedWithin (.binary .add (.literal (.integer 1)) (.variable "missing")) := by
  have hiff := (standard.evaluate_marks_errors_iff rfl
    (.binary .add (.literal (.integer 1)) (.variable "missing")) .empty).1
  have hdescends : ¬ standard.Exposed .empty (standard.options.maxDepth + 1)
      (.binary .add (.literal (.integer 1)) (.variable "missing")) := by
    intro hexposed
    cases hexposed
  exact ⟨rfl, _, rfl, hiff.mpr hdescends _ rfl⟩

/-- The subscript `[1][0]` under a limit that stops short of its parts fails without a mark. -/
theorem evaluate_subscript_bare :
    (standard.withOptions ⟨0, 64⟩).evaluate
        (.index (.list [.literal (.integer 1)]) (.literal (.integer 0))) .empty =
      .error (.ofCause .recursionLimit) ∧
    ¬ (EvalError.ofCause .recursionLimit).MarkedWithin
        (.index (.list [.literal (.integer 1)]) (.literal (.integer 0))) := by
  refine ⟨rfl, ?_⟩
  rintro ⟨part, cause, _, hmarked⟩
  cases hmarked

end Engine

end CypherExpr
