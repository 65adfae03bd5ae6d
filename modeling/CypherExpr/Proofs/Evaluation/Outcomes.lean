import CypherExpr.Error

/-!
# Outcomes and what sequencing keeps of them

Laws of evaluation speak of one run, of what it ensures of the value it gives, or compare two runs,
of one expression in two contexts or under two limits, or of two expressions.  The latter share a
relation between outcomes that survives sequencing: it holds of equal values, and it holds of two
sequences when it holds of their first steps and of all that may follow.
-/

namespace CypherExpr

/-! ## The depth limit as a cause -/

namespace Result

variable {α β : Type}

theorem ok_bind (value : α) (next : α → Result β) :
    (.ok value : Result α) >>= next = next value := rfl

theorem bind_ne_limit {result : Result α} {next : α → Result β}
    (hresult : result ≠ .error .recursionLimit)
    (hnext : ∀ value, next value ≠ .error .recursionLimit) :
    result >>= next ≠ .error .recursionLimit := by
  cases result with
  | ok value => exact hnext value
  | error cause => simpa [Bind.bind, Except.bind] using hresult

theorem map_ne_limit {result : Result α} (hresult : result ≠ .error .recursionLimit)
    (f : α → β) : (result.map f : Result β) ≠ .error .recursionLimit := by
  cases result with
  | ok value => simp [Except.map]
  | error cause => simpa [Except.map] using hresult

theorem foldlM_ne_limit {step : β → α → Result β}
    (hstep : ∀ total item, step total item ≠ .error .recursionLimit) (items : List α)
    (total : β) : items.foldlM step total ≠ .error .recursionLimit := by
  induction items generalizing total with
  | nil => nofun
  | cons item rest ih =>
      rw [List.foldlM_cons]
      exact bind_ne_limit (hstep total item) ih

end Result

namespace Outcome

variable {α β : Type}

/-- The outcome is an error that the depth limit caused. -/
def HitsLimit : Outcome α → Prop
  | .ok _ => False
  | .error error => error.root = .recursionLimit

@[simp]
theorem not_hitsLimit_ok (value : α) : ¬ HitsLimit (.ok value : Outcome α) := id

@[simp]
theorem hitsLimit_error (error : EvalError) :
    HitsLimit (.error error : Outcome α) ↔ error.root = .recursionLimit := Iff.rfl

@[simp]
theorem hitsLimit_fail (cause : Cause) :
    HitsLimit (fail cause : Outcome α) ↔ cause = .recursionLimit := Iff.rfl

@[simp]
theorem hitsLimit_ofResult (result : Result α) :
    HitsLimit (ofResult result) ↔ result = .error .recursionLimit := by
  cases result <;> simp [ofResult, EvalError.root]

@[simp]
theorem hitsLimit_leaving (outcome : Outcome α) (expr : Expr) :
    HitsLimit (outcome.leaving expr) ↔ HitsLimit outcome := by
  cases outcome <;> simp [leaving]

theorem HitsLimit.bind {outcome : Outcome α} (hlimit : HitsLimit outcome)
    (next : α → Outcome β) : HitsLimit (outcome >>= next) := by
  cases outcome with
  | ok value => exact hlimit.elim
  | error error => exact hlimit

theorem ofResult_eq_ok_iff {result : Result α} {value : α} :
    ofResult result = .ok value ↔ result = .ok value := by
  cases result <;> simp [ofResult]

theorem bind_eq_ok_iff {outcome : Outcome α} {next : α → Outcome β} {value : β} :
    outcome >>= next = .ok value ↔ ∃ first, outcome = .ok first ∧ next first = .ok value := by
  cases outcome <;> simp [Bind.bind, Except.bind]

theorem leaving_eq_ok_iff {outcome : Outcome α} {expr : Expr} {value : α} :
    outcome.leaving expr = .ok value ↔ outcome = .ok value := by
  cases outcome <;> simp [leaving]

end Outcome

/-! ## Postconditions -/

/-- Whatever value the outcome has satisfies the postcondition. -/
def Ensures {ε α : Type} (outcome : Except ε α) (post : α → Prop) : Prop :=
  ∀ value, outcome = .ok value → post value

namespace Ensures

variable {ε α β : Type} {outcome : Except ε α} {post : α → Prop} {final : β → Prop}

theorem ok {value : α} (hvalue : post value) : Ensures (.ok value : Except ε α) post := by
  rintro _ ⟨⟩
  exact hvalue

theorem error (cause : ε) : Ensures (.error cause) post := nofun

theorem any (outcome : Except ε α) : Ensures outcome fun _ => True := fun _ _ => trivial

theorem bind {next : α → Except ε β} (houtcome : Ensures outcome post)
    (hnext : ∀ value, post value → Ensures (next value) final) :
    Ensures (outcome >>= next) final := by
  cases outcome with
  | ok value => exact hnext value (houtcome value rfl)
  | error cause => exact .error cause

theorem map {f : α → β} (houtcome : Ensures outcome post)
    (hvalues : ∀ value, post value → final (f value)) :
    Ensures (outcome.map f : Except ε β) final := by
  cases outcome with
  | ok value => exact .ok (hvalues value (houtcome value rfl))
  | error cause => exact .error cause

theorem mapError {ε' : Type} {f : ε → ε'} (houtcome : Ensures outcome post) :
    Ensures (outcome.mapError f) post := by
  cases outcome with
  | ok value => exact .ok (houtcome value rfl)
  | error cause => exact .error (f cause)

/-- A fold ensures what holds at first and is ensured by every step. -/
theorem foldlM {step : β → α → Except ε β} {items : List α} {total : β} (htotal : final total)
    (hstep : ∀ total, final total → ∀ item ∈ items, Ensures (step total item) final) :
    Ensures (items.foldlM step total) final := by
  induction items generalizing total with
  | nil => exact .ok htotal
  | cons item rest ih =>
      rw [List.foldlM_cons]
      refine .bind (hstep total htotal item List.mem_cons_self) fun next hnext => ?_
      exact ih hnext fun total htotal item hitem =>
        hstep total htotal item (List.mem_cons_of_mem _ hitem)

theorem fail (cause : Cause) : Ensures (Outcome.fail cause : Outcome α) post := .error _

theorem ofResult_iff {result : Result α} :
    Ensures (Outcome.ofResult result) post ↔ Ensures result post := by
  simp only [Ensures, Outcome.ofResult_eq_ok_iff]

theorem ofResult {result : Result α} (hresult : Ensures result post) :
    Ensures (Outcome.ofResult result) post := ofResult_iff.mpr hresult

theorem leaving {outcome : Outcome α} (houtcome : Ensures outcome post) (expr : Expr) :
    Ensures (outcome.leaving expr) post :=
  fun value hvalue => houtcome value (Outcome.leaving_eq_ok_iff.mp hvalue)

end Ensures

/-! ## Relations that sequencing respects -/

/-- A relation between outcomes that evaluation respects if its steps do. -/
structure OutcomeRelation where
  Holds : {α : Type} → Outcome α → Outcome α → Prop
  ok : ∀ {α : Type} (value : α), Holds (.ok value) (.ok value)
  /-- Two runs that fail alike are related, the depth limit apart. -/
  fail : ∀ {α : Type} (cause : Cause), cause ≠ .recursionLimit →
    Holds (Outcome.fail cause : Outcome α) (Outcome.fail cause)
  bind : ∀ {α β : Type} {left right : Outcome α} {next next' : α → Outcome β},
    Holds left right → (∀ value, Holds (next value) (next' value)) →
    Holds (left >>= next) (right >>= next')

namespace OutcomeRelation

variable (R : OutcomeRelation) {α β : Type}

theorem ofResult {result : Result α} (hresult : result ≠ .error .recursionLimit) :
    R.Holds (Outcome.ofResult result) (Outcome.ofResult result) := by
  cases result with
  | ok value => exact R.ok value
  | error cause => exact R.fail cause fun hcause => hresult (hcause ▸ rfl)

theorem map {left right : Outcome α} (hrelated : R.Holds left right) (f : α → β) :
    R.Holds (left.map f : Outcome β) (right.map f) := by
  have hbind : ∀ outcome : Outcome α,
      (outcome.map f : Outcome β) = outcome >>= fun value => .ok (f value) := by
    intro outcome
    cases outcome <;> rfl
  rw [hbind, hbind]
  exact R.bind hrelated fun value => R.ok (f value)

end OutcomeRelation

end CypherExpr
