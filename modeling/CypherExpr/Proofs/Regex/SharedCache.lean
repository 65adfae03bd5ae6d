import CypherExpr.Engine.Eval

/-!
# A shared cache of compiled patterns is transparent

A call that compiles a pattern looks it up in the cache, and if it is not there compiles it and
stores it.  The cache is held for the look-up and again for storing, but not in between, so the
steps of several calls may be mixed in any order.  Whatever the order, the cache stays within its
capacity, holds only what its patterns compile to, and no call can tell it from having no cache.
All this is so for any compiler that is a function of the pattern; that of regular expressions is
one.
-/

namespace CypherExpr

namespace PatternCache

/-- How far a call has come. -/
inductive Phase (Compiled : Type) where
  | waiting
  /-- The pattern was not found and has been compiled; it is stored in the next step. -/
  | compiled (compiled : Compiled)
  | returned (outcome : Result Compiled)

variable {Compiled : Type}

/-- The number of steps that a call still has to take, at most. -/
def Phase.stepsLeft : Phase Compiled → Nat
  | waiting => 2
  | compiled _ => 1
  | returned _ => 0

structure Call (Compiled : Type) where
  pattern : String
  phase : Phase Compiled

/-- The next step of a call, during which it holds the cache. -/
def Call.advance (compiler : String → Result Compiled) (call : Call Compiled)
    (cache : PatternCache Compiled) : PatternCache Compiled × Call Compiled :=
  match call.phase with
  | .waiting =>
      match cache.find? call.pattern with
      | some compiled => (cache, { call with phase := .returned (.ok compiled) })
      | none =>
          match compiler call.pattern with
          | .ok compiled => (cache, { call with phase := .compiled compiled })
          | .error cause => (cache, { call with phase := .returned (.error cause) })
  | .compiled compiled =>
      (cache.store call.pattern compiled, { call with phase := .returned (.ok compiled) })
  | .returned _ => (cache, call)

/-- A cache and the calls that share it. -/
structure Shared (Compiled : Type) where
  cache : PatternCache Compiled
  calls : List (Call Compiled)

namespace Shared

/-- An empty cache, and calls for some patterns none of which has begun. -/
def start (capacity : Nat) (patterns : List String) : Shared Compiled :=
  ⟨.empty capacity, patterns.map fun pattern => ⟨pattern, .waiting⟩⟩

/-- The call at an index takes its next step. -/
def step (compiler : String → Result Compiled) (shared : Shared Compiled) (index : Nat) :
    Shared Compiled :=
  match shared.calls[index]? with
  | some call =>
      let (cache, call) := call.advance compiler shared.cache
      ⟨cache, shared.calls.set index call⟩
  | none => shared

/-- Calls take steps in the order of a schedule. -/
def run (compiler : String → Result Compiled) (shared : Shared Compiled) (schedule : List Nat) :
    Shared Compiled :=
  schedule.foldl (step compiler) shared

variable {compiler : String → Result Compiled}

theorem run_append (shared : Shared Compiled) (before after : List Nat) :
    shared.run compiler (before ++ after) = (shared.run compiler before).run compiler after :=
  List.foldl_append

/-- A call that takes its steps without interruption does what `compile` does. -/
theorem run_uninterrupted {shared : Shared Compiled} {index : Nat} {pattern : String}
    (hcall : shared.calls[index]? = some ⟨pattern, .waiting⟩) :
    shared.run compiler [index, index] =
      ⟨(shared.cache.compile compiler pattern).2,
        shared.calls.set index ⟨pattern, .returned (shared.cache.compile compiler pattern).1⟩⟩ := by
  have hindex : index < shared.calls.length := (List.getElem?_eq_some_iff.mp hcall).1
  simp only [run, List.foldl_cons, List.foldl_nil, step, hcall, Call.advance, compile]
  cases shared.cache.find? pattern with
  | some compiled => simp [hindex]
  | none =>
      cases compiler pattern with
      | ok compiled => simp [hindex]
      | error cause => simp [hindex]

end Shared

/-! ## One step -/

/-- The cache is within its capacity and maps patterns, each at most once, to what they compile
to. -/
structure Sound (compiler : String → Result Compiled) (cache : PatternCache Compiled) : Prop where
  bounded : cache.size ≤ cache.capacity
  distinct : (cache.entries.map Prod.fst).Nodup
  faithful : ∀ entry ∈ cache.entries, compiler entry.1 = .ok entry.2

/-- A call that has compiled its pattern or has returned got what the pattern compiles to. -/
def Call.Sound (compiler : String → Result Compiled) (call : Call Compiled) : Prop :=
  match call.phase with
  | .waiting => True
  | .compiled compiled => compiler call.pattern = .ok compiled
  | .returned outcome => outcome = compiler call.pattern

section

variable {compiler : String → Result Compiled} {cache : PatternCache Compiled}

theorem sound_empty (compiler : String → Result Compiled) (capacity : Nat) :
    Sound compiler (empty capacity) :=
  ⟨Nat.zero_le capacity, List.nodup_nil, List.forall_mem_nil _⟩

theorem Sound.compile_of_find? (hsound : cache.Sound compiler) {pattern : String}
    {compiled : Compiled} (hfound : cache.find? pattern = some compiled) :
    compiler pattern = .ok compiled :=
  hsound.faithful (pattern, compiled) (Properties.mem_of_get? hfound)

theorem capacity_store (cache : PatternCache Compiled) (pattern : String) (compiled : Compiled) :
    (cache.store pattern compiled).capacity = cache.capacity := by
  unfold store
  split <;> rfl

/-- Where there is room for anything, storing leaves the new entry and some of the old ones of other
patterns, fewer than fit. -/
theorem store_entries (hcapacity : cache.capacity ≠ 0) (pattern : String) (compiled : Compiled) :
    ∃ kept, (cache.store pattern compiled).entries = (pattern, compiled) :: kept ∧
      kept.Sublist cache.entries ∧ pattern ∉ kept.map Prod.fst ∧ kept.length < cache.capacity := by
  unfold store
  rw [if_neg hcapacity]
  refine ⟨_, rfl, ?_, ?_, ?_⟩
  · split
    · exact List.nil_sublist _
    · exact List.filter_sublist
  · simp
  · refine Nat.lt_of_le_of_lt (List.length_filter_le _ _) ?_
    split
    · exact Nat.pos_of_ne_zero hcapacity
    · next hroom => exact Nat.lt_of_not_le hroom

theorem Sound.store (hsound : cache.Sound compiler) {pattern : String} {compiled : Compiled}
    (hcompile : compiler pattern = .ok compiled) :
    (cache.store pattern compiled).Sound compiler := by
  by_cases hcapacity : cache.capacity = 0
  · unfold PatternCache.store
    rw [if_pos hcapacity]
    exact hsound
  · obtain ⟨kept, hentries, hkept, hfresh, hroom⟩ := store_entries hcapacity pattern compiled
    constructor
    · rw [size, hentries, capacity_store, List.length_cons]
      exact hroom
    · rw [hentries, List.map_cons]
      exact List.nodup_cons.mpr ⟨hfresh, (hkept.map Prod.fst).nodup hsound.distinct⟩
    · rw [hentries]
      refine List.forall_mem_cons.mpr ⟨hcompile, fun entry hentry => ?_⟩
      exact hsound.faithful entry (hkept.subset hentry)

/-- What a step of a call does to the cache and the call, if these were as they should be. -/
theorem Call.Sound.advance {call : Call Compiled} (hcall : call.Sound compiler)
    (hcache : cache.Sound compiler) :
    (call.advance compiler cache).1.Sound compiler ∧
      (call.advance compiler cache).2.Sound compiler := by
  obtain ⟨pattern, phase⟩ := call
  cases phase with
  | waiting =>
      simp only [Call.advance]
      cases hfound : cache.find? pattern with
      | some compiled => exact ⟨hcache, (hcache.compile_of_find? hfound).symm⟩
      | none =>
          cases hcompile : compiler pattern with
          | ok compiled => exact ⟨hcache, hcompile⟩
          | error cause => exact ⟨hcache, hcompile.symm⟩
  | compiled compiled => exact ⟨hcache.store hcall, hcall.symm⟩
  | returned outcome => exact ⟨hcache, hcall⟩

theorem Call.capacity_advance (call : Call Compiled) (cache : PatternCache Compiled) :
    (call.advance compiler cache).1.capacity = cache.capacity := by
  unfold Call.advance
  split
  · split
    · rfl
    · split <;> rfl
  · exact capacity_store _ _ _
  · rfl

theorem Call.pattern_advance (call : Call Compiled) (cache : PatternCache Compiled) :
    (call.advance compiler cache).2.pattern = call.pattern := by
  unfold Call.advance
  split
  · split
    · rfl
    · split <;> rfl
  · rfl
  · rfl

theorem Call.stepsLeft_advance (call : Call Compiled) (cache : PatternCache Compiled) :
    (call.advance compiler cache).2.phase.stepsLeft ≤ call.phase.stepsLeft - 1 := by
  obtain ⟨pattern, phase⟩ := call
  cases phase with
  | waiting =>
      simp only [Call.advance]
      split
      · exact Nat.zero_le 1
      · split
        · exact Nat.le_refl 1
        · exact Nat.zero_le 1
  | compiled compiled => exact Nat.le_refl 0
  | returned outcome => exact Nat.le_refl 0

end

/-! ## Runs -/

namespace Shared

structure Sound (compiler : String → Result Compiled) (shared : Shared Compiled) : Prop where
  cache : shared.cache.Sound compiler
  calls : ∀ call ∈ shared.calls, call.Sound compiler

variable {compiler : String → Result Compiled} {shared : Shared Compiled}

theorem sound_start (compiler : String → Result Compiled) (capacity : Nat)
    (patterns : List String) : (start capacity patterns).Sound compiler :=
  ⟨sound_empty compiler capacity, List.forall_mem_map.mpr fun _ _ => trivial⟩

theorem Sound.step (hsound : shared.Sound compiler) (index : Nat) :
    (shared.step compiler index).Sound compiler := by
  unfold Shared.step
  split
  · next call hcall =>
    have hadvance := (hsound.calls call (List.mem_of_getElem? hcall)).advance hsound.cache
    refine ⟨hadvance.1, fun other hother => ?_⟩
    rcases List.mem_or_eq_of_mem_set hother with hold | rfl
    · exact hsound.calls other hold
    · exact hadvance.2
  · exact hsound

theorem Sound.run (hsound : shared.Sound compiler) (schedule : List Nat) :
    (shared.run compiler schedule).Sound compiler := by
  induction schedule generalizing shared with
  | nil => exact hsound
  | cons index rest ih => exact ih (hsound.step index)

theorem capacity_run (shared : Shared Compiled) (schedule : List Nat) :
    (shared.run compiler schedule).cache.capacity = shared.cache.capacity := by
  induction schedule generalizing shared with
  | nil => rfl
  | cons index rest ih =>
      refine (ih _).trans ?_
      unfold step
      split
      · exact Call.capacity_advance _ _
      · rfl

variable (compiler) in
/-- A step keeps the pattern of every call and brings the one that takes it nearer to its return. -/
theorem exists_call_step {place : Nat} {call : Call Compiled}
    (hcall : shared.calls[place]? = some call) (index : Nat) :
    ∃ later, (shared.step compiler index).calls[place]? = some later ∧
      later.pattern = call.pattern ∧
      later.phase.stepsLeft ≤ call.phase.stepsLeft - if index = place then 1 else 0 := by
  by_cases hplace : index = place
  · subst hplace
    rw [if_pos rfl]
    refine ⟨(call.advance compiler shared.cache).2, ?_, call.pattern_advance _,
      call.stepsLeft_advance _⟩
    unfold step
    rw [hcall]
    exact List.getElem?_set_self (List.getElem?_eq_some_iff.mp hcall).1
  · rw [if_neg hplace]
    refine ⟨call, ?_, rfl, Nat.le_refl _⟩
    unfold step
    split
    · exact (List.getElem?_set_ne hplace).trans hcall
    · exact hcall

variable (compiler) in
theorem exists_call_run {place : Nat} {call : Call Compiled}
    (hcall : shared.calls[place]? = some call) (schedule : List Nat) :
    ∃ later, (shared.run compiler schedule).calls[place]? = some later ∧
      later.pattern = call.pattern ∧
      later.phase.stepsLeft ≤ call.phase.stepsLeft - schedule.count place := by
  induction schedule generalizing shared call with
  | nil => exact ⟨call, hcall, rfl, Nat.le_refl _⟩
  | cons index rest ih =>
      obtain ⟨next, hnext, hpattern, hleft⟩ := exists_call_step compiler hcall index
      obtain ⟨later, hlater, hlaterPattern, hlaterLeft⟩ := ih hnext
      refine ⟨later, hlater, hlaterPattern.trans hpattern, ?_⟩
      simp only [List.count_cons, beq_iff_eq]
      omega

/-- A call returns nothing but what its pattern compiles to, and has returned after two steps. -/
theorem exists_call_of_pattern (compiler : String → Result Compiled) (capacity : Nat)
    {patterns : List String} (schedule : List Nat) {place : Nat} {pattern : String}
    (hpattern : patterns[place]? = some pattern) :
    ∃ call, ((start capacity patterns).run compiler schedule).calls[place]? = some call ∧
      call.pattern = pattern ∧
      (∀ outcome, call.phase = .returned outcome → outcome = compiler pattern) ∧
      (2 ≤ schedule.count place → call.phase = .returned (compiler pattern)) := by
  have hwaiting : (start capacity patterns : Shared Compiled).calls[place]? =
      some ⟨pattern, .waiting⟩ := by
    rw [start, List.getElem?_map, hpattern]
    rfl
  obtain ⟨⟨_, phase⟩, hcall, rfl, hleft⟩ := exists_call_run compiler hwaiting schedule
  have hphase := ((sound_start compiler capacity patterns).run schedule).calls _
    (List.mem_of_getElem? hcall)
  refine ⟨_, hcall, rfl, ?_, ?_⟩
  · rintro outcome rfl
    exact hphase
  · intro hcount
    have hdone : phase.stepsLeft ≤ 0 :=
      Nat.le_trans hleft (Nat.le_of_eq (Nat.sub_eq_zero_of_le hcount))
    cases phase with
    | waiting => cases hdone
    | compiled _ => cases hdone
    | returned outcome => exact congrArg Phase.returned hphase

/-- A call that has not begun makes no difference to the others. -/
theorem run_behind (call : Call Compiled) (shared : Shared Compiled) (schedule : List Nat) :
    run compiler ⟨shared.cache, call :: shared.calls⟩ (schedule.map (· + 1)) =
      ⟨(shared.run compiler schedule).cache, call :: (shared.run compiler schedule).calls⟩ := by
  induction schedule generalizing shared with
  | nil => rfl
  | cons index rest ih =>
      have hstep : step compiler ⟨shared.cache, call :: shared.calls⟩ (index + 1) =
          ⟨(shared.step compiler index).cache, call :: (shared.step compiler index).calls⟩ := by
        simp only [step, List.getElem?_cons_succ]
        cases shared.calls[index]? <;> rfl
      simp only [run, List.map_cons, List.foldl_cons, hstep]
      exact ih _

end Shared

/-- The cache has come about by calls whose steps were mixed in some order. -/
def Reached (compiler : String → Result Compiled) (cache : PatternCache Compiled) : Prop :=
  ∃ capacity patterns schedule,
    ((Shared.start capacity patterns).run compiler schedule).cache = cache

section

variable {compiler : String → Result Compiled} {cache : PatternCache Compiled}

theorem reached_empty (compiler : String → Result Compiled) (capacity : Nat) :
    Reached compiler (empty capacity) :=
  ⟨capacity, [], [], rfl⟩

/-- Calls of which each begins when the one before has returned are among those whose steps may be
mixed. -/
theorem Reached.compile (hreached : cache.Reached compiler) (pattern : String) :
    (cache.compile compiler pattern).2.Reached compiler := by
  obtain ⟨capacity, patterns, schedule, rfl⟩ := hreached
  refine ⟨capacity, pattern :: patterns, schedule.map (· + 1) ++ [0, 0], ?_⟩
  have hstart : Shared.start capacity (pattern :: patterns) =
      ⟨(Shared.start capacity patterns).cache,
        (⟨pattern, .waiting⟩ : Call Compiled) :: (Shared.start capacity patterns).calls⟩ := rfl
  rw [hstart, Shared.run_append, Shared.run_behind, Shared.run_uninterrupted rfl]

theorem Reached.sound (hreached : cache.Reached compiler) : cache.Sound compiler := by
  obtain ⟨capacity, patterns, schedule, rfl⟩ := hreached
  exact ((Shared.sound_start compiler capacity patterns).run schedule).cache

theorem Sound.compile_fst (hsound : cache.Sound compiler) (pattern : String) :
    (cache.compile compiler pattern).1 = compiler pattern := by
  unfold PatternCache.compile
  split
  · next hfound => exact (hsound.compile_of_find? hfound).symm
  · split
    · next hcompile => exact hcompile.symm
    · next hcompile => exact hcompile.symm

end

/-- Whatever is compiled, the capacity, the calls and the order of their steps, the cache stays
within its capacity and maps each of its patterns to what that compiles to, a call returns after two
steps at the latest and returns what its pattern compiles to, and so does a call that finds the
cache as it was left. -/
theorem run_faithful (compiler : String → Result Compiled) (capacity : Nat)
    (patterns : List String) (schedule : List Nat) :
    let shared := (Shared.start capacity patterns).run compiler schedule
    (shared.cache.size ≤ capacity ∧ (shared.cache.entries.map Prod.fst).Nodup ∧
        ∀ entry ∈ shared.cache.entries, compiler entry.1 = .ok entry.2) ∧
      (∀ place pattern, patterns[place]? = some pattern →
        ∃ call, shared.calls[place]? = some call ∧ call.pattern = pattern ∧
          (∀ outcome, call.phase = .returned outcome → outcome = compiler pattern) ∧
          (2 ≤ schedule.count place → call.phase = .returned (compiler pattern))) ∧
      (∀ pattern, (shared.cache.compile compiler pattern).1 = compiler pattern) := by
  intro shared
  have hsound : shared.Sound compiler :=
    (Shared.sound_start compiler capacity patterns).run schedule
  have hcapacity : shared.cache.capacity = capacity := Shared.capacity_run _ schedule
  exact ⟨⟨hcapacity ▸ hsound.cache.bounded, hsound.cache.distinct, hsound.cache.faithful⟩,
    fun _ _ hpattern => Shared.exists_call_of_pattern compiler capacity schedule hpattern,
    hsound.cache.compile_fst⟩

end PatternCache

/-! ## Matches that consult a cache -/

namespace StringPredicate

/-- A match that consults a sound cache has the same outcome as one that consults none. -/
theorem regexMatchCached_fst {cache : RegexCache} (hsound : cache.Sound Regex.compile)
    (left right : Value) : (regexMatchCached cache left right).1 = regexMatch left right := by
  unfold regexMatchCached
  split
  · next text pattern =>
    have hcompile : (cache.compile pattern).1 = Regex.compile pattern :=
      hsound.compile_fst pattern
    generalize cache.compile pattern = compiled at hcompile
    obtain ⟨outcome, after⟩ := compiled
    subst hcompile
    rfl
  · rfl

end StringPredicate

namespace Engine

/-- The evaluator that consults a cache for every `=~`: at each place, the one that it finds
there. -/
def evalConsulting (engine : Engine) (caches : Nat → Expr → Context → RegexCache) :
    Nat → Evaluator
  | 0, _, _ => Outcome.fail .recursionLimit
  | budget + 1, .binary .regexMatch left right, context =>
      Outcome.leaving (do
        let text ← engine.evalConsulting caches budget left context
        let pattern ← engine.evalConsulting caches budget right context
        let cache := caches budget (.binary .regexMatch left right) context
        Outcome.ofResult (StringPredicate.regexMatchCached cache text pattern).1)
        (.binary .regexMatch left right)
  | budget + 1, expr, context =>
      Eval.level (engine.evalConsulting caches budget) engine expr context

theorem evalConsulting_eq (engine : Engine) {caches : Nat → Expr → Context → RegexCache}
    (hcaches : ∀ budget expr context, (caches budget expr context).Sound Regex.compile)
    (budget : Nat) :
    engine.evalConsulting caches budget = engine.eval budget := by
  induction budget with
  | zero => rfl
  | succ budget ih =>
      funext expr context
      unfold evalConsulting
      split
      · next hzero => cases hzero
      · next hsucc =>
        cases hsucc
        rw [ih]
        simp only [StringPredicate.regexMatchCached_fst (hcaches _ _ _)]
        rfl
      · next hsucc _ =>
        cases hsucc
        rw [ih]
        rfl

end Engine

namespace RegexCache

open PatternCache (Shared)

/-- Whatever the capacity, the calls and the order of their steps, the cache stays within its
capacity and maps each of its patterns to what that compiles to, a call returns after two steps at
the latest and returns what its pattern compiles to, and so does a call that finds the cache as it
was left.  No `=~` depends on the cache that it consults, and neither does an evaluation whose every
`=~` consults one. -/
theorem run_transparent (capacity : Nat) (patterns : List String) (schedule : List Nat)
    (engine : Engine) (caches : Nat → Expr → Context → RegexCache)
    (hcaches : ∀ budget expr context, (caches budget expr context).Reached Regex.compile) :
    let shared := (Shared.start capacity patterns).run Regex.compile schedule
    (shared.cache.size ≤ capacity ∧ (shared.cache.entries.map Prod.fst).Nodup ∧
        ∀ entry ∈ shared.cache.entries, Regex.compile entry.1 = .ok entry.2) ∧
      (∀ place pattern, patterns[place]? = some pattern →
        ∃ call, shared.calls[place]? = some call ∧ call.pattern = pattern ∧
          (∀ outcome, call.phase = .returned outcome → outcome = Regex.compile pattern) ∧
          (2 ≤ schedule.count place → call.phase = .returned (Regex.compile pattern))) ∧
      (∀ pattern, (RegexCache.compile shared.cache pattern).1 = Regex.compile pattern) ∧
      (∀ left right, (StringPredicate.regexMatchCached shared.cache left right).1 =
        StringPredicate.regexMatch left right) ∧
      engine.evalConsulting caches = engine.eval := by
  intro shared
  have hcache : shared.cache.Sound Regex.compile :=
    ((Shared.sound_start Regex.compile capacity patterns).run schedule).cache
  have heval : engine.evalConsulting caches = engine.eval :=
    funext (engine.evalConsulting_eq fun _ _ _ => (hcaches _ _ _).sound)
  obtain ⟨hbounded, hcalls, hcompile⟩ :=
    PatternCache.run_faithful Regex.compile capacity patterns schedule
  exact ⟨hbounded, hcalls, hcompile, StringPredicate.regexMatchCached_fst hcache, heval⟩

/-- Two calls both miss `a` before either stores it, with a failing one between them, in a cache
with room for one pattern. -/
theorem run_transparent_two_misses :
    let shared := (Shared.start 1 ["a", "(", "a"]).run Regex.compile [0, 2, 1, 0, 1, 2]
    shared.cache.size ≤ 1 ∧
      (∃ call, shared.calls[1]? = some call ∧
        call.phase = .returned (.error (.invalidRegex "("))) ∧
      (∃ call, shared.calls[2]? = some call ∧ call.phase = .returned (Regex.compile "a")) ∧
      Engine.standard.evalConsulting (fun budget _ _ => ((empty budget).compile "a").2) =
        Engine.standard.eval := by
  obtain ⟨⟨hsize, -, -⟩, hcalls, -, -, heval⟩ :=
    run_transparent 1 ["a", "(", "a"] [0, 2, 1, 0, 1, 2] Engine.standard
      (fun budget _ _ => ((empty budget).compile "a").2)
      fun budget _ _ => (PatternCache.reached_empty Regex.compile budget).compile "a"
  obtain ⟨failing, hfailing, -, -, hfailed⟩ := hcalls 1 "(" rfl
  obtain ⟨last, hlast, -, -, hreturned⟩ := hcalls 2 "a" rfl
  have hinvalid : Regex.compile "(" = .error (.invalidRegex "(") := rfl
  rw [hinvalid] at hfailed
  exact ⟨hsize, ⟨failing, hfailing, hfailed (by decide)⟩, ⟨last, hlast, hreturned (by decide)⟩,
    heval⟩

end RegexCache

end CypherExpr
