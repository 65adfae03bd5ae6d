import CypherExpr.Engine.Aggregate
import CypherExpr.Proofs.Evaluation.Outcomes
import CypherExpr.Proofs.Function.Extremes
import CypherExpr.Proofs.Value.Equality
import Mathlib.Data.List.Induction

/-!
# Columns without repetitions

A distinct aggregation compares the value on a row with the values that it has kept.  Since equality
of values is transitive, a value that equals one left out also equals the kept one for which that
was left out, so what is kept are the values that equal none before them at all.  A row that only
repeats a value therefore changes nothing.
-/

namespace CypherExpr

namespace Value

/-- The values that are equal to none of those before them, in order. -/
def firstOccurrences (values : List Value) : List Value :=
  (values.zipIdx.filter fun entry =>
    (values.take entry.2).all fun earlier => !earlier.equals entry.1).map Prod.fst

theorem firstOccurrences_concat (values : List Value) (value : Value) :
    firstOccurrences (values ++ [value]) =
      if values.any fun earlier => earlier.equals value then firstOccurrences values
      else firstOccurrences values ++ [value] := by
  have hold : ∀ entry ∈ values.zipIdx,
      (((values ++ [value]).take entry.2).all fun earlier => !earlier.equals entry.1) =
        (values.take entry.2).all fun earlier => !earlier.equals entry.1 := by
    intro entry hentry
    have hindex : entry.2 ≤ values.length := by
      have := List.mem_zipIdx hentry
      omega
    rw [List.take_append_of_le_length hindex]
  have hnew : (((values ++ [value]).take values.length).all fun earlier => !earlier.equals value) =
      !values.any fun earlier => earlier.equals value := by
    rw [List.take_left, List.not_any_eq_all_not]
  rw [firstOccurrences, firstOccurrences, List.zipIdx_append, List.filter_append,
    List.filter_congr hold, List.map_append, Nat.zero_add]
  simp only [List.zipIdx_singleton, List.filter_cons, hnew, List.filter_nil]
  cases values.any fun earlier => earlier.equals value with
  | false => rfl
  | true => exact List.append_nil _

/-- A value equals one of the first occurrences if it equals any of the values. -/
theorem any_firstOccurrences (values : List Value) (value : Value) :
    ((firstOccurrences values).any fun earlier => earlier.equals value) =
      values.any fun earlier => earlier.equals value := by
  induction values using List.reverseRecOn with
  | nil => rfl
  | append_singleton values last ih =>
      rw [firstOccurrences_concat]
      split
      · next hseen =>
        obtain ⟨earlier, hearlier, hlast⟩ := List.any_eq_true.mp hseen
        rw [ih, List.any_append, List.any_cons, List.any_nil, Bool.or_false]
        cases hvalue : last.equals value with
        | false => rw [Bool.or_false]
        | true =>
            rw [Bool.or_true]
            exact List.any_eq_true.mpr ⟨earlier, hearlier, equals_trans hlast hvalue⟩
      · rw [List.any_append, List.any_append, ih]

end Value

theorem Aggregate.count_eq_ok_iff {column : List Value} {size : Int64} :
    Aggregate.count [.list column] = .ok (.integer size) ↔
      size.toInt = (Aggregate.entriesOf column).length := by
  have hcolumn : Aggregate.column "count" [.list column] = .ok (Aggregate.entriesOf column) := rfl
  rw [Aggregate.count, hcolumn, Result.ok_bind, ← Checked.narrow_eq_some_iff]
  cases Checked.narrow (Aggregate.entriesOf column).length <;> simp

namespace Engine

open Value (firstOccurrences)

/-- The rows give these values of an expression. -/
def Yields (engine : Engine) (expr : Expr) (rows : List Context) (values : List Value) : Prop :=
  List.Forall₂ (fun row value => engine.evaluate expr row = .ok value) rows values

/-- The row gives a value of an expression that occurs among the given ones, as itself or as one
equal to it. -/
def Repeats (engine : Engine) (expr : Expr) (values : List Value) (row : Context) : Prop :=
  ∃ again, engine.evaluate expr row = .ok again ∧
    ∃ value ∈ values, again = value ∨ value.equals again = true

/-- What an aggregating function receives as its column. -/
def received (distinct : Bool) (values : List Value) : List Value :=
  if distinct then firstOccurrences values else values

/-- A call on a column, with the other arguments evaluated on the first row. -/
def callOn (engine : Engine) (function : Function) (others : List Expr) (rows : List Context)
    (column : List Value) : Outcome Value := do
  let extra ← Eval.all engine.evaluate (rows.head?.getD .empty) others
  function.run (.list column :: extra)

@[simp]
theorem callOn_nil (engine : Engine) (function : Function) (rows : List Context)
    (column : List Value) :
    engine.callOn function [] rows column = function.run [.list column] := rfl

section Column

variable {engine : Engine} {expr : Expr} {rows more : List Context} {values : List Value}

/-- One row keeps its value, unless that repeats a kept one and repetitions are left out. -/
theorem column_cons {row : Context} {value : Value} {kept : List Value} (distinct : Bool)
    (hvalue : engine.evaluate expr row = .ok value) :
    engine.column expr distinct kept (row :: rows) =
      engine.column expr distinct
        (if distinct && kept.any fun old => old.equals value then kept else kept ++ [value])
        rows := by
  rw [column, hvalue]
  change (if _ then _ else _) = _
  split <;> rfl

/-- After rows of known values a distinct column holds the first occurrences among all values so
far. -/
theorem column_distinct_append (seen : List Value) (more : List Context)
    (hvalues : engine.Yields expr rows values) :
    engine.column expr true (firstOccurrences seen) (rows ++ more) =
      engine.column expr true (firstOccurrences (seen ++ values)) more := by
  induction hvalues generalizing seen with
  | nil => rw [List.append_nil, List.nil_append]
  | @cons row value rows values hvalue _ ih =>
      have hkept : (if (firstOccurrences seen).any fun old => old.equals value
          then firstOccurrences seen else firstOccurrences seen ++ [value]) =
          firstOccurrences (seen ++ [value]) := by
        rw [Value.any_firstOccurrences, Value.firstOccurrences_concat]
      rw [List.cons_append, column_cons true hvalue, Bool.true_and, hkept, ih, List.append_assoc]
      rfl

theorem column_plain {kept : List Value} (hvalues : engine.Yields expr rows values) :
    engine.column expr false kept rows = .ok (kept ++ values) := by
  induction hvalues generalizing kept with
  | nil => rw [List.append_nil, column]
  | cons hvalue _ ih =>
      rw [column_cons false hvalue, Bool.false_and, if_neg Bool.false_ne_true, ih,
        List.append_assoc]
      rfl

theorem column_eq_received (distinct : Bool) (hvalues : engine.Yields expr rows values) :
    engine.column expr distinct [] rows = .ok (received distinct values) := by
  cases distinct with
  | false => exact column_plain hvalues
  | true =>
      have hcolumn := column_distinct_append [] [] hvalues
      rw [List.append_nil] at hcolumn
      exact hcolumn

/-- Rows whose values have been kept already leave a distinct column as it is. -/
theorem column_of_repeated {kept : List Value}
    (hmore : ∀ row ∈ more, ∃ again, engine.evaluate expr row = .ok again ∧
      (kept.any fun old => old.equals again) = true) :
    engine.column expr true kept more = .ok kept := by
  induction more with
  | nil => rfl
  | cons row more ih =>
      obtain ⟨⟨again, hagain, hkept⟩, hrest⟩ := List.forall_mem_cons.mp hmore
      rw [column_cons true hagain, Bool.true_and, if_pos hkept]
      exact ih hrest

theorem column_append_of_repeats (hvalues : engine.Yields expr rows values)
    (hnan : ∀ value ∈ values, value.NaNFree)
    (hmore : ∀ row ∈ more, engine.Repeats expr values row) :
    engine.column expr true [] (rows ++ more) = engine.column expr true [] rows := by
  rw [column_eq_received true hvalues]
  refine (column_distinct_append [] more hvalues).trans (column_of_repeated fun row hrow => ?_)
  obtain ⟨again, hagain, value, hvalue, hequals⟩ := hmore row hrow
  refine ⟨again, hagain, ?_⟩
  rw [List.nil_append, Value.any_firstOccurrences]
  refine List.any_eq_true.mpr ⟨value, hvalue, ?_⟩
  rcases hequals with rfl | hequals
  · exact Value.equals_self (hnan again hvalue)
  · exact hequals

theorem head?_append_of_repeats (hvalues : engine.Yields expr rows values)
    (hmore : ∀ row ∈ more, engine.Repeats expr values row) :
    (rows ++ more).head? = rows.head? := by
  cases hvalues with
  | nil =>
      cases more with
      | nil => rfl
      | cons row more =>
          obtain ⟨_, _, _, hvalue, _⟩ := hmore row List.mem_cons_self
          cases hvalue
  | cons => rfl

end Column

section Call

variable {engine : Engine} {expr : Expr} {rows : List Context} {values : List Value}

theorem aggregateCall_eq_callOn {name : String} {function : Function} (others : List Expr)
    (distinct : Bool) (hvalues : engine.Yields expr rows values)
    (hfound : engine.registry.find? name = some function)
    (haggregating : function.aggregating = true)
    (haccepts : function.accepts (others.length + 1) = true) :
    engine.aggregateCall name (expr :: others) distinct rows =
      engine.callOn function others rows (received distinct values) := by
  rw [aggregateCall, hfound]
  simp only [haggregating, List.length_cons, haccepts, column_eq_received distinct hvalues]
  rfl

theorem aggregate_collect (distinct : Bool) (hregistry : engine.registry = Standard.registry)
    (hvalues : engine.Yields expr rows values) :
    engine.aggregate (.call "collect" [expr] distinct) rows =
      .ok (.list (Aggregate.entriesOf (received distinct values))) := by
  have hfound : engine.registry.find? "collect" =
      some (.aggregate "collect" (.list .any) Aggregate.collect) := by
    rw [hregistry]
    rfl
  rw [aggregate_call, aggregateCall_eq_callOn [] distinct hvalues hfound rfl rfl]
  rfl

theorem aggregate_count_iff (distinct : Bool) (hregistry : engine.registry = Standard.registry)
    (hvalues : engine.Yields expr rows values) (size : Int64) :
    engine.aggregate (.call "count" [expr] distinct) rows = .ok (.integer size) ↔
      size.toInt = (Aggregate.entriesOf (received distinct values)).length := by
  have hfound : engine.registry.find? "count" =
      some (.aggregate "count" .integer Aggregate.count) := by
    rw [hregistry]
    rfl
  rw [aggregate_call, aggregateCall_eq_callOn [] distinct hvalues hfound rfl rfl, callOn_nil,
    Outcome.leaving_eq_ok_iff, Function.aggregate, Outcome.ofResult_eq_ok_iff,
    Aggregate.count_eq_ok_iff]

/-- A distinct aggregation receives the values that equal none on an earlier row.  The count of an
expression is the size of what collecting it gives, with repetitions and without them, and rows
that repeat values do not change a distinct aggregation. -/
theorem aggregate_distinct (hvalues : engine.Yields expr rows values) :
    (∀ name others distinct function, engine.registry.find? name = some function →
      function.aggregating = true → function.accepts (others.length + 1) = true →
      engine.aggregate (.call name (expr :: others) distinct) rows =
        (engine.callOn function others rows (received distinct values)).leaving
          (.call name (expr :: others) distinct)) ∧
    (engine.registry = Standard.registry → ∀ distinct, ∃ items,
      engine.aggregate (.call "collect" [expr] distinct) rows = .ok (.list items) ∧
      items = Aggregate.entriesOf (received distinct values) ∧
      ∀ size, engine.aggregate (.call "count" [expr] distinct) rows = .ok (.integer size) ↔
        size.toInt = items.length) ∧
    ((∀ value ∈ values, value.NaNFree) → ∀ more,
      (∀ row ∈ more, engine.Repeats expr values row) → ∀ name others,
      engine.aggregate (.call name (expr :: others) true) (rows ++ more) =
        engine.aggregate (.call name (expr :: others) true) rows) := by
  refine ⟨fun name others distinct function hfound haggregating haccepts => ?_,
    fun hregistry distinct => ⟨_, aggregate_collect distinct hregistry hvalues, rfl,
      aggregate_count_iff distinct hregistry hvalues⟩, fun hnan more hmore name others => ?_⟩
  · rw [aggregate_call,
      aggregateCall_eq_callOn others distinct hvalues hfound haggregating haccepts]
  · rw [aggregate_call, aggregate_call, aggregateCall, aggregateCall]
    simp only [column_append_of_repeats hvalues hnan hmore, head?_append_of_repeats hvalues hmore]

/-- Rows on which `x` is 1, null, `'a'`, 1 and null. -/
def repeatingValues : List Value := [.integer 1, .null, .string "a", .integer 1, .null]

def rowOf (value : Value) : Context := Context.empty.bind "x" value

theorem aggregate_distinct_repeatingValues :
    (standard.Yields (.variable "x") (repeatingValues.map rowOf) repeatingValues ∧
      (∀ value ∈ repeatingValues, value.NaNFree) ∧
      standard.Repeats (.variable "x") repeatingValues (rowOf (.string "a"))) ∧
    standard.aggregate (.call "collect" [.variable "x"] true) (repeatingValues.map rowOf) =
      .ok (.list [.integer 1, .string "a"]) ∧
    standard.aggregate (.call "count" [.variable "x"] true) (repeatingValues.map rowOf) =
      .ok (.integer 2) ∧
    standard.aggregate (.call "max" [.variable "x"] true)
        (repeatingValues.map rowOf ++ [rowOf (.string "a")]) =
      standard.aggregate (.call "max" [.variable "x"] true) (repeatingValues.map rowOf) := by
  have hvalues : standard.Yields (.variable "x") (repeatingValues.map rowOf) repeatingValues :=
    .cons rfl (.cons rfl (.cons rfl (.cons rfl (.cons rfl .nil))))
  have hnan : ∀ value ∈ repeatingValues, value.NaNFree := by
    simp only [repeatingValues, List.forall_mem_cons]
    refine ⟨?_, ?_, ?_, ?_, ?_, nofun⟩
    all_goals exact Value.throughout_of_parts_eq_nil rfl nofun
  have hrepeats : standard.Repeats (.variable "x") repeatingValues (rowOf (.string "a")) :=
    ⟨.string "a", rfl, .string "a", by simp [repeatingValues], .inl rfl⟩
  obtain ⟨_, hsizes, hmore⟩ := aggregate_distinct hvalues
  obtain ⟨items, hcollect, hitems, hcount⟩ := hsizes rfl true
  have hentries : items = [.integer 1, .string "a"] := hitems
  subst hentries
  exact ⟨⟨hvalues, hnan, hrepeats⟩, hcollect, (hcount 2).mpr rfl,
    hmore hnan _ (List.forall_mem_singleton.mpr hrepeats) "max" []⟩

end Call

end Engine

end CypherExpr
