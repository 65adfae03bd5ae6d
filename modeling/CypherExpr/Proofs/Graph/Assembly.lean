import CypherExpr.Engine.Eval
import CypherExpr.Proofs.Evaluation.Outcomes
import CypherExpr.Proofs.Graph.Paths

/-!
# Paths are assembled from what their steps contribute

Every step of a chain contributes some elements, in the order of the chain: a node step its node, a
relationship step its relationship and the node it leads to, a segment all its elements.  A node
that stands before a segment is left to the segment.  A chain evaluates to a path exactly when the
contributions together are the elements of that path and it is connected, and to null exactly when
an expression that the walk along the chain comes to is null.
-/

namespace CypherExpr

namespace Eval

variable (sub : Evaluator) (context : Context)

/-- The first step of a chain contributes some elements and leaves the rest of the chain. -/
inductive Contributes : PathStep Expr → List (PathElement Value) → PathStep Expr → Prop
  | skipped {expr : Expr} {rest : PathStep Expr} (hrest : rest.isSegment = true) :
      Contributes (.node expr rest) [] rest
  | node {expr : Expr} {rest : PathStep Expr} {entity : Node Value}
      (hrest : rest.isSegment = false) (hnode : sub expr context = .ok (.node entity)) :
      Contributes (.node expr rest) [.node entity] rest
  | crossing {expr target : Expr} {rest : PathStep Expr} {crossed : Relationship Value}
      (hrest : rest.isSegment = true)
      (hcrossed : sub expr context = .ok (.relationship crossed)) :
      Contributes (.relationship expr (some target) rest) [.relationship crossed] rest
  | hop {expr target : Expr} {rest : PathStep Expr} {crossed : Relationship Value}
      {reached : Node Value} (hrest : rest.isSegment = false)
      (hcrossed : sub expr context = .ok (.relationship crossed))
      (hreached : sub target context = .ok (.node reached)) :
      Contributes (.relationship expr (some target) rest)
        [.relationship crossed, .node reached] rest
  | segment {name : String} {rest : PathStep Expr} {part : Path Value}
      (hpart : context.segment? name = some part) :
      Contributes (.segment name rest) part.elements rest

/-- What all steps of a chain contribute, one after the other. -/
inductive Contributions : PathStep Expr → List (List (PathElement Value)) → Prop
  | done : Contributions .done []
  | step {steps rest : PathStep Expr} {part : List (PathElement Value)}
      {parts : List (List (PathElement Value))} (hpart : Contributes sub context steps part rest)
      (hparts : Contributions rest parts) : Contributions steps (part :: parts)

/-- The expressions that the first step of a chain evaluates, the node that a relationship leads to
only after the relationship. -/
inductive Asks : PathStep Expr → Expr → Prop
  | node {expr : Expr} {rest : PathStep Expr} (hrest : rest.isSegment = false) :
      Asks (.node expr rest) expr
  | crossed {expr target : Expr} {rest : PathStep Expr} :
      Asks (.relationship expr (some target) rest) expr
  | reached {expr target : Expr} {rest : PathStep Expr} {crossed : Relationship Value}
      (hrest : rest.isSegment = false)
      (hcrossed : sub expr context = .ok (.relationship crossed)) :
      Asks (.relationship expr (some target) rest) target

/-- The expressions that the walk along a chain evaluates.  It goes on after a step that contributes
elements. -/
inductive Visits : PathStep Expr → Expr → Prop
  | here {steps : PathStep Expr} {expr : Expr} (hasks : Asks sub context steps expr) :
      Visits steps expr
  | later {steps rest : PathStep Expr} {part : List (PathElement Value)} {expr : Expr}
      (hpart : Contributes sub context steps part rest) (hvisits : Visits rest expr) :
      Visits steps expr

variable {sub context}

/-- What is demanded as a node is one, or null. -/
theorem nodeOf_eq_ok_iff {expr : Expr} (found : Option (Node Value)) :
    nodeOf sub context expr = .ok found ↔
      sub expr context = .ok (.ofOption (found.map .node)) := by
  rw [nodeOf]
  cases sub expr context with
  | error error => simp [Bind.bind, Except.bind]
  | ok value =>
      cases value <;> cases found <;>
        simp [Bind.bind, Except.bind, Pure.pure, Except.pure, Outcome.fail, Value.ofOption]

theorem relationshipOf_eq_ok_iff {expr : Expr} (found : Option (Relationship Value)) :
    relationshipOf sub context expr = .ok found ↔
      sub expr context = .ok (.ofOption (found.map .relationship)) := by
  rw [relationshipOf]
  cases sub expr context with
  | error error => simp [Bind.bind, Except.bind]
  | ok value =>
      cases value <;> cases found <;>
        simp [Bind.bind, Except.bind, Pure.pure, Except.pure, Outcome.fail, Value.ofOption]

variable {steps rest : PathStep Expr} {part : List (PathElement Value)}

theorem Contributes.sizeOf_lt (hpart : Contributes sub context steps part rest) :
    sizeOf rest < sizeOf steps := by
  cases hpart <;>
    simp only [PathStep.node.sizeOf_spec, PathStep.relationship.sizeOf_spec,
      PathStep.segment.sizeOf_spec] <;>
    omega

/-- A step that contributes puts its elements in front of those of the rest. -/
theorem Contributes.assemble_eq (hpart : Contributes sub context steps part rest) :
    assemble sub context steps = (assemble sub context rest).map (Option.map (part ++ ·)) := by
  cases hpart with
  | skipped hrest =>
      have hid : (Option.map (([] : List (PathElement Value)) ++ ·)) = id := by
        funext elements
        cases elements <;> rfl
      rw [assemble, if_pos hrest, hid]
      cases assemble sub context rest <;> rfl
  | node hrest hnode =>
      simp only [assemble, hrest, (nodeOf_eq_ok_iff (some _)).mpr hnode]
      cases assemble sub context rest <;> rfl
  | crossing hrest hcrossed =>
      simp only [assemble, hrest, (relationshipOf_eq_ok_iff (some _)).mpr hcrossed]
      cases assemble sub context rest <;> rfl
  | hop hrest hcrossed hreached =>
      simp only [assemble, hrest, (relationshipOf_eq_ok_iff (some _)).mpr hcrossed,
        (nodeOf_eq_ok_iff (some _)).mpr hreached]
      cases assemble sub context rest <;> rfl
  | segment hsegment =>
      simp only [assemble, hsegment]
      cases assemble sub context rest <;> rfl

/-- A null that the first step comes to ends the walk. -/
theorem Asks.assemble_eq {expr : Expr} (hasks : Asks sub context steps expr)
    (hnull : sub expr context = .ok .null) : assemble sub context steps = .ok none := by
  cases hasks with
  | node hrest =>
      simp only [assemble, hrest, (nodeOf_eq_ok_iff none).mpr hnull]
      rfl
  | crossed =>
      simp only [assemble, (relationshipOf_eq_ok_iff none).mpr hnull]
      rfl
  | reached hrest hcrossed =>
      simp only [assemble, hrest, (relationshipOf_eq_ok_iff (some _)).mpr hcrossed,
        (nodeOf_eq_ok_iff none).mpr hnull]
      rfl

/-- The first step contributes, asks for an expression that is null, or fails. -/
theorem assemble_step (hsteps : steps ≠ .done) :
    (∃ part rest, Contributes sub context steps part rest) ∨
      (∃ expr, Asks sub context steps expr ∧ sub expr context = .ok .null) ∨
        ∃ error, assemble sub context steps = .error error := by
  cases steps with
  | done => exact absurd rfl hsteps
  | node expr rest =>
      cases hrest : rest.isSegment with
      | true => exact .inl ⟨_, _, .skipped hrest⟩
      | false =>
          rcases hnode : nodeOf sub context expr with error | _ | entity
          · refine .inr (.inr ⟨error, ?_⟩)
            simp only [assemble, hrest, hnode]
            rfl
          · exact .inr (.inl ⟨expr, .node hrest, (nodeOf_eq_ok_iff none).mp hnode⟩)
          · exact .inl ⟨_, _, .node hrest ((nodeOf_eq_ok_iff (some _)).mp hnode)⟩
  | relationship expr target? rest =>
      cases target? with
      | none => exact .inr (.inr ⟨_, rfl⟩)
      | some target =>
          rcases hcrossed : relationshipOf sub context expr with error | _ | crossed
          · refine .inr (.inr ⟨error, ?_⟩)
            simp only [assemble, hcrossed]
            rfl
          · exact .inr (.inl ⟨expr, .crossed, (relationshipOf_eq_ok_iff none).mp hcrossed⟩)
          · have hvalue := (relationshipOf_eq_ok_iff (some _)).mp hcrossed
            cases hrest : rest.isSegment with
            | true => exact .inl ⟨_, _, .crossing hrest hvalue⟩
            | false =>
                rcases hreached : nodeOf sub context target with error | _ | reached
                · refine .inr (.inr ⟨error, ?_⟩)
                  simp only [assemble, hrest, hcrossed, hreached]
                  rfl
                · exact .inr (.inl
                    ⟨target, .reached hrest hvalue, (nodeOf_eq_ok_iff none).mp hreached⟩)
                · exact .inl ⟨_, _, .hop hrest hvalue ((nodeOf_eq_ok_iff (some _)).mp hreached)⟩
  | segment name rest =>
      cases hsegment : context.segment? name with
      | none =>
          refine .inr (.inr ⟨.ofCause (.unboundVariable name), ?_⟩)
          rw [assemble, hsegment]
          rfl
      | some part => exact .inl ⟨_, _, .segment hsegment⟩

/-- A chain is assembled from its contributions, is cut off at a null, or fails. -/
theorem assemble_cases (steps : PathStep Expr) :
    (∃ parts, Contributions sub context steps parts ∧
      assemble sub context steps = .ok (some parts.flatten)) ∨
      (∃ expr, Visits sub context steps expr ∧ sub expr context = .ok .null ∧
        assemble sub context steps = .ok none) ∨
      ∃ error, assemble sub context steps = .error error := by
  -- By recursion on the chain as the walk takes it: what is left after a step is shorter.
  by_cases hsteps : steps = .done
  · subst hsteps
    exact .inl ⟨[], .done, rfl⟩
  rcases assemble_step hsteps with ⟨part, rest, hpart⟩ | ⟨expr, hasks, hnull⟩ | hfails
  · rcases assemble_cases rest with ⟨parts, hparts, hrest⟩ | ⟨expr, hvisits, hnull, hrest⟩ |
      ⟨error, hrest⟩
    · exact .inl ⟨part :: parts, .step hpart hparts, by rw [hpart.assemble_eq, hrest]; rfl⟩
    · exact .inr (.inl ⟨expr, .later hpart hvisits, hnull, by rw [hpart.assemble_eq, hrest]; rfl⟩)
    · exact .inr (.inr ⟨error, by rw [hpart.assemble_eq, hrest]; rfl⟩)
  · exact .inr (.inl ⟨expr, .here hasks, hnull, hasks.assemble_eq hnull⟩)
  · exact .inr (.inr hfails)
termination_by sizeOf steps
decreasing_by exact hpart.sizeOf_lt

theorem assemble_eq_some_iff {elements : List (PathElement Value)} :
    assemble sub context steps = .ok (some elements) ↔
      ∃ parts, Contributions sub context steps parts ∧ elements = parts.flatten := by
  constructor
  · intro helements
    rcases assemble_cases steps with ⟨parts, hparts, heq⟩ | ⟨_, _, _, heq⟩ | ⟨_, heq⟩
    · rw [heq, Except.ok.injEq, Option.some.injEq] at helements
      exact ⟨parts, hparts, helements.symm⟩
    · cases heq.symm.trans helements
    · cases heq.symm.trans helements
  · rintro ⟨parts, hparts, rfl⟩
    induction hparts with
    | done => rfl
    | step hpart hparts ih =>
        rw [hpart.assemble_eq, ih]
        rfl

theorem assemble_eq_none_iff :
    assemble sub context steps = .ok none ↔
      ∃ expr, Visits sub context steps expr ∧ sub expr context = .ok .null := by
  constructor
  · intro hnone
    rcases assemble_cases steps with ⟨_, _, heq⟩ | ⟨expr, hvisits, hnull, _⟩ | ⟨_, heq⟩
    · cases heq.symm.trans hnone
    · exact ⟨expr, hvisits, hnull⟩
    · cases heq.symm.trans hnone
  · rintro ⟨expr, hvisits, hnull⟩
    induction hvisits with
    | here hasks => exact hasks.assemble_eq hnull
    | later hpart hvisits ih =>
        rw [hpart.assemble_eq, ih hnull]
        rfl

theorem path_eq_ok_iff {value : Value} :
    path sub context steps = .ok value ↔
      (assemble sub context steps = .ok none ∧ value = .null) ∨
        ∃ elements built, assemble sub context steps = .ok (some elements) ∧
          Path.ofElements elements = .ok built ∧ value = .path built := by
  rw [path]
  rcases assemble sub context steps with error | _ | elements
  · simp [Bind.bind, Except.bind]
  · simp [Bind.bind, Except.bind, Pure.pure, Except.pure, eq_comm]
  · cases elements with
    | nil => simp [Bind.bind, Except.bind, Outcome.fail, Path.ofElements]
    | cons first rest =>
        cases hbuilt : Path.ofElements (first :: rest) with
        | error defect => simp [Bind.bind, Except.bind, Outcome.fail, hbuilt]
        | ok built => simp [Bind.bind, Except.bind, Pure.pure, Except.pure, hbuilt, eq_comm]

end Eval

namespace Engine

/-- A chain of steps evaluates to a path exactly when the path is connected and its elements are
what the steps contribute, in their order, so that its nodes and its relationships are theirs; and
to null exactly when the walk along the chain comes to an expression that is null.  It has no other
values. -/
theorem evaluate_path_iff (engine : Engine) (steps : PathStep Expr) (context : Context) :
    (∀ built, engine.evaluate (.path steps) context = .ok (.path built) ↔
      built.Connected ∧ ∃ parts,
        Eval.Contributions (engine.eval engine.options.maxDepth) context steps parts ∧
          built.elements = parts.flatten ∧
          built.nodes = parts.flatMap (List.filterMap PathElement.node?) ∧
          built.relationships = parts.flatMap (List.filterMap PathElement.relationship?)) ∧
    (engine.evaluate (.path steps) context = .ok .null ↔
      ∃ expr, Eval.Visits (engine.eval engine.options.maxDepth) context steps expr ∧
        engine.eval engine.options.maxDepth expr context = .ok .null) ∧
    ∀ value, engine.evaluate (.path steps) context = .ok value →
      value = .null ∨ ∃ built, value = .path built := by
  have hvalue : ∀ value, engine.evaluate (.path steps) context = .ok value ↔
      Eval.path (engine.eval engine.options.maxDepth) context steps = .ok value :=
    fun _ => Outcome.leaving_eq_ok_iff
  refine ⟨fun built => ?_, ?_, fun value hok => ?_⟩
  · rw [hvalue, Eval.path_eq_ok_iff]
    constructor
    · rintro (⟨_, ⟨⟩⟩ | ⟨elements, built, hassemble, hbuilt, ⟨⟩⟩)
      obtain ⟨hconnected, rfl⟩ := Path.ofElements_eq_ok_iff.mp hbuilt
      obtain ⟨parts, hparts, hflatten⟩ := Eval.assemble_eq_some_iff.mp hassemble
      refine ⟨hconnected, parts, hparts, hflatten, ?_, ?_⟩
      · rw [Path.nodes_eq_filterMap, hflatten, List.filterMap_flatten, List.flatMap_def]
      · rw [Path.relationships_eq_filterMap, hflatten, List.filterMap_flatten, List.flatMap_def]
    · rintro ⟨hconnected, parts, hparts, hflatten, _, _⟩
      exact .inr ⟨built.elements, built, Eval.assemble_eq_some_iff.mpr ⟨parts, hparts, hflatten⟩,
        Path.ofElements_eq_ok_iff.mpr ⟨hconnected, rfl⟩, rfl⟩
  · rw [hvalue, Eval.path_eq_ok_iff]
    simp only [and_true, reduceCtorEq, and_false, exists_false, or_false, Eval.assemble_eq_none_iff]
  · rcases Eval.path_eq_ok_iff.mp ((hvalue value).mp hok) with ⟨_, rfl⟩ | ⟨_, built, _, _, rfl⟩
    · exact .inl rfl
    · exact .inr ⟨built, rfl⟩

def town (id : Int64) : Node Value := ⟨id, ["Town"], []⟩

def road (id source target : Int64) : Relationship Value := ⟨id, "ROAD", source, target, []⟩

/-- A row with a town, the road that leaves it, and a segment matched behind that road. -/
def rowOfJourney : Context :=
  ⟨[("a", .node (town 1)), ("r", .relationship (road 10 1 2))],
    [("s", ⟨town 2, [(road 20 3 2, town 3)]⟩)], []⟩

/-- The chain of the path `(a)-[r]-(b)-[s*]-()`, in which the segment `s` brings the node `b`. -/
def journey : PathStep Expr :=
  .node (.variable "a")
    (.relationship (.variable "r") (some (.variable "b")) (.segment "s" .done))

/-- The journey is put together from the row, where `b` is not bound. -/
theorem evaluate_journey :
    rowOfJourney.lookup "b" = none ∧
      standard.evaluate (.path journey) rowOfJourney =
        .ok (.path ⟨town 1, [(road 10 1 2, town 2), (road 20 3 2, town 3)]⟩) := by
  refine ⟨by decide, ((standard.evaluate_path_iff journey rowOfJourney).1 _).mpr ⟨?_, ?_⟩⟩
  · exact ⟨by decide, by decide, trivial⟩
  · have ha : Eval.Contributes (standard.eval 512) rowOfJourney journey [.node (town 1)] _ :=
      .node rfl rfl
    exact ⟨_, .step ha (.step (.crossing rfl rfl) (.step (.segment rfl) .done)), rfl, rfl, rfl⟩

end Engine

end CypherExpr
