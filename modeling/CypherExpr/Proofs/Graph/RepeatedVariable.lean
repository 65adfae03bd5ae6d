import CypherExpr.Proofs.Evaluation.Outcomes
import CypherExpr.Proofs.Graph.OneHop

/-!
# One variable at both ends of a pattern

The variables of a pattern are compared with the row and not with each other.  A variable that the
row binds keeps both ends to the node it is bound to, so a pattern that starts and ends with it
finds paths from that node to itself only.  A variable that the row does not bind keeps nothing, not
even where it stands twice: such a pattern finds what it would find without names.
-/

namespace CypherExpr

/-! ## The nodes at the ends of a path that a graph finds -/

namespace Graph

variable {graph : Graph} {start finish : NodeFilter}

/-- A node that the graph gives back for its own id. -/
def Holds (graph : Graph) (node : Node Value) : Prop := graph.node? node.id = some node

theorem Holds.eq_of_id_eq {left right : Node Value} (hleft : graph.Holds left)
    (hright : graph.Holds right) (hid : left.id = right.id) : left = right := by
  rw [Holds, hid, hright] at hleft
  exact (Option.some.inj hleft).symm

theorem holds_of_node? {id : Int64} {node : Node Value} (hnode : graph.node? id = some node) :
    graph.Holds node := by
  rw [Holds, id_of_node? hnode, hnode]

theorem holds_of_hop {relationship : Relationship Value} {ends : Int64 × Int64} {path : Path Value}
    (hhop : graph.hop start finish relationship ends = .ok (some path)) :
    graph.Holds path.start ∧ graph.Holds path.last := by
  rw [hop] at hhop
  split at hhop
  · next first last hfirst hlast =>
      split at hhop
      · split at hhop
        · next hpush =>
            cases hhop
            rw [Path.push] at hpush
            split at hpush
            · cases hpush
              exact ⟨holds_of_node? hfirst, holds_of_node? hlast⟩
            · cases hpush
        · cases hhop
      · cases hhop
  · cases hhop

theorem holds_of_mem_pathsOver {crossings : List (Relationship Value × Int64 × Int64)}
    {paths : List (Path Value)} (hpaths : graph.pathsOver start finish crossings = .ok paths)
    {path : Path Value} (hpath : path ∈ paths) :
    graph.Holds path.start ∧ graph.Holds path.last := by
  induction crossings generalizing paths with
  | nil =>
      cases hpaths
      cases hpath
  | cons crossing rest ih =>
      obtain ⟨relationship, ends⟩ := crossing
      rw [pathsOver] at hpaths
      cases hhop : graph.hop start finish relationship ends with
      | error error => simp [hhop] at hpaths
      | ok found =>
          cases hrest : graph.pathsOver start finish rest with
          | error error => simp [hhop, hrest] at hpaths
          | ok others =>
              simp only [hhop, hrest, Except.ok.injEq] at hpaths
              subst hpaths
              rcases List.mem_append.mp hpath with hfirst | hlater
              · rw [Option.mem_toList.mp hfirst] at hhop
                exact holds_of_hop hhop
              · exact ih hrest hlater

theorem holds_of_mem_paths {filter : RelationshipFilter} {direction : Direction}
    {least most : Nat} {paths : List (Path Value)}
    (hpaths : graph.toPathSource.paths start filter finish direction least most = .ok paths)
    {path : Path Value} (hpath : path ∈ paths) :
    graph.Holds path.start ∧ graph.Holds path.last := by
  change (graph.paths start filter finish direction least most).mapError _ = _ at hpaths
  rw [Graph.paths] at hpaths
  split at hpaths
  · cases hpaths
  · cases hover : graph.pathsOver start finish (graph.crossings filter direction) with
    | error error =>
        rw [hover] at hpaths
        cases hpaths
    | ok found =>
        rw [hover] at hpaths
        cases hpaths
        exact holds_of_mem_pathsOver hover hpath

end Graph

/-! ## One level of a pattern -/

/-- The pattern without its variable. -/
def NodePattern.anonymous (pattern : NodePattern Expr) : NodePattern Expr :=
  { pattern with name? := none }

namespace Eval

variable {sub : Evaluator} {graph : Graph} {context : Context} {start finish : NodePattern Expr}
  {hop : RelationshipPattern Expr} {name : String}

/-- What stands behind a list of paths: bindings that are not null, a request that the graph
answers, and of the answer what agrees with the bindings. -/
theorem exists_of_oneHop {source : PathSource} {found : List Value}
    (hfound : oneHop sub source context start hop finish = .ok (.list found)) :
    ∃ startBound finishBound hopBound startFilter hopFilter finishFilter paths,
      endpoint context "Node" nodeId? start.name? = .ok startBound ∧ startBound ≠ .null ∧
      endpoint context "Node" nodeId? finish.name? = .ok finishBound ∧ finishBound ≠ .null ∧
      source.paths startFilter hopFilter finishFilter hop.direction 1 1 = .ok paths ∧
      found = (paths.filter (agrees startBound finishBound hopBound)).map .path := by
  obtain ⟨startBound, hstart, hfound⟩ := Outcome.bind_eq_ok_iff.mp hfound
  obtain ⟨finishBound, hfinish, hfound⟩ := Outcome.bind_eq_ok_iff.mp hfound
  obtain ⟨hopBound, _, hfound⟩ := Outcome.bind_eq_ok_iff.mp hfound
  split at hfound
  · cases hfound
  · next hnull =>
      obtain ⟨startFilter, _, hfound⟩ := Outcome.bind_eq_ok_iff.mp hfound
      obtain ⟨hopFilter, _, hfound⟩ := Outcome.bind_eq_ok_iff.mp hfound
      obtain ⟨finishFilter, _, hfound⟩ := Outcome.bind_eq_ok_iff.mp hfound
      split at hfound
      · cases hfound
      · next paths hpaths =>
          cases hfound
          exact ⟨startBound, finishBound, hopBound, startFilter, hopFilter, finishFilter, paths,
            Outcome.ofResult_eq_ok_iff.mp hstart, fun h => hnull (.inl h),
            Outcome.ofResult_eq_ok_iff.mp hfinish, fun h => hnull (.inr (.inl h)), hpaths, rfl⟩

/-- A bound variable of a node pattern that is neither null nor refused is bound to a node. -/
theorem exists_node_of_endpoint {bound : Value} {endpoint : Endpoint}
    (hbound : context.lookup name = some bound)
    (hendpoint : Eval.endpoint context "Node" nodeId? (some name) = .ok endpoint)
    (hnull : endpoint ≠ .null) : ∃ node, bound = .node node ∧ endpoint = .bound node.id := by
  rw [Eval.endpoint, Option.bind_some, hbound] at hendpoint
  cases bound with
  | null =>
      cases hendpoint
      exact absurd rfl hnull
  | node node =>
      cases hendpoint
      exact ⟨node, rfl, rfl⟩
  | _ => cases hendpoint

/-- A bound variable at both ends keeps them to the node it is bound to. -/
theorem oneHop_of_bound (hstart : start.name? = some name) (hfinish : finish.name? = some name)
    {bound : Value} (hbound : context.lookup name = some bound) {found : List Value}
    (hfound : oneHop sub graph.toPathSource context start hop finish = .ok (.list found)) :
    ∃ node, bound = .node node ∧ ∀ value ∈ found, ∃ path,
      value = .path path ∧ path.start = path.last ∧ path.start.id = node.id := by
  obtain ⟨startBound, finishBound, hopBound, startFilter, hopFilter, finishFilter, paths,
    hstartBound, hstartNull, hfinishBound, hfinishNull, hpaths, rfl⟩ := exists_of_oneHop hfound
  rw [hstart] at hstartBound
  rw [hfinish, hstartBound] at hfinishBound
  cases hfinishBound
  obtain ⟨node, rfl, rfl⟩ := exists_node_of_endpoint hbound hstartBound hstartNull
  refine ⟨node, rfl, fun value hvalue => ?_⟩
  obtain ⟨path, hpath, rfl⟩ := List.mem_map.mp hvalue
  obtain ⟨hmem, hagrees⟩ := List.mem_filter.mp hpath
  simp only [agrees, Endpoint.admits, Bool.and_eq_true, beq_iff_eq] at hagrees
  obtain ⟨⟨hfirst, hlast⟩, -⟩ := hagrees
  obtain ⟨hholdsFirst, hholdsLast⟩ := Graph.holds_of_mem_paths hpaths hmem
  exact ⟨path, rfl, hholdsFirst.eq_of_id_eq hholdsLast (hfirst.symm.trans hlast), hfirst.symm⟩

/-- A variable that is not bound is as good as none. -/
theorem oneHop_of_unbound (hstart : start.name? = some name) (hfinish : finish.name? = some name)
    (hunbound : context.lookup name = none) (graph : PathSource) :
    oneHop sub graph context start hop finish =
      oneHop sub graph context start.anonymous hop finish.anonymous := by
  have hfree : ∀ named : NodePattern Expr, named.name? = some name →
      endpoint context "Node" nodeId? named.name? =
        endpoint context "Node" nodeId? named.anonymous.name? := by
    intro named hnamed
    rw [hnamed, endpoint, Option.bind_some, hunbound]
    rfl
  rw [oneHop, hfree start hstart, hfree finish hfinish]
  rfl

end Eval

namespace Engine

theorem evaluate_pattern_eq_ok_iff (engine : Engine) {source : PathSource}
    (hgraph : engine.graph = some source) {context : Context} {start finish : NodePattern Expr}
    {hop : RelationshipPattern Expr} {value : Value} :
    engine.evaluate (.pattern ⟨start, [(hop, finish)]⟩) context = .ok value ↔
      hop.isSingleHop = true ∧ Eval.oneHop (engine.eval engine.options.maxDepth) source context
        start hop finish = .ok value := by
  rw [evaluate, eval, Eval.level, Outcome.leaving_eq_ok_iff]
  simp only [Eval.pattern, hgraph]
  cases hop.isSingleHop <;> simp [Outcome.fail]

/-- In a pattern of one hop with one variable at both ends, a binding of the variable keeps every
path to the node that is bound, at its start and at its end.  Without a binding the variable keeps
nothing, and the pattern has the value that it has without names. -/
theorem evaluate_repeatedVariable (engine : Engine) {graph : Graph}
    (hgraph : engine.graph = some graph.toPathSource) (context : Context) {name : String}
    (start : NodePattern Expr) (hop : RelationshipPattern Expr) (finish : NodePattern Expr)
    (hstart : start.name? = some name) (hfinish : finish.name? = some name) :
    (∀ bound, context.lookup name = some bound → ∀ found,
      engine.evaluate (.pattern ⟨start, [(hop, finish)]⟩) context = .ok (.list found) →
      ∃ node, bound = .node node ∧ ∀ value ∈ found, ∃ path,
        value = .path path ∧ path.start = path.last ∧ path.start.id = node.id) ∧
    (context.lookup name = none → ∀ value,
      engine.evaluate (.pattern ⟨start, [(hop, finish)]⟩) context = .ok value ↔
        engine.evaluate (.pattern ⟨start.anonymous, [(hop, finish.anonymous)]⟩) context =
          .ok value) := by
  constructor
  · intro bound hbound found hfound
    exact Eval.oneHop_of_bound hstart hfinish hbound
      ((engine.evaluate_pattern_eq_ok_iff hgraph).mp hfound).2
  · intro hunbound value
    rw [engine.evaluate_pattern_eq_ok_iff hgraph, engine.evaluate_pattern_eq_ok_iff hgraph,
      Eval.oneHop_of_unbound hstart hfinish hunbound]

/-- The part `(a)` of a pattern. -/
def nodeA : NodePattern Expr := ⟨some "a", [], []⟩

/-- The part `-->` of a pattern. -/
def anyHop : RelationshipPattern Expr := ⟨none, [], [], .outgoing, none⟩

/-- With `a` bound to Alice, `(a)-->(a)` finds how she likes herself and not whom she knows.  The
loop starts and ends with her.  Without a binding it finds both, as `()-->()` does. -/
theorem evaluate_repeatedVariable_alice :
    (nodeA.name? = some "a" ∧ rowOfAlice.lookup "a" = some (.node alice) ∧
      (standard.withGraph people.toPathSource).evaluate
          (.pattern ⟨nodeA, [(anyHop, nodeA)]⟩) rowOfAlice =
        .ok (.list [.path ⟨alice, [(likes, alice)]⟩]) ∧
      Context.empty.lookup "a" = none ∧
      (standard.withGraph people.toPathSource).evaluate
          (.pattern ⟨nodeA.anonymous, [(anyHop, nodeA.anonymous)]⟩) .empty =
        .ok (.list [.path ⟨alice, [(knows, bob)]⟩, .path ⟨alice, [(likes, alice)]⟩])) ∧
    (∃ node, Value.node alice = .node node ∧
      ∀ value ∈ [Value.path ⟨alice, [(likes, alice)]⟩], ∃ path,
        value = .path path ∧ path.start = path.last ∧ path.start.id = node.id) ∧
    (standard.withGraph people.toPathSource).evaluate
        (.pattern ⟨nodeA, [(anyHop, nodeA)]⟩) .empty =
      .ok (.list [.path ⟨alice, [(knows, bob)]⟩, .path ⟨alice, [(likes, alice)]⟩]) := by
  have hloop : (standard.withGraph people.toPathSource).evaluate
      (.pattern ⟨nodeA, [(anyHop, nodeA)]⟩) rowOfAlice =
        .ok (.list [.path ⟨alice, [(likes, alice)]⟩]) := rfl
  have hnameless : (standard.withGraph people.toPathSource).evaluate
      (.pattern ⟨nodeA.anonymous, [(anyHop, nodeA.anonymous)]⟩) .empty =
        .ok (.list [.path ⟨alice, [(knows, bob)]⟩, .path ⟨alice, [(likes, alice)]⟩]) := rfl
  have hbound := evaluate_repeatedVariable (standard.withGraph people.toPathSource) rfl rowOfAlice
    nodeA anyHop nodeA rfl rfl
  have hunbound := evaluate_repeatedVariable (standard.withGraph people.toPathSource) rfl .empty
    nodeA anyHop nodeA rfl rfl
  exact ⟨⟨rfl, rfl, hloop, rfl, hnameless⟩, hbound.1 _ rfl _ hloop,
    (hunbound.2 rfl _).mpr hnameless⟩

/-- Where nothing is bound, `(a)-->(a)` finds a path from one node to another. -/
theorem evaluate_repeatedVariable_apart :
    ¬ ∀ found, (standard.withGraph people.toPathSource).evaluate
        (.pattern ⟨nodeA, [(anyHop, nodeA)]⟩) .empty = .ok (.list found) →
      ∀ value ∈ found, ∃ path, value = .path path ∧ path.start = path.last := by
  intro hsame
  obtain ⟨path, hpath, hends⟩ := hsame _ rfl (.path ⟨alice, [(knows, bob)]⟩) (.head _)
  cases hpath
  exact absurd (congrArg Node.id hends) (by decide)

end Engine

end CypherExpr
