import CypherExpr.Engine.Eval

/-!
# Patterns of one hop

A pattern of one hop evaluates to the list of all paths over one relationship of the graph that suit
it, in the order in which the relationships were added.  What suits a pattern is stated of the two
nodes and the relationship between them, apart from how the search goes about it: the search turns
the pattern into filters, asks the graph, and drops afterwards what disagrees with the variables
that are bound already.
-/

namespace CypherExpr

/-! ## Ways across the relationships of a graph -/

/-- A relationship crossed from one node to another. -/
structure Way where
  first : Node Value
  crossed : Relationship Value
  last : Node Value

def Way.path (way : Way) : Path Value := ⟨way.first, [(way.crossed, way.last)]⟩

def Way.between (start finish : NodeFilter) (way : Way) : Bool :=
  start.matches way.first && finish.matches way.last

namespace Graph

/-- Every relationship ends at nodes of the graph. -/
def Closed (graph : Graph) : Prop :=
  ∀ relationship ∈ graph.relationships,
    (∃ node ∈ graph.nodes, node.id = relationship.source) ∧
      ∃ node ∈ graph.nodes, node.id = relationship.target

/-- The ways across a relationship that a direction allows, between the first nodes that have the
ids of its ends.  A loop looks the same from both ends and is crossed once. -/
def waysAcross (graph : Graph) (direction : Direction) (relationship : Relationship Value) :
    List Way :=
  match graph.node? relationship.source, graph.node? relationship.target with
  | some source, some target =>
      let forward : Way := ⟨source, relationship, target⟩
      let backward : Way := ⟨target, relationship, source⟩
      match direction with
      | .outgoing => [forward]
      | .incoming => [backward]
      | .both =>
          if relationship.source = relationship.target then [forward] else [forward, backward]
  | _, _ => []

variable {graph : Graph}

theorem exists_node?_of_mem {id : Int64} (hid : ∃ node ∈ graph.nodes, node.id = id) :
    ∃ node, graph.node? id = some node := by
  obtain ⟨node, hnode, rfl⟩ := hid
  exact Option.isSome_iff_exists.mp (List.find?_isSome.mpr ⟨node, hnode, by simp⟩)

theorem id_of_node? {id : Int64} {node : Node Value} (hnode : graph.node? id = some node) :
    node.id = id := by
  simpa using List.find?_some hnode

/-- The ends of a relationship in a closed graph. -/
theorem Closed.ends (hclosed : graph.Closed) {relationship : Relationship Value}
    (hmem : relationship ∈ graph.relationships) :
    ∃ source target, graph.node? relationship.source = some source ∧
      graph.node? relationship.target = some target := by
  obtain ⟨hsource, htarget⟩ := hclosed relationship hmem
  obtain ⟨source, hsource⟩ := exists_node?_of_mem hsource
  obtain ⟨target, htarget⟩ := exists_node?_of_mem htarget
  exact ⟨source, target, hsource, htarget⟩

/-- No way across a relationship is taken twice. -/
theorem nodup_waysAcross (graph : Graph) (direction : Direction)
    (relationship : Relationship Value) : (graph.waysAcross direction relationship).Nodup := by
  rw [waysAcross]
  split
  · next source target hsource htarget =>
      cases direction with
      | outgoing => simp
      | incoming => simp
      | both =>
          by_cases hloop : relationship.source = relationship.target
          · simp [hloop]
          · have hne : source ≠ target := by
              rintro rfl
              exact hloop ((id_of_node? hsource).symm.trans (id_of_node? htarget))
            simp [hloop, hne]
  · exact List.nodup_nil

/-! ## The search -/

/-- Where both nodes are found, the search yields the path between them if they meet the
filters. -/
theorem hop_eq_ok (start finish : NodeFilter) (relationship : Relationship Value)
    {id other : Int64} {first last : Node Value} (hfirst : graph.node? id = some first)
    (hlast : graph.node? other = some last) (hconnects : relationship.connects id other = true) :
    graph.hop start finish relationship (id, other) =
      .ok (if start.matches first && finish.matches last then
        some (Way.path ⟨first, relationship, last⟩) else none) := by
  rw [← id_of_node? hfirst, ← id_of_node? hlast] at hconnects
  simp only [hop, hfirst, hlast]
  split
  · simp [Path.push, Path.single, Path.last, Path.lastOf, hconnects, Way.path]
  · rfl

theorem pathsOver_singleton (start finish : NodeFilter) (relationship : Relationship Value)
    {id other : Int64} {first last : Node Value} (hfirst : graph.node? id = some first)
    (hlast : graph.node? other = some last) (hconnects : relationship.connects id other = true) :
    graph.pathsOver start finish [(relationship, id, other)] =
      .ok (([⟨first, relationship, last⟩].filter (Way.between start finish)).map Way.path) := by
  rw [pathsOver, hop_eq_ok start finish relationship hfirst hlast hconnects]
  cases hmatch : start.matches first && finish.matches last <;>
    simp [pathsOver, Way.between, hmatch]

theorem pathsOver_append {start finish : NodeFilter}
    {left right : List (Relationship Value × Int64 × Int64)} {found others : List (Path Value)}
    (hleft : graph.pathsOver start finish left = .ok found)
    (hright : graph.pathsOver start finish right = .ok others) :
    graph.pathsOver start finish (left ++ right) = .ok (found ++ others) := by
  induction left generalizing found with
  | nil =>
      cases hleft
      exact hright
  | cons crossing rest ih =>
      obtain ⟨relationship, ends⟩ := crossing
      rw [List.cons_append, pathsOver]
      rw [pathsOver] at hleft
      cases hhop : graph.hop start finish relationship ends with
      | error error => simp [hhop] at hleft
      | ok path? =>
          cases hrest : graph.pathsOver start finish rest with
          | error error => simp [hhop, hrest] at hleft
          | ok paths =>
              simp only [hhop, hrest, Except.ok.injEq] at hleft
              simp only [ih hrest, ← hleft, List.append_assoc]

/-- Over one relationship the search yields the ways across it whose nodes meet the filters. -/
theorem pathsOver_orientations (hclosed : graph.Closed) (start finish : NodeFilter)
    (direction : Direction) {relationship : Relationship Value}
    (hmem : relationship ∈ graph.relationships) :
    graph.pathsOver start finish
        ((orientations direction relationship).map fun ends => (relationship, ends)) =
      .ok (((graph.waysAcross direction relationship).filter (Way.between start finish)).map
        Way.path) := by
  obtain ⟨source, target, hsource, htarget⟩ := hclosed.ends hmem
  have hforward := pathsOver_singleton start finish relationship hsource htarget
    (by simp [Relationship.connects])
  have hbackward := pathsOver_singleton start finish relationship htarget hsource
    (by simp [Relationship.connects])
  simp only [waysAcross, hsource, htarget]
  cases direction with
  | outgoing => exact hforward
  | incoming => exact hbackward
  | both =>
      by_cases hloop : relationship.source = relationship.target
      · simp only [orientations, if_pos hloop]
        exact hforward
      · have hboth := pathsOver_append hforward hbackward
        rw [← List.map_append, ← List.filter_append] at hboth
        simp only [orientations, if_neg hloop]
        exact hboth

theorem pathsOver_crossings (hclosed : graph.Closed) (start finish : NodeFilter)
    (filter : RelationshipFilter) (direction : Direction) :
    graph.pathsOver start finish (graph.crossings filter direction) =
      .ok ((((graph.relationships.filter filter.matches).flatMap
        (graph.waysAcross direction)).filter (Way.between start finish)).map Way.path) := by
  have hmem : ∀ relationship ∈ graph.relationships.filter filter.matches,
      relationship ∈ graph.relationships := fun _ h => (List.mem_filter.mp h).1
  rw [crossings]
  -- The induction keeps of the matching relationships only that the graph has them.
  generalize graph.relationships.filter filter.matches = matching at hmem
  induction matching with
  | nil => rfl
  | cons relationship rest ih =>
      obtain ⟨hfirst, hrest⟩ := List.forall_mem_cons.mp hmem
      simpa only [List.flatMap_cons, List.filter_append, List.map_append] using
        pathsOver_append (pathsOver_orientations hclosed start finish direction hfirst)
          (ih hrest)

theorem crossed_of_mem_waysAcross {direction : Direction} {relationship : Relationship Value}
    {way : Way} (hway : way ∈ graph.waysAcross direction relationship) :
    way.crossed = relationship := by
  rw [waysAcross] at hway
  split at hway
  · cases direction with
    | outgoing => rw [List.mem_singleton.mp hway]
    | incoming => rw [List.mem_singleton.mp hway]
    | both =>
        dsimp only at hway
        split at hway
        · rw [List.mem_singleton.mp hway]
        · rcases List.mem_cons.mp hway with rfl | hway
          · rfl
          · rw [List.mem_singleton.mp hway]
  · cases hway

theorem flatMap_waysAcross_filter (kept : Relationship Value → Bool) (direction : Direction)
    (relationships : List (Relationship Value)) :
    (relationships.filter kept).flatMap (graph.waysAcross direction) =
      (relationships.flatMap (graph.waysAcross direction)).filter fun way => kept way.crossed := by
  induction relationships with
  | nil => rfl
  | cons relationship rest ih =>
      have hcrossed : ∀ way ∈ graph.waysAcross direction relationship,
          kept way.crossed = kept relationship :=
        fun way hway => congrArg kept (crossed_of_mem_waysAcross hway)
      rw [List.flatMap_cons, List.filter_append, List.filter_congr hcrossed, ← ih]
      cases hkept : kept relationship with
      | true =>
          rw [List.filter_cons_of_pos hkept, List.flatMap_cons,
            List.filter_eq_self.mpr fun _ _ => rfl]
      | false => simp [hkept]

/-- A closed graph answers a request for one hop with the ways across its relationships that meet
the three filters. -/
theorem toPathSource_paths_one (hclosed : graph.Closed) (start : NodeFilter)
    (filter : RelationshipFilter) (finish : NodeFilter) (direction : Direction) :
    graph.toPathSource.paths start filter finish direction 1 1 =
      .ok (((graph.relationships.flatMap (graph.waysAcross direction)).filter fun way =>
        Way.between start finish way && filter.matches way.crossed).map Way.path) := by
  have hpaths := pathsOver_crossings hclosed start finish filter direction
  rw [flatMap_waysAcross_filter, List.filter_filter] at hpaths
  change (graph.paths start filter finish direction 1 1).mapError GraphError.message = _
  rw [paths, if_neg (by simp), hpaths]
  rfl

end Graph

/-! ## What suits a pattern -/

/-- Whether properties meet requirements, said key by key. -/
theorem propertiesMeet_iff {required : Properties Value} (hkeys : required.keys.Nodup)
    {actual : Properties Value} :
    propertiesMeet required actual = true ↔
      ∀ key expected, required.get? key = some expected → expected.isNull = false ∧
        ∃ held, actual.get? key = some held ∧ held.equals expected = true := by
  simp only [propertiesMeet, List.all_eq_true, Prod.forall, Properties.get?_eq_some_iff hkeys,
    Bool.and_eq_true, Bool.not_eq_true', Option.any_eq_true]

/-- A variable is bound to a value of one kind, if it is bound. -/
def Context.BindsOnly {α : Type} (context : Context) (kind : α → Value) (name? : Option String) :
    Prop :=
  ∀ value, name?.bind context.lookup = some value → ∃ entity, value = kind entity

namespace Eval

variable (sub : Evaluator) (context : Context)

/-- Properties have the values that the expressions of a pattern demand.  The last expression for a
key counts, and a null value demands what nothing has. -/
def Carries (required : List (String × Expr)) (actual : Properties Value) : Prop :=
  ∀ key expr, Properties.get? required.reverse key = some expr →
    ∃ value held, sub expr context = .ok value ∧ value.isNull = false ∧
      actual.get? key = some held ∧ held.equals value = true

/-- A node has the labels and the properties of a pattern, and the id of the node to which the
variable of the pattern is bound, if it is. -/
structure SuitsNode (pattern : NodePattern Expr) (node : Node Value) : Prop where
  labels : ∀ label ∈ pattern.labels, label ∈ node.labels
  properties : Carries sub context pattern.properties node.properties
  bound : ∀ bound, pattern.name?.bind context.lookup = some (.node bound) → bound.id = node.id

structure SuitsRelationship (pattern : RelationshipPattern Expr)
    (relationship : Relationship Value) : Prop where
  kind : pattern.kinds = [] ∨ relationship.kind ∈ pattern.kinds
  properties : Carries sub context pattern.properties relationship.properties
  bound : ∀ bound, pattern.name?.bind context.lookup = some (.relationship bound) →
    bound.id = relationship.id

/-- The relationship that a way crosses and the nodes at its ends suit the parts of a pattern. -/
structure Suits (start : NodePattern Expr) (hop : RelationshipPattern Expr)
    (finish : NodePattern Expr) (way : Way) : Prop where
  first : SuitsNode sub context start way.first
  crossed : SuitsRelationship sub context hop way.crossed
  last : SuitsNode sub context finish way.last

variable {sub context}

/-- Entries whose expressions have values are evaluated to a property list, in which the last
expression for a key gives its value. -/
theorem entries_eq_ok {properties : List (String × Expr)} (soFar : Properties Value)
    (hvalues : ∀ entry ∈ properties, ∃ value, sub entry.2 context = .ok value)
    (hkeys : soFar.keys.Nodup) :
    ∃ result, entries sub context soFar properties = .ok result ∧ result.keys.Nodup ∧
      ∀ key, result.get? key =
        match Properties.get? properties.reverse key with
        | some expr => (sub expr context).toOption
        | none => soFar.get? key := by
  induction properties generalizing soFar with
  | nil => exact ⟨soFar, rfl, hkeys, fun key => rfl⟩
  | cons entry rest ih =>
      obtain ⟨key, expr⟩ := entry
      obtain ⟨⟨value, hvalue⟩, hrest⟩ := List.forall_mem_cons.mp hvalues
      obtain ⟨result, hresult, hnodup, hget⟩ :=
        ih (soFar.set key value) hrest (Properties.nodup_keys_set hkeys key value)
      refine ⟨result, ?_, hnodup, fun other => ?_⟩
      · rw [entries, hvalue]
        exact hresult
      · rw [hget, List.reverse_cons, Properties.get?_append, Properties.get?_set,
          Properties.get?_cons]
        cases hlater : Properties.get? rest.reverse other with
        | some later => rfl
        | none =>
            by_cases hother : other = key
            · simp [hother, hvalue, Except.toOption]
            · simp [hother, Properties.get?]

/-- The property list of a pattern is met by the properties that carry what the pattern demands. -/
theorem entries_meet_iff {properties : List (String × Expr)}
    (hvalues : ∀ entry ∈ properties, ∃ value, sub entry.2 context = .ok value) :
    ∃ result, entries sub context [] properties = .ok result ∧
      ∀ actual, propertiesMeet result actual = true ↔ Carries sub context properties actual := by
  obtain ⟨result, hresult, hkeys, hget⟩ := entries_eq_ok [] hvalues List.nodup_nil
  refine ⟨result, hresult, fun actual => ?_⟩
  rw [propertiesMeet_iff hkeys, Carries]
  refine forall_congr' fun key => ?_
  cases hexpr : Properties.get? properties.reverse key with
  | none =>
      have hnone : result.get? key = none := by
        rw [hget, hexpr]
        rfl
      simp [hnone]
  | some expr =>
      obtain ⟨value, hvalue⟩ :=
        hvalues (key, expr) (List.mem_reverse.mp (Properties.mem_of_get? hexpr))
      simp [hget, hexpr, hvalue, Except.toOption]

/-- The endpoint of a variable admits the ids that agree with what the variable is bound to. -/
theorem endpoint_admits_iff {α : Type} {kind : α → Value} (id : α → Int64) (expected : String)
    (idOf : Value → Option Int64) {name? : Option String} (hbinds : context.BindsOnly kind name?)
    (hnull : ∀ entity, (kind entity).isNull = false)
    (hid : ∀ entity, idOf (kind entity) = some (id entity)) :
    ∃ endpoint, Eval.endpoint context expected idOf name? = .ok endpoint ∧ endpoint ≠ .null ∧
      ∀ other, endpoint.admits other = true ↔
        ∀ entity, name?.bind context.lookup = some (kind entity) → id entity = other := by
  cases hvalue : name?.bind context.lookup with
  | none => exact ⟨.free, by simp [endpoint, hvalue], nofun, fun other => by simp [Endpoint.admits]⟩
  | some value =>
      obtain ⟨bound, rfl⟩ := hbinds value hvalue
      refine ⟨.bound (id bound), by simp [endpoint, hvalue, hnull, hid], nofun, fun other => ?_⟩
      have hsame : ∀ entity, kind bound = kind entity → id bound = id entity := by
        intro entity heq
        exact Option.some.inj (by rw [← hid, heq, hid])
      simp only [Endpoint.admits, beq_iff_eq, Option.some.injEq]
      exact ⟨fun h entity heq => (hsame entity heq).symm.trans h, fun h => h bound rfl⟩

/-- What a node pattern asks of a node, as the search goes about it. -/
theorem suitsNode_iff {shape : NodePattern Expr}
    (hvalues : ∀ entry ∈ shape.properties, ∃ value, sub entry.2 context = .ok value)
    (hbinds : context.BindsOnly .node shape.name?) :
    ∃ bound filter, endpoint context "Node" nodeId? shape.name? = .ok bound ∧ bound ≠ .null ∧
      nodeFilter sub context shape = .ok filter ∧ ∀ node,
        SuitsNode sub context shape node ↔
          bound.admits node.id = true ∧ filter.matches node = true := by
  obtain ⟨bound, hbound, hnull, hadmits⟩ :=
    endpoint_admits_iff Node.id "Node" nodeId? hbinds (fun _ => rfl) (fun _ => rfl)
  obtain ⟨required, hrequired, hmeet⟩ := entries_meet_iff hvalues
  refine ⟨bound, ⟨shape.labels, required⟩, hbound, hnull, by rw [nodeFilter, hrequired]; rfl,
    fun node => ?_⟩
  simp only [NodeFilter.matches, Node.hasLabel, Bool.and_eq_true, List.all_eq_true,
    List.contains_iff_mem, hmeet, hadmits]
  exact ⟨fun h => ⟨h.bound, h.labels, h.properties⟩, fun h => ⟨h.2.1, h.2.2, h.1⟩⟩

/-- What a relationship pattern asks of a relationship, as the search goes about it. -/
theorem suitsRelationship_iff {shape : RelationshipPattern Expr}
    (hvalues : ∀ entry ∈ shape.properties, ∃ value, sub entry.2 context = .ok value)
    (hbinds : context.BindsOnly .relationship shape.name?) :
    ∃ bound filter, endpoint context "Relationship" relationshipId? shape.name? = .ok bound ∧
      bound ≠ .null ∧ relationshipFilter sub context shape = .ok filter ∧ ∀ relationship,
        SuitsRelationship sub context shape relationship ↔
          bound.admits relationship.id = true ∧ filter.matches relationship = true := by
  obtain ⟨bound, hbound, hnull, hadmits⟩ :=
    endpoint_admits_iff Relationship.id "Relationship" relationshipId? hbinds (fun _ => rfl)
      (fun _ => rfl)
  obtain ⟨required, hrequired, hmeet⟩ := entries_meet_iff hvalues
  refine ⟨bound, ⟨shape.kinds, required⟩, hbound, hnull,
    by rw [relationshipFilter, hrequired]; rfl, fun relationship => ?_⟩
  simp only [RelationshipFilter.matches, Bool.and_eq_true, Bool.or_eq_true, List.isEmpty_iff,
    List.contains_iff_mem, hmeet, hadmits]
  exact ⟨fun h => ⟨h.bound, h.kind, h.properties⟩, fun h => ⟨h.2.1, h.2.2, h.1⟩⟩

theorem agrees_path (start finish relationship : Endpoint) (way : Way) :
    agrees start finish relationship way.path =
      (start.admits way.first.id && finish.admits way.last.id &&
        relationship.admits way.crossed.id) := rfl

open Classical in
/-- Over a closed graph a pattern of one hop has the paths over all ways that suit it. -/
theorem oneHop_eq_ok {graph : Graph} (hclosed : graph.Closed) {start finish : NodePattern Expr}
    {hop : RelationshipPattern Expr}
    (hvalues : ∀ entry ∈ start.properties ++ hop.properties ++ finish.properties,
      ∃ value, sub entry.2 context = .ok value)
    (hstart : context.BindsOnly .node start.name?)
    (hhop : context.BindsOnly .relationship hop.name?)
    (hfinish : context.BindsOnly .node finish.name?) :
    oneHop sub graph.toPathSource context start hop finish =
      .ok (.list (((graph.relationships.flatMap (graph.waysAcross hop.direction)).filter
        fun way => Suits sub context start hop finish way).map fun way => .path way.path)) := by
  rw [List.forall_mem_append, List.forall_mem_append] at hvalues
  obtain ⟨⟨hstartValues, hhopValues⟩, hfinishValues⟩ := hvalues
  obtain ⟨startBound, startFilter, hstartBound, hstartNull, hstartFilter, hstartSuits⟩ :=
    suitsNode_iff hstartValues hstart
  obtain ⟨finishBound, finishFilter, hfinishBound, hfinishNull, hfinishFilter, hfinishSuits⟩ :=
    suitsNode_iff hfinishValues hfinish
  obtain ⟨hopBound, hopFilter, hhopBound, hhopNull, hhopFilter, hhopSuits⟩ :=
    suitsRelationship_iff hhopValues hhop
  -- The search looks at a way in three places: its ends as nodes, what it crosses, and at last the
  -- variables that are bound.
  have hsuits : ∀ way : Way,
      decide (Suits sub context start hop finish way) =
        (agrees startBound finishBound hopBound way.path &&
          (Way.between startFilter finishFilter way && hopFilter.matches way.crossed)) := by
    intro way
    have hparts : Suits sub context start hop finish way ↔ SuitsNode sub context start way.first ∧
        SuitsRelationship sub context hop way.crossed ∧ SuitsNode sub context finish way.last :=
      ⟨fun h => ⟨h.first, h.crossed, h.last⟩, fun h => ⟨h.1, h.2.1, h.2.2⟩⟩
    rw [Bool.eq_iff_iff, decide_eq_true_iff, hparts, hstartSuits, hhopSuits, hfinishSuits]
    simp only [agrees_path, Way.between, Bool.and_eq_true]
    grind
  simp only [oneHop, hstartBound, hfinishBound, hhopBound, Outcome.ofResult, Bind.bind, Except.bind,
    hstartNull, hfinishNull, hhopNull, or_self, if_false, hstartFilter, hhopFilter,
    hfinishFilter, Graph.toPathSource_paths_one hclosed]
  rw [List.filter_map, List.filter_filter, List.map_map, List.filter_congr fun way _ => hsuits way]
  rfl

end Eval

namespace Engine

open Classical in
/-- Over a closed graph, a pattern of one hop whose property expressions have values, and whose
variables are bound to entities of the right kind if at all, has the paths over the ways that suit
it and no others, in the order of the relationships.  Each way is there once. -/
theorem evaluate_oneHop (engine : Engine) {graph : Graph}
    (hgraph : engine.graph = some graph.toPathSource) (hclosed : graph.Closed) (context : Context)
    (start : NodePattern Expr) (hop : RelationshipPattern Expr) (finish : NodePattern Expr)
    (hsingle : hop.isSingleHop = true)
    (hvalues : ∀ entry ∈ start.properties ++ hop.properties ++ finish.properties,
      ∃ value, engine.eval engine.options.maxDepth entry.2 context = .ok value)
    (hstart : context.BindsOnly .node start.name?)
    (hhop : context.BindsOnly .relationship hop.name?)
    (hfinish : context.BindsOnly .node finish.name?) :
    engine.evaluate (.pattern ⟨start, [(hop, finish)]⟩) context =
      .ok (.list (((graph.relationships.flatMap (graph.waysAcross hop.direction)).filter
        fun way => Eval.Suits (engine.eval engine.options.maxDepth) context start hop finish
          way).map fun way => .path way.path)) ∧
    ∀ relationship, (graph.waysAcross hop.direction relationship).Nodup := by
  refine ⟨?_, graph.nodup_waysAcross hop.direction⟩
  have hfound := Eval.oneHop_eq_ok hclosed hvalues hstart hhop hfinish
  simp only [evaluate, eval, Eval.level, Eval.pattern, hsingle, if_true, hgraph, hfound,
    Outcome.leaving]

def alice : Node Value := ⟨1, ["Person"], [("name", .string "Alice")]⟩

def bob : Node Value := ⟨2, [], []⟩

def knows : Relationship Value := ⟨10, "KNOWS", 1, 2, [("since", .integer 2015)]⟩

def likes : Relationship Value := ⟨11, "LIKES", 1, 1, []⟩

/-- Two people, one of whom knows the other and likes herself. -/
def people : Graph := ⟨[alice, bob], [knows, likes]⟩

def rowOfAlice : Context := ⟨[("a", .node alice)], [], []⟩

/-- The part `(a:Person)` of a pattern. -/
def personA : NodePattern Expr := ⟨some "a", ["Person"], []⟩

/-- The part `[:KNOWS {since: 2015}]` of a pattern, in either direction. -/
def acquaintance : RelationshipPattern Expr :=
  ⟨none, ["KNOWS"], [("since", .literal (.integer 2015))], .both, none⟩

/-- The part `(b)` of a pattern. -/
def anyoneB : NodePattern Expr := ⟨some "b", [], []⟩

theorem closed_people : people.Closed := by
  have halice : ∃ node ∈ people.nodes, node.id = 1 := ⟨alice, by simp [people], rfl⟩
  have hbob : ∃ node ∈ people.nodes, node.id = 2 := ⟨bob, by simp [people], rfl⟩
  intro relationship hmem
  simp only [people, List.mem_cons, List.not_mem_nil, or_false] at hmem
  rcases hmem with rfl | rfl
  · exact ⟨halice, hbob⟩
  · exact ⟨halice, halice⟩

theorem suits_aliceKnowsBob (engine : Engine) (budget : Nat) :
    Eval.Suits (engine.eval (budget + 1)) rowOfAlice personA acquaintance anyoneB
      ⟨alice, knows, bob⟩ := by
  have halice : Eval.SuitsNode (engine.eval (budget + 1)) rowOfAlice personA alice := by
    refine ⟨by decide, nofun, ?_⟩
    rintro _ ⟨⟩
    rfl
  refine ⟨halice, ⟨.inr (by decide), fun key expr hexpr => ?_, nofun⟩, ⟨nofun, nofun, nofun⟩⟩
  obtain ⟨⟩ := List.mem_singleton.mp (Properties.mem_of_get? hexpr)
  exact ⟨.integer 2015, .integer 2015, rfl, rfl, rfl, rfl⟩

/-- With `a` bound to Alice, `(a:Person)-[:KNOWS {since: 2015}]-(b)` finds the one way from Alice to
Bob, not the way back and not the loop. -/
theorem evaluate_acquaintance_of_alice :
    (standard.withGraph people.toPathSource).evaluate
        (.pattern ⟨personA, [(acquaintance, anyoneB)]⟩) rowOfAlice =
      .ok (.list [.path ⟨alice, [(knows, bob)]⟩]) := by
  have halice : rowOfAlice.BindsOnly Value.node personA.name? := by
    rintro _ ⟨⟩
    exact ⟨alice, rfl⟩
  have hfound := evaluate_oneHop (standard.withGraph people.toPathSource) rfl closed_people
    rowOfAlice personA acquaintance anyoneB rfl
    (List.forall_mem_singleton.mpr ⟨.integer 2015, rfl⟩) halice nofun nofun
  have hways : people.relationships.flatMap (people.waysAcross acquaintance.direction) =
      [⟨alice, knows, bob⟩, ⟨bob, knows, alice⟩, ⟨alice, likes, alice⟩] := rfl
  have hdepth : (standard.withGraph people.toPathSource).options.maxDepth = 512 := rfl
  have hforward := suits_aliceKnowsBob (standard.withGraph people.toPathSource) 511
  have hback : ¬ Eval.Suits ((standard.withGraph people.toPathSource).eval 512) rowOfAlice personA
      acquaintance anyoneB ⟨bob, knows, alice⟩ :=
    fun hsuits => absurd (hsuits.first.bound alice rfl) (by decide)
  have hloop : ¬ Eval.Suits ((standard.withGraph people.toPathSource).eval 512) rowOfAlice personA
      acquaintance anyoneB ⟨alice, likes, alice⟩ :=
    fun hsuits => absurd hsuits.crossed.kind (by decide)
  rw [hfound.1, hways]
  simp [hdepth, hforward, hback, hloop, Way.path]

end Engine

end CypherExpr
