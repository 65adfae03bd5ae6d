import CypherExpr.Proofs.Graph.OneHop
import CypherExpr.Proofs.Graph.Paths

/-!
# Requests in the other direction

A path can be walked backward.  A graph that is asked for the paths from one kind of node to another
along its relationships, and then for the paths back against them, gives the same paths reversed, in
the same order, or refuses both requests for the same reason.  A request in either direction gives
the paths of both, of which a loop makes only one.
-/

namespace CypherExpr

namespace Path

variable {α : Type}

/-- The path walked backward. -/
def reverse (path : Path α) : Path α :=
  ⟨path.last, (path.relationships.zip path.nodes).reverse⟩

/-- Whether the path crosses a relationship that leads back to where it comes from. -/
def crossesLoop (path : Path α) : Bool :=
  path.relationships.any fun relationship => relationship.source == relationship.target

end Path

namespace Graph

variable (graph : Graph) (start finish : NodeFilter)

/-! ## Crossings the other way -/

/-- A crossing the other way, with the filters exchanged, has the path of the crossing reversed. -/
theorem hop_swap {relationship : Relationship Value} {here there : Int64}
    (hconnects : relationship.connects here there = true) :
    graph.hop finish start relationship (there, here) =
      (graph.hop start finish relationship (here, there)).map (Option.map Path.reverse) := by
  have hback : relationship.connects there here = true := by
    rw [Relationship.connects] at hconnects ⊢
    rwa [Bool.or_comm]
  cases hfirst : graph.node? here with
  | none => cases hlast : graph.node? there <;> simp [hop, hfirst, hlast, Except.map]
  | some first =>
      cases hlast : graph.node? there with
      | none => simp [hop, hfirst, hlast, Except.map]
      | some last =>
          rw [hop_eq_ok start finish relationship hfirst hlast hconnects,
            hop_eq_ok finish start relationship hlast hfirst hback, Bool.and_comm]
          split <;> rfl

/-- Crossings the other way have the paths of the crossings reversed, in the same order. -/
theorem pathsOver_swap {crossings : List (Relationship Value × Int64 × Int64)}
    (hconnects : ∀ crossing ∈ crossings,
      crossing.1.connects crossing.2.1 crossing.2.2 = true) :
    graph.pathsOver finish start (crossings.map (Prod.map id Prod.swap)) =
      (graph.pathsOver start finish crossings).map (List.map Path.reverse) := by
  induction crossings with
  | nil => rfl
  | cons crossing rest ih =>
      obtain ⟨relationship, here, there⟩ := crossing
      obtain ⟨hfirst, hrest⟩ := List.forall_mem_cons.mp hconnects
      simp only [List.map_cons, Prod.map_apply, id_eq, Prod.swap_prod_mk, pathsOver, ih hrest,
        graph.hop_swap start finish hfirst]
      cases graph.hop start finish relationship (here, there) with
      | error error => rfl
      | ok found =>
          cases graph.pathsOver start finish rest with
          | error error => rfl
          | ok paths => cases found <;> rfl

theorem crossings_incoming (filter : RelationshipFilter) :
    graph.crossings filter .incoming =
      (graph.crossings filter .outgoing).map (Prod.map id Prod.swap) := by
  simp only [crossings, List.map_flatMap, orientations, List.map_cons, List.map_nil, Prod.map_apply,
    id_eq, Prod.swap_prod_mk]

theorem connects_of_mem_crossings {filter : RelationshipFilter}
    {crossing : Relationship Value × Int64 × Int64}
    (hcrossing : crossing ∈ graph.crossings filter .outgoing) :
    crossing.1.connects crossing.2.1 crossing.2.2 = true := by
  obtain ⟨relationship, _, hcrossing⟩ := List.mem_flatMap.mp hcrossing
  rw [orientations, List.map_singleton, List.mem_singleton] at hcrossing
  rw [hcrossing]
  simp [Relationship.connects]

/-! ## The three directions together -/

/-- Answers to a request in the three directions: all three fail alike, or the last has the paths of
the first and those of the second that cross no loop. -/
inductive DirectionsAgree :
    (outgoing incoming both : Except GraphError (List (Path Value))) → Prop
  | failed (error : GraphError) : DirectionsAgree (.error error) (.error error) (.error error)
  | found {outgoing incoming both : List (Path Value)}
      (hboth : both.Perm (outgoing ++ incoming.filter fun path => !path.crossesLoop)) :
      DirectionsAgree (.ok outgoing) (.ok incoming) (.ok both)

theorem pathsOver_append_eq (left right : List (Relationship Value × Int64 × Int64)) :
    graph.pathsOver start finish (left ++ right) =
      (graph.pathsOver start finish left).bind fun found =>
        (graph.pathsOver start finish right).map (found ++ ·) := by
  induction left with
  | nil =>
      cases hright : graph.pathsOver start finish right <;>
        simp [pathsOver, hright, Except.bind, Except.map]
  | cons crossing rest ih =>
      obtain ⟨relationship, ends⟩ := crossing
      rw [List.cons_append, pathsOver, pathsOver, ih]
      cases graph.hop start finish relationship ends with
      | error error => rfl
      | ok found =>
          cases graph.pathsOver start finish rest with
          | error error => rfl
          | ok paths =>
              cases graph.pathsOver start finish right with
              | error error => rfl
              | ok others => simp [Except.bind, Except.map]

theorem pathsOver_missing {relationship : Relationship Value} {here there : Int64}
    (hmissing : graph.node? here = none ∨ graph.node? there = none)
    (rest : List (Relationship Value × Int64 × Int64)) :
    graph.pathsOver start finish ((relationship, here, there) :: rest) =
      .error (.missingNode relationship.id) := by
  have hhop : graph.hop start finish relationship (here, there) =
      .error (.missingNode relationship.id) := by
    rcases hmissing with hnone | hnone
    · simp only [hop, hnone]
    · cases hfirst : graph.node? here <;> simp only [hop, hfirst, hnone]
  rw [pathsOver, hhop]

/-- Either all paths over one relationship cross a loop or none does. -/
theorem filter_crossesLoop {relationship : Relationship Value} {ways : List Way}
    (hways : ∀ way ∈ ways, way.crossed = relationship) :
    ((ways.map Way.path).filter fun path => !path.crossesLoop) =
      if relationship.source = relationship.target then [] else ways.map Way.path := by
  have hloop : ∀ path ∈ ways.map Way.path,
      path.crossesLoop = (relationship.source == relationship.target) := by
    intro path hpath
    obtain ⟨way, hway, rfl⟩ := List.mem_map.mp hpath
    simp [Path.crossesLoop, Path.relationships, Way.path, hways way hway]
  split
  · next heq =>
      apply List.filter_eq_nil_iff.mpr
      intro path hpath
      simp [hloop path hpath, heq]
  · next hne =>
      apply List.filter_eq_self.mpr
      intro path hpath
      simp [hloop path hpath, hne]

/-- The requests for the ways across one relationship. -/
theorem directionsAgree_across (relationship : Relationship Value) :
    let across (direction : Direction) := graph.pathsOver start finish
      ((orientations direction relationship).map fun ends => (relationship, ends))
    DirectionsAgree (across .outgoing) (across .incoming) (across .both) := by
  intro across
  by_cases hmissing : graph.node? relationship.source = none ∨
      graph.node? relationship.target = none
  · have hfails : ∀ direction, across direction = .error (.missingNode relationship.id) := by
      intro direction
      cases direction with
      | outgoing => exact graph.pathsOver_missing start finish hmissing []
      | incoming => exact graph.pathsOver_missing start finish hmissing.symm []
      | both =>
          simp only [across, orientations]
          split <;> exact graph.pathsOver_missing start finish hmissing _
    rw [hfails, hfails, hfails]
    exact .failed _
  · obtain ⟨hsource, htarget⟩ := not_or.mp hmissing
    obtain ⟨source, hsource⟩ := Option.ne_none_iff_exists'.mp hsource
    obtain ⟨target, htarget⟩ := Option.ne_none_iff_exists'.mp htarget
    have hforward : across .outgoing = _ := pathsOver_singleton start finish relationship hsource
      htarget (by simp [Relationship.connects])
    have hbackward : across .incoming = _ := pathsOver_singleton start finish relationship htarget
      hsource (by simp [Relationship.connects])
    have hcrossed : ∀ way ∈ [Way.mk target relationship source].filter (Way.between start finish),
        way.crossed = relationship := by
      intro way hway
      rw [List.mem_singleton.mp (List.mem_filter.mp hway).1]
    rw [hforward, hbackward]
    by_cases hloop : relationship.source = relationship.target
    · have hboth : across .both = across .outgoing := by
        simp only [across, orientations, if_pos hloop]
      rw [hboth, hforward]
      refine .found (.of_eq ?_)
      rw [filter_crossesLoop hcrossed, if_pos hloop, List.append_nil]
    · have hboth : across .both = graph.pathsOver start finish
          ((orientations .outgoing relationship).map (fun ends => (relationship, ends)) ++
            (orientations .incoming relationship).map fun ends => (relationship, ends)) := by
        simp only [across, orientations, if_neg hloop]
        rfl
      rw [hboth, pathsOver_append hforward hbackward]
      refine .found (.of_eq ?_)
      rw [filter_crossesLoop hcrossed, if_neg hloop]

variable {graph start finish} in
/-- One request and then another. -/
theorem DirectionsAgree.bind {outgoing incoming both : Except GraphError (List (Path Value))}
    {outgoing' incoming' both' : Except GraphError (List (Path Value))}
    (hfirst : DirectionsAgree outgoing incoming both)
    (hsecond : DirectionsAgree outgoing' incoming' both') :
    DirectionsAgree (outgoing.bind fun found => outgoing'.map (found ++ ·))
      (incoming.bind fun found => incoming'.map (found ++ ·))
      (both.bind fun found => both'.map (found ++ ·)) := by
  cases hfirst with
  | failed error => exact .failed error
  | found hboth =>
      cases hsecond with
      | failed error => exact .failed error
      | @found outgoing' incoming' both' hboth' =>
          refine .found ((hboth.append hboth').trans ?_)
          rw [List.filter_append, List.append_assoc, List.append_assoc]
          refine .append_left _ ?_
          rw [← List.append_assoc, ← List.append_assoc]
          exact List.perm_append_comm.append_right _

theorem directionsAgree_crossings (filter : RelationshipFilter) :
    DirectionsAgree (graph.pathsOver start finish (graph.crossings filter .outgoing))
      (graph.pathsOver start finish (graph.crossings filter .incoming))
      (graph.pathsOver start finish (graph.crossings filter .both)) := by
  simp only [crossings]
  generalize graph.relationships.filter filter.matches = matching
  induction matching with
  | nil => exact .found .nil
  | cons relationship rest ih =>
      simp only [List.flatMap_cons, pathsOver_append_eq]
      exact (graph.directionsAgree_across start finish relationship).bind ih

theorem paths_one (filter : RelationshipFilter) (direction : Direction) :
    graph.paths start filter finish direction 1 1 =
      graph.pathsOver start finish (graph.crossings filter direction) :=
  if_neg (by simp)

/-- A request against the relationships, with the filters of the ends exchanged, is refused as the
request along them is, or gives its paths reversed in the same order.  A request in either direction
is refused as the one along the relationships is, or gives, in some order, what the other two give,
with the loops of one of them only. -/
theorem paths_direction_symmetric (filter : RelationshipFilter) :
    graph.paths finish filter start .incoming 1 1 =
        (graph.paths start filter finish .outgoing 1 1).map (List.map Path.reverse) ∧
    (∀ error, graph.paths start filter finish .both 1 1 = .error error ↔
      graph.paths start filter finish .outgoing 1 1 = .error error) ∧
    ∀ both, graph.paths start filter finish .both 1 1 = .ok both →
      ∃ outgoing incoming, graph.paths start filter finish .outgoing 1 1 = .ok outgoing ∧
        graph.paths start filter finish .incoming 1 1 = .ok incoming ∧
        both.Perm (outgoing ++ incoming.filter fun path => !path.crossesLoop) := by
  simp only [paths_one]
  refine ⟨?_, ?_⟩
  · rw [crossings_incoming]
    exact graph.pathsOver_swap start finish fun _ => graph.connects_of_mem_crossings
  · have hagree := graph.directionsAgree_crossings start finish filter
    generalize graph.pathsOver start finish (graph.crossings filter .outgoing) = outgoing,
      graph.pathsOver start finish (graph.crossings filter .incoming) = incoming,
      graph.pathsOver start finish (graph.crossings filter .both) = both at hagree ⊢
    cases hagree with
    | failed error => exact ⟨fun _ => Iff.rfl, nofun⟩
    | found hboth =>
        refine ⟨fun _ => ⟨nofun, nofun⟩, ?_⟩
        rintro _ ⟨⟩
        exact ⟨_, _, rfl, rfl, hboth⟩

open Engine (alice bob knows likes people)

/-- Either way, Alice and Bob are joined there and back, and Alice to herself once.  Along the
relationships and against them there are two paths each, of which the two loops are the same. -/
theorem paths_direction_symmetric_people :
    people.paths ⟨[], []⟩ ⟨[], []⟩ ⟨[], []⟩ .both 1 1 =
      .ok [⟨alice, [(knows, bob)]⟩, ⟨bob, [(knows, alice)]⟩, ⟨alice, [(likes, alice)]⟩] ∧
    people.paths ⟨[], []⟩ ⟨[], []⟩ ⟨[], []⟩ .incoming 1 1 =
      .ok [⟨bob, [(knows, alice)]⟩, ⟨alice, [(likes, alice)]⟩] ∧
    ∃ outgoing incoming, people.paths ⟨[], []⟩ ⟨[], []⟩ ⟨[], []⟩ .outgoing 1 1 = .ok outgoing ∧
      people.paths ⟨[], []⟩ ⟨[], []⟩ ⟨[], []⟩ .incoming 1 1 = .ok incoming ∧
      [Path.mk alice [(knows, bob)], ⟨bob, [(knows, alice)]⟩, ⟨alice, [(likes, alice)]⟩].Perm
        (outgoing ++ incoming.filter fun path => !path.crossesLoop) := by
  have hboth : people.paths ⟨[], []⟩ ⟨[], []⟩ ⟨[], []⟩ .both 1 1 =
      .ok [⟨alice, [(knows, bob)]⟩, ⟨bob, [(knows, alice)]⟩, ⟨alice, [(likes, alice)]⟩] := rfl
  obtain ⟨hback, _, hagree⟩ := people.paths_direction_symmetric ⟨[], []⟩ ⟨[], []⟩ ⟨[], []⟩
  exact ⟨hboth, hback, hagree _ hboth⟩

end Graph

end CypherExpr
