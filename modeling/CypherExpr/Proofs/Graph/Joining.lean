import CypherExpr.Proofs.Graph.Assembly
import Mathlib.Data.List.Chain

/-!
# Pieces of a path that join

A chain is a first node and the pieces behind it, hops over one relationship and segments matched
earlier, each of which begins at the node where the one before it ended.  A boundary node is given
by the piece in front of it or brought by a segment behind it, which is why the node in front of a
segment is left out.  What a segment ends with is never left out, so the pieces join into one path
exactly when no segment directly follows another; two neighbouring segments both bring the node
between them, and the chain fails.
-/

namespace CypherExpr

/-- What a path consists of behind its first node: a hop, with the expressions of its relationship
and of the node that it leads to, or a segment. -/
inductive Piece where
  | hop (crossed reached : Expr)
  | segment (name : String)

namespace Piece

def isSegment : Piece → Bool
  | hop .. => false
  | segment _ => true

def steps : List Piece → PathStep Expr
  | [] => .done
  | hop crossed reached :: rest => .relationship crossed (some reached) (steps rest)
  | segment name :: rest => .segment name (steps rest)

/-- The chain of a first node and the pieces behind it. -/
def chain (start : Expr) (pieces : List Piece) : PathStep Expr := .node start (steps pieces)

/-- At most one of the two is a segment. -/
def Apart (first second : Piece) : Prop := ¬ (first.isSegment = true ∧ second.isSegment = true)

theorem isSegment_steps_cons (piece : Piece) (rest : List Piece) :
    (steps (piece :: rest)).isSegment = piece.isSegment := by
  cases piece <;> rfl

theorem apart_hop {crossed reached : Expr} (piece : Piece) : Apart (hop crossed reached) piece :=
  fun hboth => nomatch hboth.1

/-- A hop stands apart from whatever follows it. -/
theorem isChain_hop_iff {crossed reached : Expr} {rest : List Piece} :
    (hop crossed reached :: rest).IsChain Apart ↔ rest.IsChain Apart := by
  cases rest with
  | nil => simp
  | cons next others => simp [List.isChain_cons_cons, apart_hop]

/-- A segment stands apart from what follows it unless that begins with a segment as well. -/
theorem isChain_segment_iff {name : String} {rest : List Piece} :
    (segment name :: rest).IsChain Apart ↔
      (steps rest).isSegment = false ∧ rest.IsChain Apart := by
  cases rest with
  | nil => simp [steps, PathStep.isSegment]
  | cons next others =>
      rw [List.isChain_cons_cons, isSegment_steps_cons, Apart]
      simp [isSegment]

end Piece

namespace Eval

variable (sub : Evaluator) (context : Context)

/-- From a node the pieces lead over some hops, each piece from the node where the one before it
ended.  The node that a hop leads to is evaluated unless a segment, which brings it, comes next.
Segments are connected, as every path is that can be built. -/
inductive Traverses : Node Value → List Piece → List (Relationship Value × Node Value) → Prop
  | done (node : Node Value) : Traverses node [] []
  | hop {node next : Node Value} {crossed reached : Expr} {relationship : Relationship Value}
      {rest : List Piece} {hops : List (Relationship Value × Node Value)}
      (hcrossed : sub crossed context = .ok (.relationship relationship))
      (hreached : (Piece.steps rest).isSegment = false → sub reached context = .ok (.node next))
      (hconnects : relationship.connects node.id next.id = true)
      (hrest : Traverses next rest hops) :
      Traverses node (.hop crossed reached :: rest) ((relationship, next) :: hops)
  | segment {name : String} {part : Path Value} {rest : List Piece}
      {hops : List (Relationship Value × Node Value)}
      (hpart : context.segment? name = some part) (hconnected : part.Connected)
      (hrest : Traverses part.last rest hops) :
      Traverses part.start (.segment name :: rest) (part.hops ++ hops)

variable {sub context}
variable {node : Node Value} {pieces : List Piece}
variable {hops : List (Relationship Value × Node Value)}

/-- The elements behind a node where pieces follow it.  A segment, if it is the first piece, brings
the node as well. -/
def following (node : Node Value) (pieces : List Piece) (behind : List (PathElement Value)) :
    List (PathElement Value) :=
  if (Piece.steps pieces).isSegment then .node node :: behind else behind

section Elements

variable {behind : List (PathElement Value)}

/-- The elements of a chain are its first node and what stands behind it, whether the node is
evaluated or brought. -/
theorem assemble_chain {start : Expr}
    (hstart : (Piece.steps pieces).isSegment = false → sub start context = .ok (.node node))
    (hbehind : assemble sub context (Piece.steps pieces) =
      .ok (some (following node pieces behind))) :
    assemble sub context (Piece.chain start pieces) = .ok (some (.node node :: behind)) := by
  rw [following] at hbehind
  cases hsegment : (Piece.steps pieces).isSegment with
  | true =>
      rw [hsegment] at hbehind
      simp only [Piece.chain, assemble, hsegment, hbehind]
      rfl
  | false =>
      rw [hsegment] at hbehind
      have hnode := (nodeOf_eq_ok_iff (some node)).mpr (hstart hsegment)
      simp only [Piece.chain, assemble, hsegment, hnode, hbehind]
      rfl

theorem assemble_hop {next : Node Value} {crossed reached : Expr}
    {relationship : Relationship Value}
    (hcrossed : sub crossed context = .ok (.relationship relationship))
    (hreached : (Piece.steps pieces).isSegment = false → sub reached context = .ok (.node next))
    (hbehind : assemble sub context (Piece.steps pieces) =
      .ok (some (following next pieces behind))) :
    assemble sub context (Piece.steps (.hop crossed reached :: pieces)) =
      .ok (some (.relationship relationship :: .node next :: behind)) := by
  have hrelationship := (relationshipOf_eq_ok_iff (some relationship)).mpr hcrossed
  rw [following] at hbehind
  cases hsegment : (Piece.steps pieces).isSegment with
  | true =>
      rw [hsegment] at hbehind
      simp only [Piece.steps, assemble, hrelationship, hsegment, hbehind]
      rfl
  | false =>
      rw [hsegment] at hbehind
      have hnode := (nodeOf_eq_ok_iff (some next)).mpr (hreached hsegment)
      simp only [Piece.steps, assemble, hrelationship, hsegment, hnode, hbehind]
      rfl

/-- A segment ends with its last node, also where the next piece begins with that node. -/
theorem assemble_segment {name : String} {part : Path Value}
    (hpart : context.segment? name = some part)
    (hbehind : assemble sub context (Piece.steps pieces) =
      .ok (some (following part.last pieces behind))) :
    assemble sub context (Piece.steps (.segment name :: pieces)) =
      .ok (some (.node part.start ::
        (Path.hopElements part.hops ++ following part.last pieces behind))) := by
  simp only [Piece.steps, assemble, hpart, hbehind]
  rfl

end Elements

/-- What pieces put behind a node extends every path that ends there by all of their hops, if no
segment directly follows another, and otherwise is defective. -/
theorem exists_following (htraverses : Traverses sub context node pieces hops) :
    ∃ behind,
      assemble sub context (Piece.steps pieces) = .ok (some (following node pieces behind)) ∧
      ∀ path : Path Value, path.last = node →
        (pieces.IsChain Piece.Apart → path.extend behind = .ok ⟨path.start, path.hops ++ hops⟩) ∧
        (¬ pieces.IsChain Piece.Apart → path.extend behind = .error .twoNodesInARow) := by
  induction htraverses with
  | done node =>
      refine ⟨[], rfl, ?_⟩
      intro path hlast
      constructor
      · intro hchain
        rw [Path.extend, List.append_nil]
      · intro hchain
        exact absurd .nil hchain
  | @hop node next crossed reached relationship rest hops hcrossed hreached hconnects hrest ih =>
      obtain ⟨behind, hbehind, hextend⟩ := ih
      refine ⟨_, assemble_hop hcrossed hreached hbehind, ?_⟩
      intro path hlast
      have hpush := Path.push_eq_ok_iff.mpr ⟨hlast ▸ hconnects, rfl⟩
      have hlonger := hextend ⟨path.start, path.hops ++ [(relationship, next)]⟩
        (Path.last_push path (relationship, next))
      rw [Piece.isChain_hop_iff, Path.extend, hpush]
      simpa using hlonger
  | @segment name part rest hops hpart hconnected hrest ih =>
      obtain ⟨behind, hbehind, hextend⟩ := ih
      refine ⟨_, assemble_segment hpart hbehind, ?_⟩
      intro path hlast
      have hfrom : Path.ConnectedFrom path.last.id part.hops := hlast ▸ hconnected
      have hlonger := hextend ⟨path.start, path.hops ++ part.hops⟩
        ((path.last_append part.hops).trans (congrArg (Path.lastOf · part.hops) hlast))
      rw [Piece.isChain_segment_iff, path.extend_hopElements_append _ hfrom, following]
      -- a segment behind the segment brings its last node a second time
      cases (Piece.steps rest).isSegment with
      | true => simp [Path.extend]
      | false => simpa using hlonger

end Eval

namespace Engine

open Outcome

/-- A chain whose pieces lead from node to node evaluates to the path over all of their hops, with
each boundary node once, exactly when no segment directly follows another.  Otherwise it fails,
because two nodes stand in a row. -/
theorem evaluate_chain_iff_apart (engine : Engine) (context : Context) (start : Expr)
    (pieces : List Piece) (node : Node Value) (hops : List (Relationship Value × Node Value))
    (hstart : (Piece.steps pieces).isSegment = false →
      engine.eval engine.options.maxDepth start context = .ok (.node node))
    (htraverses :
      Eval.Traverses (engine.eval engine.options.maxDepth) context node pieces hops) :
    (engine.evaluate (.path (Piece.chain start pieces)) context = .ok (.path ⟨node, hops⟩) ↔
      pieces.IsChain Piece.Apart) ∧
    (¬ pieces.IsChain Piece.Apart →
      engine.evaluate (.path (Piece.chain start pieces)) context =
        .error (.marked (Expr.path (Piece.chain start pieces)).render
          (.ofCause (.pathConstruction PathDefect.twoNodesInARow.message)))) := by
  obtain ⟨behind, hbehind, hextend⟩ := Eval.exists_following htraverses
  have hchain := Eval.assemble_chain hstart hbehind
  obtain ⟨hjoined, hbroken⟩ := hextend (.single node) rfl
  have hevaluate : engine.evaluate (.path (Piece.chain start pieces)) context =
      (Eval.path (engine.eval engine.options.maxDepth) context
        (Piece.chain start pieces)).leaving (.path (Piece.chain start pieces)) := rfl
  have hfails : ¬ pieces.IsChain Piece.Apart →
      engine.evaluate (.path (Piece.chain start pieces)) context =
        .error (.marked (Expr.path (Piece.chain start pieces)).render
          (.ofCause (.pathConstruction PathDefect.twoNodesInARow.message))) := by
    intro hapart
    have hdefect : Path.ofElements (.node node :: behind) = .error .twoNodesInARow :=
      hbroken hapart
    rw [hevaluate, Eval.path, hchain]
    simp only [Bind.bind, Except.bind, hdefect]
    rfl
  refine ⟨⟨?_, ?_⟩, hfails⟩
  · intro hok
    by_contra hapart
    rw [hfails hapart] at hok
    cases hok
  · intro hapart
    apply leaving_eq_ok_iff.mpr
    apply Eval.path_eq_ok_iff.mpr
    exact .inr ⟨_, _, hchain, hjoined hapart, rfl⟩

/-- A row with the first town, two roads and a town behind them, the segment `s` of no hops between
the roads, and the segments `t` and `u` along the roads. -/
def rowOfSegments : Context :=
  ⟨[("a", .node (town 1)), ("r", .relationship (road 10 1 2)), ("q", .relationship (road 20 3 2)),
      ("c", .node (town 3))],
    [("s", ⟨town 2, []⟩), ("t", ⟨town 1, [(road 10 1 2, town 2)]⟩),
      ("u", ⟨town 2, [(road 20 3 2, town 3)]⟩)], []⟩

/-- The chain `(a)-[r]-(b)-[s*]-()-[q]-(c)`: a hop, a segment without hops, which brings the unbound
`b`, and a hop against the direction of its relationship. -/
theorem evaluate_chain_emptySegment :
    Eval.Traverses (standard.eval 512) rowOfSegments (town 1)
      [.hop (.variable "r") (.variable "b"), .segment "s", .hop (.variable "q") (.variable "c")]
      [(road 10 1 2, town 2), (road 20 3 2, town 3)] ∧
    standard.evaluate (.path (Piece.chain (.variable "a")
        [.hop (.variable "r") (.variable "b"), .segment "s",
          .hop (.variable "q") (.variable "c")])) rowOfSegments =
      .ok (.path ⟨town 1, [(road 10 1 2, town 2), (road 20 3 2, town 3)]⟩) := by
  have hsecond : Eval.Traverses (standard.eval 512) rowOfSegments (town 2)
      [.hop (.variable "q") (.variable "c")] [(road 20 3 2, town 3)] :=
    .hop rfl (fun _ => rfl) (by decide) (.done (town 3))
  have hpart : rowOfSegments.segment? "s" = some ⟨town 2, []⟩ := rfl
  have hsegment := Eval.Traverses.segment hpart trivial hsecond
  have hfirst : Eval.Traverses (standard.eval 512) rowOfSegments (town 1)
      [.hop (.variable "r") (.variable "b"), .segment "s", .hop (.variable "q") (.variable "c")]
      [(road 10 1 2, town 2), (road 20 3 2, town 3)] :=
    .hop rfl nofun (by decide) hsegment
  refine ⟨hfirst, ?_⟩
  apply (standard.evaluate_chain_iff_apart rowOfSegments _ _ _ _ (fun _ => rfl) hfirst).1.mpr
  simp [Piece.Apart, Piece.isSegment]

/-- The segments `t` and `u` meet at the second town, but the chain `(a)-[t*]-()-[u*]-()` has no
value. -/
theorem evaluate_chain_neighbouringSegments :
    Eval.Traverses (standard.eval 512) rowOfSegments (town 1) [.segment "t", .segment "u"]
      [(road 10 1 2, town 2), (road 20 3 2, town 3)] ∧
    standard.evaluate (.path (Piece.chain (.variable "a") [.segment "t", .segment "u"]))
        rowOfSegments =
      .error (.marked (Expr.path (Piece.chain (.variable "a")
          [.segment "t", .segment "u"])).render
        (.ofCause (.pathConstruction "expected a relationship between two nodes"))) := by
  have hpart : rowOfSegments.segment? "t" = some ⟨town 1, [(road 10 1 2, town 2)]⟩ := rfl
  have hpart' : rowOfSegments.segment? "u" = some ⟨town 2, [(road 20 3 2, town 3)]⟩ := rfl
  have hend : Eval.Traverses (standard.eval 512) rowOfSegments (town 3) [] [] := .done (town 3)
  have hsecond := Eval.Traverses.segment hpart' ⟨by decide, trivial⟩ hend
  have hfirst := Eval.Traverses.segment hpart ⟨by decide, trivial⟩ hsecond
  exact ⟨hfirst, rfl⟩

end Engine

end CypherExpr
