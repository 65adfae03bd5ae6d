import CypherExpr.Proofs.Graph.Alternation
import CypherExpr.Value.Render

/-!
# Paths kept in two columns

A path can be kept as a column of its nodes and a column of its relationships.  Then its parts are
found by position, and a position may lie outside a column.  The operations on columns are those on
paths, each read at a position giving `none` where there is nothing.  Whatever is made from nothing
by these operations are the columns of a connected path, so no read is ever out of range.
-/

namespace CypherExpr

/-- The columns of a path, which nothing keeps in step. -/
structure Columns (α : Type) where
  nodes : List (Node α)
  relationships : List (Relationship α)

def Path.columns {α : Type} (path : Path α) : Columns α := ⟨path.nodes, path.relationships⟩

namespace Columns

variable {α : Type}

def single (node : Node α) : Columns α := ⟨[node], []⟩

def start? (columns : Columns α) : Option (Node α) := columns.nodes[0]?

def last? (columns : Columns α) : Option (Node α) := columns.nodes[columns.nodes.length - 1]?

/-- Adds a hop in place.  The columns left behind stand next to the outcome. -/
def push? (columns : Columns α) (relationship : Relationship α) (node : Node α) :
    Option (Except PathDefect Unit × Columns α) := do
  let last := (← columns.last?).id
  if relationship.connects last node.id then
    return (.ok (), ⟨columns.nodes ++ [node], columns.relationships ++ [relationship]⟩)
  else
    return (.error (.disconnected relationship.id last node.id), columns)

/-- Pushes the hops that a sequence of elements holds. -/
def extend? (columns : Columns α) : List (PathElement α) → Option (Except PathDefect (Columns α))
  | [] => some (.ok columns)
  | .node _ :: _ => some (.error .twoNodesInARow)
  | .relationship relationship :: .node node :: rest =>
      match columns.push? relationship node with
      | none => none
      | some (.ok (), longer) => longer.extend? rest
      | some (.error defect, _) => some (.error defect)
  | .relationship _ :: _ => some (.error .endsWithRelationship)

def ofElements? : List (PathElement α) → Option (Except PathDefect (Columns α))
  | [] => some (.error .noStart)
  | .relationship _ :: _ => some (.error .startsWithRelationship)
  | .node node :: rest => (single node).extend? rest

def ofParts? (nodes : List (Node α)) (relationships : List (Relationship α)) :
    Option (Except PathDefect (Columns α)) :=
  if nodes.length ≠ relationships.length + 1 then
    some (.error (.wrongCounts nodes.length relationships.length))
  else
    match nodes with
    | [] => some (.error .noStart)
    | start :: rest => (single start).extend? (Path.hopElements (relationships.zip rest))

def elements? (columns : Columns α) : Option (List (PathElement α)) := do
  let start ← columns.start?
  return .node start :: Path.hopElements (columns.relationships.zip columns.nodes.tail)

/-- The text of a hop, with an arrow in the direction of its relationship. -/
def hopText (source : Node Value) (relationship : Relationship Value) (target : Node Value) :
    String :=
  (if relationship.source = source.id then "-" ++ Value.renderRelationship relationship ++ "->"
   else "<-" ++ Value.renderRelationship relationship ++ "-") ++ Value.renderNode target

/-- The text of a relationship at a position, between the nodes at that position and the next. -/
def hopText? (nodes : List (Node Value)) (entry : Relationship Value × Nat) : Option String := do
  let source ← nodes[entry.2]?
  let target ← nodes[entry.2 + 1]?
  return hopText source entry.1 target

def render? (columns : Columns Value) : Option String := do
  let start ← columns.start?
  let hops ← columns.relationships.zipIdx.mapM (hopText? columns.nodes)
  return Value.renderNode start ++ String.join hops

/-- Columns that any sequence of operations makes. -/
inductive Reached : Columns α → Prop
  | single (node : Node α) : Reached (single node)
  | ofElements {elements : List (PathElement α)} {columns : Columns α}
      (hmade : ofElements? elements = some (.ok columns)) : Reached columns
  | ofParts {nodes : List (Node α)} {relationships : List (Relationship α)} {columns : Columns α}
      (hmade : ofParts? nodes relationships = some (.ok columns)) : Reached columns
  | push {columns left : Columns α} {relationship : Relationship α} {node : Node α}
      {outcome : Except PathDefect Unit} (hreached : Reached columns)
      (hpush : columns.push? relationship node = some (outcome, left)) : Reached left

/-- Each relationship stands between two nodes and connects them. -/
structure WellFormed (columns : Columns α) : Prop where
  count : columns.nodes.length = columns.relationships.length + 1
  joins : ∀ position relationship, columns.relationships[position]? = some relationship →
    ∃ left right, columns.nodes[position]? = some left ∧
      columns.nodes[position + 1]? = some right ∧ relationship.connects left.id right.id = true

end Columns

namespace Path

variable {α : Type}

@[simp] theorem columns_nodes (path : Path α) : path.columns.nodes = path.nodes := rfl

@[simp] theorem columns_relationships (path : Path α) :
    path.columns.relationships = path.relationships := rfl

/-! ## Reads by position -/

theorem start?_columns (path : Path α) : path.columns.start? = some path.start := rfl

theorem last?_columns (path : Path α) : path.columns.last? = some path.last := by
  rw [Columns.last?, ← List.getLast?_eq_getElem?, columns_nodes, nodes, List.getLast?_cons,
    List.getLast?_map, last, lastOf]

theorem elements?_columns (path : Path α) : path.columns.elements? = some path.elements := by
  have hzip : path.relationships.zip (path.hops.map Prod.snd) = path.hops := by
    rw [relationships, List.zip_map', List.map_id']
  rw [Columns.elements?, start?_columns, columns_nodes, columns_relationships, nodes,
    List.tail_cons, hzip]
  rfl

/-- From a node on, the texts of the hops are found at its position and those that follow. -/
theorem exists_hopTexts (before : List (Node Value)) (start : Node Value)
    (hops : List (Relationship Value × Node Value)) :
    ∃ texts, ((hops.map Prod.fst).zipIdx before.length).mapM
        (Columns.hopText? (before ++ start :: hops.map Prod.snd)) = some texts ∧
      String.join texts = Value.renderHops start.id hops := by
  induction hops generalizing before start with
  | nil => exact ⟨[], rfl, rfl⟩
  | cons hop rest ih =>
      obtain ⟨texts, htexts, hjoin⟩ := ih (before ++ [start]) hop.2
      rw [List.length_append, List.length_singleton, List.append_assoc, List.singleton_append]
        at htexts
      have hhop : Columns.hopText? (before ++ start :: hop.2 :: rest.map Prod.snd)
          (hop.1, before.length) = some (Columns.hopText start hop.1 hop.2) := by
        simp [Columns.hopText?]
      refine ⟨Columns.hopText start hop.1 hop.2 :: texts, ?_, ?_⟩
      · rw [List.map_cons, List.map_cons, List.zipIdx_cons, List.mapM_cons, hhop, htexts]
        rfl
      · rw [String.join_cons, hjoin, Value.renderHops, Columns.hopText]

theorem render?_columns (path : Path Value) :
    path.columns.render? = some (Value.renderPath path) := by
  obtain ⟨start, hops⟩ := path
  obtain ⟨texts, htexts, hjoin⟩ := exists_hopTexts [] start hops
  have hread : (relationships ⟨start, hops⟩).zipIdx.mapM
      (Columns.hopText? (nodes ⟨start, hops⟩)) = some texts := htexts
  simp [Columns.render?, start?_columns, hread, hjoin, Value.renderPath]

/-! ## Operations -/

theorem push?_of_ok {path longer : Path α} {relationship : Relationship α} {node : Node α}
    (hpush : path.push relationship node = .ok longer) :
    path.columns.push? relationship node = some (.ok (), longer.columns) := by
  obtain ⟨hconnects, rfl⟩ := push_eq_ok_iff.mp hpush
  simp only [Columns.push?, last?_columns, Option.bind_eq_bind, Option.bind_some, hconnects]
  simp [columns, nodes, relationships]

/-- A hop that does not lead on from the last node leaves the columns as they were. -/
theorem push?_of_error {path : Path α} {relationship : Relationship α} {node : Node α}
    {defect : PathDefect} (hpush : path.push relationship node = .error defect) :
    path.columns.push? relationship node = some (.error defect, path.columns) := by
  rw [push] at hpush
  split at hpush
  next hconnects => cases hpush
  next hconnects =>
    cases hpush
    simp [Columns.push?, last?_columns, hconnects]

theorem extend?_columns (path : Path α) (elements : List (PathElement α)) :
    path.columns.extend? elements = some ((path.extend elements).map columns) := by
  fun_induction extend path elements with
  | case1 path => rfl
  | case2 path node rest => rfl
  | case3 path relationship node rest longer hpush ih =>
      simpa only [Columns.extend?, push?_of_ok hpush] using ih
  | case4 path relationship node rest defect hpush =>
      simp only [Columns.extend?, push?_of_error hpush, Except.map]
  | case5 path relationship rest hrest => simp [Columns.extend?, Except.map]

theorem ofElements?_eq (elements : List (PathElement α)) :
    Columns.ofElements? elements = some ((ofElements elements).map columns) := by
  fun_cases ofElements elements with
  | case1 => rfl
  | case2 => rfl
  | case3 node rest => exact extend?_columns (single node) rest

theorem ofParts?_eq (nodes : List (Node α)) (relationships : List (Relationship α)) :
    Columns.ofParts? nodes relationships = some ((ofParts nodes relationships).map columns) := by
  unfold Columns.ofParts? ofParts
  split
  · rfl
  · cases nodes with
    | nil => rfl
    | cons start rest => exact extend?_columns (single start) _

/-! ## Every path that is made -/

theorem exists_connects_of_connectedFrom {start : Node α}
    {hops : List (Relationship α × Node α)} (hhops : ConnectedFrom start.id hops) {position : Nat}
    {relationship : Relationship α}
    (hrelationship : (hops.map Prod.fst)[position]? = some relationship) :
    ∃ left right, (start :: hops.map Prod.snd)[position]? = some left ∧
      (hops.map Prod.snd)[position]? = some right ∧
        relationship.connects left.id right.id = true := by
  induction hops generalizing start position with
  | nil => cases hrelationship
  | cons hop rest ih =>
      cases position with
      | zero =>
          cases hrelationship
          exact ⟨start, hop.2, rfl, rfl, hhops.1⟩
      | succ position => exact ih hhops.2 hrelationship

theorem wellFormed_columns {path : Path α} (hconnected : path.Connected) :
    path.columns.WellFormed where
  count := by simp [nodes, relationships]
  joins := fun _ _ hrelationship => exists_connects_of_connectedFrom hconnected hrelationship

theorem exists_of_map_columns {made : Except PathDefect (Path α)} {columns : Columns α}
    (hmade : some (made.map Path.columns) = some (.ok columns)) :
    ∃ path, made = .ok path ∧ columns = path.columns := by
  cases made with
  | error defect => cases hmade
  | ok path =>
      cases hmade
      exact ⟨path, rfl, rfl⟩

/-- A push on the columns of a connected path leaves columns of a connected path, whether the path
was extended or not. -/
theorem exists_connected_of_push? {path : Path α} {relationship : Relationship α} {node : Node α}
    {outcome : Except PathDefect Unit} {left : Columns α} (hconnected : path.Connected)
    (hpush : path.columns.push? relationship node = some (outcome, left)) :
    ∃ after : Path α, after.Connected ∧ left = after.columns := by
  cases hextended : path.push relationship node with
  | ok longer =>
      rw [push?_of_ok hextended] at hpush
      cases hpush
      exact ⟨longer, push_connected hconnected hextended, rfl⟩
  | error defect =>
      rw [push?_of_error hextended] at hpush
      cases hpush
      exact ⟨path, hconnected, rfl⟩

/-- Columns that are made are those of a connected path, by induction on the operations. -/
theorem exists_connected_of_reached {columns : Columns α} (hreached : columns.Reached) :
    ∃ path : Path α, path.Connected ∧ columns = path.columns := by
  induction hreached with
  | single node => exact ⟨single node, trivial, rfl⟩
  | @ofElements elements columns hmade =>
      rw [ofElements?_eq] at hmade
      obtain ⟨path, hpath, rfl⟩ := exists_of_map_columns hmade
      exact ⟨path, (ofElements_eq_ok_iff.mp hpath).1, rfl⟩
  | @ofParts nodes relationships columns hmade =>
      rw [ofParts?_eq] at hmade
      obtain ⟨path, hpath, rfl⟩ := exists_of_map_columns hmade
      exact ⟨path, (ofParts_eq_ok_iff.mp hpath).1, rfl⟩
  | push hreached hpush ih =>
      obtain ⟨path, hconnected, rfl⟩ := ih
      exact exists_connected_of_push? hconnected hpush

/-- The columns of a path and what is read from them, or pushed on to them. -/
structure Kept (path : Path Value) (columns : Columns Value) : Prop where
  columns_eq : columns = path.columns
  remade : ofElements path.elements = .ok path
  wellFormed : columns.WellFormed
  start : columns.start? = some path.start
  last : columns.last? = some path.last
  elements : columns.elements? = some path.elements
  render : columns.render? = some (Value.renderPath path)
  pushed : ∀ relationship node longer, path.push relationship node = .ok longer →
    columns.push? relationship node = some (.ok (), longer.columns)
  refused : ∀ relationship node defect, path.push relationship node = .error defect →
    columns.push? relationship node = some (.error defect, columns)

theorem kept_columns {path : Path Value} (hconnected : path.Connected) :
    Kept path path.columns where
  columns_eq := rfl
  remade := ofElements_eq_ok_iff.mpr ⟨hconnected, rfl⟩
  wellFormed := wellFormed_columns hconnected
  start := start?_columns path
  last := last?_columns path
  elements := elements?_columns path
  render := render?_columns path
  pushed := fun _ _ _ => push?_of_ok
  refused := fun _ _ _ => push?_of_error

/-- Exactly the alternating sequences of elements make a path, whose elements they are.  Nodes and
relationships make one, also when they are read from a document, exactly when their interleaving
does, and it is the same.  Columns are made in the same way, and those that any operations reach are
the columns of a path that its elements make again: they are well formed, everything is read from
them, and a failing push leaves them. -/
theorem representation_kept :
    (∀ elements : List (PathElement Value),
      Columns.ofElements? elements = some ((ofElements elements).map columns) ∧
      ((∃ path, ofElements elements = .ok path) ↔ Alternating elements) ∧
        ∀ path, ofElements elements = .ok path → path.elements = elements) ∧
    (∀ nodes (relationships : List (Relationship Value)),
      Columns.ofParts? nodes relationships = some ((ofParts nodes relationships).map columns) ∧
      ∀ path, ofParts nodes relationships = .ok path ↔
        ofElements (interleave nodes relationships) = .ok path) ∧
    (∀ document path, Tagged.decodePath? document = some (.ok path) ↔
      ∃ nodes relationships, Tagged.parts? document = some (nodes, relationships) ∧
        ofElements (interleave nodes relationships) = .ok path) ∧
    ∀ columns : Columns Value, columns.Reached → ∃ path, Kept path columns := by
  refine ⟨?_, ?_, ?_, ?_⟩
  · intro elements
    refine ⟨ofElements?_eq elements, exists_ofElements_iff, ?_⟩
    intro path hpath
    exact (ofElements_eq_ok_iff.mp hpath).2
  · intro nodes relationships
    refine ⟨ofParts?_eq nodes relationships, ?_⟩
    intro path
    exact ofParts_eq_ok_iff_interleave
  · intro document path
    exact Tagged.decodePath?_eq_ok_iff
  · intro columns hreached
    obtain ⟨path, hconnected, rfl⟩ := exists_connected_of_reached hreached
    exact ⟨path, kept_columns hconnected⟩

/-- One hop is refused and the next one taken in. -/
theorem representation_kept_afterRefusal :
    (⟨[⟨1, [], []⟩, ⟨2, [], []⟩], [⟨10, "KNOWS", 2, 1, []⟩]⟩ : Columns Value).Reached ∧
      ∃ path, Kept path ⟨[⟨1, [], []⟩, ⟨2, [], []⟩], [⟨10, "KNOWS", 2, 1, []⟩]⟩ := by
  have hrefused : (.single ⟨1, [], []⟩ : Columns Value).push? ⟨11, "KNOWS", 2, 3, []⟩
      ⟨3, [], []⟩ = some (.error (.disconnected 11 1 3), .single ⟨1, [], []⟩) := rfl
  have htaken : (.single ⟨1, [], []⟩ : Columns Value).push? ⟨10, "KNOWS", 2, 1, []⟩
      ⟨2, [], []⟩ = some (.ok (), ⟨[⟨1, [], []⟩, ⟨2, [], []⟩], [⟨10, "KNOWS", 2, 1, []⟩]⟩) := rfl
  have hreached := ((Columns.Reached.single _).push hrefused).push htaken
  exact ⟨hreached, representation_kept.2.2.2 _ hreached⟩

end Path

end CypherExpr
