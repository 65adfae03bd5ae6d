import CypherExpr.Regex.Encoding
import CypherExpr.Regex.Shape
import Std.Data.HashMap

/-!
# Weights of patterns

A pattern is run by two automata on bytes, one that reads a text forward and one that reads it
backward, and each of them has to fit into ten mebibytes.  An automaton is drafted state by state
here: a state takes 32 bytes, a transition out of a state with several byte ranges 8, and a branch
of a fork 4.  A repetition is written out, so its body is drafted as often as it is repeated.
-/

namespace CypherExpr.Regex

/-- The number of states drafted so far, and the bytes of their transitions and branches. -/
structure Draft where
  states : Nat
  links : Nat

/-- The greatest size of an automaton in bytes. -/
def sizeLimit : Nat := 10 * 1024 * 1024

def Draft.size (draft : Draft) : Nat := 32 * draft.states + draft.links

/-- A step that adds to a draft and fails where it becomes too large. -/
abbrev Drafting := StateT Draft Option

namespace Drafting

def add (states links : Nat) : Drafting Unit := fun draft =>
  let grown : Draft := ⟨draft.states + states, draft.links + links⟩
  if grown.size ≤ sizeLimit then some ((), grown) else none

/-- Leads on from the end of a part.  Where the part ends in a fork, that takes a branch. -/
def leadOn (fork : Bool) : Drafting Unit := add 0 (if fork then 4 else 0)

/-! ## Tables with places

States that have been drafted are found again through a table with a fixed number of places.  The
place of a state follows from a hash of what it does, and a later state takes the place of an
earlier one. -/

/-- The Fowler–Noll–Vo hash of a sequence of numbers. -/
def hash (numbers : List Nat) : UInt64 :=
  numbers.foldl (fun total number => (total ^^^ number.toUInt64) * 1099511628211)
    14695981039346656037

/-- A table of states by what they do. -/
structure Table where
  places : Nat
  entries : Std.HashMap Nat (List Nat × Nat)

namespace Table

def empty (places : Nat) : Table := ⟨places, ∅⟩

def place (table : Table) (key : List Nat) : Nat := (hash key).toNat % table.places

def find? (table : Table) (key : List Nat) : Option Nat :=
  (table.entries[table.place key]?).bind fun entry =>
    if entry.1 == key then some entry.2 else none

def insert (table : Table) (key : List Nat) (state : Nat) : Table :=
  { table with entries := table.entries.insert (table.place key) (key, state) }

end Table

/-- The state with the given transitions; a new one unless the table has it. -/
def share (table : Table) (key : List Nat) (links : Nat) : Drafting (Nat × Table) := fun draft =>
  match table.find? key with
  | some state => some ((state, table), draft)
  | none => do
      let (_, grown) ← add 1 links draft
      some ((draft.states, table.insert key draft.states), grown)

/-! ## Sets of characters -/

/-- Gathers sequences that begin with the same range of bytes. -/
def gather : List ByteSequence → List ((Nat × Nat) × List ByteSequence)
  | [] => []
  | [] :: rest => gather rest
  | (first :: bytes) :: rest =>
      match gather rest with
      | (range, others) :: groups =>
          if range = first then (range, bytes :: others) :: groups
          else (first, [bytes]) :: (range, others) :: groups
      | [] => [(first, [bytes])]

/-- The state from which sequences of at most `depth` bytes lead to `target`.  States with the same
transitions are shared. -/
def reader (target : Nat) : Nat → Table → List ByteSequence → Drafting (Nat × Table)
  | 0, table, _ => pure (target, table)
  | depth + 1, table, sequences =>
      if sequences.all List.isEmpty then pure (target, table)
      else do
        let (key, count, table) ←
          (gather sequences).foldlM (fun (key, count, table) (range, rest) => do
            let (state, table) ← reader target depth table rest
            pure (key ++ [range.1, range.2, state], count + 1, table)) (([] : List Nat), 0, table)
        share table key (8 * count)

/-- The states that read the bytes of one sequence, the last byte first; `state` is where the bytes
before have led from. -/
def backwardReader (table : Table) (state : Nat) : ByteSequence → Drafting Table
  | [] => do
      add 0 4
      pure table
  | range :: rest => do
      let (state, table) ← share table [state, range.1, range.2] 0
      backwardReader table state rest

/-- One character of a set.  Sets within ASCII take a state with a transition for each range. -/
def chars (backward : Bool) (spans : List Span) : Drafting Bool := do
  if spans.all fun span => decide (span.2 < 0x80) then
    add 2 (8 * spans.length)
  else
    let target := (← get).states
    let sequences := ByteSequence.ofSpans spans
    if backward then
      add 2 0
      discard <| sequences.foldlM (fun table bytes => backwardReader table (target + 1) bytes)
        (Table.empty 1000)
    else
      add 1 0
      discard <| reader target 4 (Table.empty 10000) sequences
  pure false

/-! ## Alternative literals -/

/-- The literals that end here part the others into runs: within a run literals that begin alike
share states.  `current` is the run under way, latest first, and `any` tells whether a literal goes
on from here at all. -/
def runs (any : Bool) (current : List (List Nat)) (done : List (List (List Nat))) :
    List (List Nat) → List (List (List Nat))
  | [] => (current.reverse :: done).reverse
  | [] :: rest =>
      if !any && !done.isEmpty then runs any current done rest
      else runs any [] (current.reverse :: done) rest
  | bytes :: rest => runs true (bytes :: current) done rest

/-- The literals of a run by their first bytes. -/
def byFirst (literals : List (List Nat)) : List (List (List Nat)) :=
  (literals.filterMap List.head?).eraseDups.map fun byte =>
    literals.filterMap fun bytes => if bytes.head? = some byte then some bytes.tail else none

/-- The states that read one of several literals of at most `depth` bytes. -/
def trie : Nat → List (List Nat) → Drafting Unit
  | 0, _ => pure ()
  | depth + 1, literals =>
      if literals.all List.isEmpty then pure ()
      else do
        let parts := runs false [] [] literals
        for part in parts do
          let children := byFirst part
          for child in children do
            trie depth child
          if !children.isEmpty then
            add 1 (if children.length = 1 then 0 else 8 * children.length)
        let full := parts.filter fun part => !part.isEmpty
        add 1 (4 * (full.length + parts.length - 1))

/-! ## Shapes -/

/-- A part drafted a number of times more, after a part that ends in a fork or not. -/
def again (one : Drafting Bool) : Nat → Bool → Drafting Bool
  | 0, fork => pure fork
  | count + 1, fork => do
      let next ← one
      leadOn fork
      again one count next

def exactly (one : Drafting Bool) : Nat → Drafting Bool
  | 0 => do
      add 1 0
      pure false
  | count + 1 => do again one count (← one)

/-- Rounds of which each may be the last. -/
def rounds (one : Drafting Bool) : Nat → Bool → Drafting Bool
  | 0, fork => pure fork
  | count + 1, fork => do
      add 1 0
      let next ← one
      leadOn fork
      add 0 8
      rounds one count next

/-- The body of a repetition as often as the bounds ask for.  A body that can match the empty text
takes more states where it may be left out. -/
def repetition (one : Drafting Bool) (canBeEmpty : Bool) (least : Nat) (most : Option Nat) :
    Drafting Bool :=
  match least, most with
  | 0, some 1 => do
      add 1 0
      let fork ← one
      add 1 8
      leadOn fork
      pure false
  | 0, none =>
      if canBeEmpty then do
        let fork ← one
        leadOn fork
        add 3 16
        pure false
      else do
        add 1 4
        leadOn (← one)
        pure true
  | 1, none => do
      let fork ← one
      leadOn fork
      add 1 4
      pure true
  | least, none => do
      leadOn (← exactly one (least - 1))
      leadOn (← one)
      add 1 4
      pure true
  | least, some most => do
      let fork ← exactly one least
      if least = most then pure fork
      else
        add 1 0
        leadOn (← rounds one (most - least) fork)
        pure false

/-- The literals of alternatives that are nothing else, in the order in which their bytes are
read. -/
def literals? (backward : Bool) (branches : List Shape) : Option (List (List Nat)) :=
  branches.mapM fun branch =>
    match branch with
    | .literal points =>
        let bytes := points.flatMap ByteSequence.ofPoint
        some (if backward then bytes.reverse else bytes)
    | _ => none

mutual

/-- Drafts a shape, and tells whether it ends in a fork. -/
def shape (backward : Bool) : Shape → Drafting Bool
  | .empty | .look _ => do
      add 1 0
      pure false
  | .literal points => do
      add (points.map Shape.width).sum 0
      pure false
  | .chars spans => chars backward spans
  | .repeat body least most =>
      repetition (shape backward body) (body.leastLength.all fun length => length == 0) least most
  | .group _ body =>
      if backward then shape backward body
      else do
        add 1 0
        let fork ← shape backward body
        add 1 0
        leadOn fork
        pure false
  | .concat parts => concat backward parts
  | .alternation shapes =>
      match literals? backward shapes with
      | some literals => do
          add 1 0
          trie ((literals.map List.length).foldl max 0 + 1) literals
          pure false
      | none => do
          branches backward 0 shapes
          pure false

/-- Parts one after another, the last one first where the text is read backward. -/
def concat (backward : Bool) : List Shape → Drafting Bool
  | [] => do
      add 1 0
      pure false
  | [part] => shape backward part
  | part :: rest =>
      if backward then do
        leadOn (← concat backward rest)
        shape backward part
      else do
        let fork ← shape backward part
        let last ← concat backward rest
        leadOn fork
        pure last

/-- Alternatives, each with a branch of the fork before them.  The fork and the state behind the
alternatives come after the second of them. -/
def branches (backward : Bool) (count : Nat) : List Shape → Drafting Unit
  | [] => pure ()
  | branch :: rest => do
      let fork ← shape backward branch
      if count = 1 then add 2 0
      add 0 4
      leadOn fork
      branches backward (count + 1) rest

end

end Drafting

/-! ## Whole patterns -/

namespace Shape

mutual

/-- Whether the shape matches at one end of a text only: at its start, or backward at its end. -/
def isBound (backward : Bool) : Shape → Bool
  | .look condition => condition == if backward then .textEnd else .textStart
  | .repeat body least _ => least != 0 && isBound backward body
  | .group _ body => isBound backward body
  | .concat parts => isBoundFirst backward parts
  | .alternation branches => areBound backward branches
  | _ => false

/-- Whether one of the parts is bound before any part that takes a character. -/
def isBoundFirst (backward : Bool) : List Shape → Bool
  | [] => false
  | part :: rest =>
      if backward then
        isBoundFirst backward rest
          || ((greatestTotal rest == some 0) && isBound backward part)
      else isBound backward part || ((greatestLength part == some 0) && isBoundFirst backward rest)

def areBound (backward : Bool) : List Shape → Bool
  | [] => true
  | branch :: rest => isBound backward branch && areBound backward rest

end

/-- Drafts the automaton of a whole pattern: a start, which skips bytes unless the pattern is bound
to the end where reading begins, the pattern as a group, and a match. -/
def draft (backward : Bool) (shape : Shape) : Drafting Unit := do
  if shape.isBound backward then Drafting.add 1 0 else Drafting.add 3 16
  Drafting.leadOn (← Drafting.shape backward (.group 0 shape))
  Drafting.add 1 0

/-- Whether both automata of the pattern are within the limit. -/
def fits (shape : Shape) : Bool :=
  ((shape.draft false).run ⟨0, 0⟩).isSome && ((shape.draft true).run ⟨0, 0⟩).isSome

end Shape

end CypherExpr.Regex
