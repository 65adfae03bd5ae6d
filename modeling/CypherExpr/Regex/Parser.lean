import CypherExpr.Regex.Lexer
import CypherExpr.Regex.Weight

/-!
# Reading patterns

A pattern is read from left to right by a machine with a stack of open groups.  The machine fails
where the pattern is not well formed, where it nests too deeply and where it would become too large.
-/

namespace CypherExpr.Regex

/-- A part of a concatenation with its shape and the depth of its nesting; a change of flags is a
part too, to which no repetition applies. -/
structure Piece where
  regex : Regex
  shape : Shape
  depth : Nat
  isSwitch : Bool

/-- A group under way: the alternatives before the last bar, latest first, the parts after it,
latest first, the flags to go back to when it is closed, and its number if it captures. -/
structure Frame where
  branches : List Piece
  pieces : List Piece
  outer : Flags
  number : Option Nat

namespace Frame

/-- The parts after the last bar as one. -/
def sequence (frame : Frame) : Piece :=
  match frame.pieces with
  | [] => ⟨.empty, .empty, 0, false⟩
  | [piece] => piece
  | pieces =>
      { regex := pieces.foldl (fun tail piece => .seq piece.regex tail) .empty
        shape := .ofConcat (pieces.reverse.map Piece.shape)
        depth := (pieces.map Piece.depth).foldl max 0 + 1
        isSwitch := false }

/-- The whole group as one. -/
def total (frame : Frame) : Piece :=
  match frame.branches with
  | [] => frame.sequence
  | branches =>
      let last := frame.sequence
      { regex := branches.foldl (fun tail piece => .alt piece.regex tail) last.regex
        shape := .ofAlternation ((last :: branches).reverse.map Piece.shape)
        depth := (branches.map Piece.depth).foldl max last.depth + 1
        isSwitch := false }

def push (frame : Frame) (piece : Piece) : Frame :=
  { frame with pieces := piece :: frame.pieces }

/-- Adds one character of a set. -/
def pushChars (frame : Frame) (set : CharSet) (depth : Nat) : Frame :=
  frame.push ⟨.char set, .ofSpans set.spans, depth, false⟩

/-- Replaces the last part by its repetition, if there is one to repeat. -/
def repeatLast (frame : Frame) (least : Nat) (most : Option Nat) : Option Frame :=
  match frame.pieces with
  | piece :: rest =>
      if piece.isSwitch then none
      else
        let regex := .repeat piece.regex least most
        let shape := .ofRepeat piece.shape least most
        some { frame with pieces := ⟨regex, shape, piece.depth + 1, false⟩ :: rest }
  | [] => none

end Frame

structure Machine where
  flags : Flags
  names : List String
  /-- How many groups that capture have been opened -/
  groups : Nat
  frame : Frame
  stack : List Frame
  input : List Char

namespace Machine

def start (pattern : List Char) : Machine :=
  ⟨.initial, [], 0, ⟨[], [], .initial, none⟩, [], pattern⟩

/-- Adds an atom; a literal is closed under case where the flags ask for it. -/
def addAtom (machine : Machine) (atom : Atom) (rest : List Char) : Option Machine :=
  let flags := machine.flags
  let add (frame : Frame) : Option Machine := some { machine with frame := frame, input := rest }
  match atom with
  | .literal c => add (machine.frame.pushChars (flags.finish false (.singleton c)) 0)
  | .set chars => (flags.screen chars).bind fun chars => add (machine.frame.pushChars chars 0)
  | .look condition => add (machine.frame.push ⟨.look condition, .look condition, 0, false⟩)

/-- The set that a point matches. -/
def pointSet (flags : Flags) : CharSet :=
  if flags.dotAll then .complement .empty
  else if flags.crlf then .except ['\n', '\r']
  else .except ['\n']

def lineStart (flags : Flags) : Look :=
  if flags.multiLine then (if flags.crlf then .anyLineStart else .lineStart) else .textStart

def lineEnd (flags : Flags) : Look :=
  if flags.multiLine then (if flags.crlf then .anyLineEnd else .lineEnd) else .textEnd

/-- Begins a group.  A group name may stand once in a pattern. -/
def openGroup (machine : Machine) (rest : List Char) : Option Machine := do
  match ← readOpening machine.flags rest with
  | (.switch flags, rest) =>
      let switch : Piece := ⟨.empty, .empty, 0, true⟩
      some { machine with
        flags := flags
        frame := { machine.frame with pieces := switch :: machine.frame.pieces }
        input := rest }
  | (.group flags captures name, rest) =>
      if name.any machine.names.contains then none
      else some {
        flags := flags
        names := name.toList ++ machine.names
        groups := if captures then machine.groups + 1 else machine.groups
        frame := ⟨[], [], machine.flags, if captures then some (machine.groups + 1) else none⟩
        stack := machine.frame :: machine.stack
        input := rest }

/-- Ends the innermost group, if one is open. -/
def closeGroup (machine : Machine) (rest : List Char) : Option Machine :=
  match machine.stack with
  | [] => none
  | parent :: stack =>
      let group := machine.frame.total
      let shape := machine.frame.number.elim group.shape fun number => .group number group.shape
      some { machine with
        flags := machine.frame.outer
        frame := parent.push ⟨group.regex, shape, group.depth + 1, false⟩
        stack := stack
        input := rest }

/-- Ends an alternative of the group under way. -/
def nextBranch (machine : Machine) (rest : List Char) : Machine :=
  let frame := machine.frame
  { machine with
    frame := { frame with branches := frame.sequence :: frame.branches, pieces := [] }
    input := rest }

/-- Repeats the last part.  A question mark right after the operator asks for short matches first,
which makes no difference to whether there is one. -/
def repetition (machine : Machine) (least : Nat) (most : Option Nat) (rest : List Char) :
    Option Machine :=
  let rest :=
    match rest with
    | '?' :: more => more
    | _ => rest
  (machine.frame.repeatLast least most).map fun frame =>
    { machine with frame := frame, input := rest }

/-- One turn of the machine on a character and what follows it. -/
def step (machine : Machine) (c : Char) (rest : List Char) : Option Machine :=
  let flags := machine.flags
  match c with
  | '(' => machine.openGroup rest
  | ')' => machine.closeGroup rest
  | '|' => some (machine.nextBranch rest)
  | '[' => do
      let (set, depth, rest) ← readBracketed flags rest
      some { machine with frame := machine.frame.pushChars set depth, input := rest }
  | '?' => machine.repetition 0 (some 1) rest
  | '*' => machine.repetition 0 none rest
  | '+' => machine.repetition 1 none rest
  | '\x7b' => do
      let ((least, most), rest) ← readBounds flags rest
      machine.repetition least most (flags.skip rest)
  | '\\' => do
      let (atom, rest) ← readEscape flags rest
      machine.addAtom atom rest
  | '.' => if flags.unicode then machine.addAtom (.set (pointSet flags)) rest else none
  | '^' => machine.addAtom (.look (lineStart flags)) rest
  | '$' => machine.addAtom (.look (lineEnd flags)) rest
  | _ => machine.addAtom (.literal c) rest

/-- Runs the machine to the end of the pattern.  Every turn consumes a character. -/
def run : Nat → Machine → Option Machine
  | 0, _ => none
  | fuel + 1, machine =>
      match machine.flags.skip machine.input with
      | [] => some { machine with input := [] }
      | c :: rest => (machine.step c rest).bind (run fuel)

end Machine

/-- The greatest nesting of groups, repetitions, concatenations and alternatives. -/
def nestingLimit : Nat := 250

/-- The regular expression that a pattern stands for. -/
def parse (pattern : String) : Option Regex := do
  let chars := pattern.toList
  let machine ← Machine.run (chars.length + 1) (.start chars)
  let whole := machine.frame.total
  if machine.stack.isEmpty && decide (whole.depth ≤ nestingLimit) && whole.shape.fits then
    some whole.regex
  else none

end CypherExpr.Regex
