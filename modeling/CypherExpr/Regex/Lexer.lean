import CypherExpr.Regex.Basic
import CypherExpr.Regex.PropertyName

/-!
# Lexical parts of patterns

Escapes, counted repetitions, flags, group names and bracketed classes.  Each reader takes the
characters that follow its opening mark and gives what it has read with the rest; it fails where the
pattern is not well formed.
-/

namespace CypherExpr.Regex

/-- The switches that a pattern can set for the rest of a group. -/
structure Flags where
  ignoreCase : Bool
  multiLine : Bool
  dotAll : Bool
  crlf : Bool
  unicode : Bool
  /-- Blanks and comments in the pattern are skipped. -/
  verbose : Bool

def Flags.initial : Flags := ⟨false, false, false, false, true, false⟩

/-- Skips blanks and comments; a comment runs from `#` to the end of its line. -/
def skipNotes (inComment : Bool) : List Char → List Char
  | [] => []
  | c :: rest =>
      if inComment then skipNotes (c != '\n') rest
      else if Text.isBlank c then skipNotes false rest
      else if c == '#' then skipNotes true rest
      else c :: rest

/-- Skips what is not part of the pattern. -/
def Flags.skip (flags : Flags) (chars : List Char) : List Char :=
  if flags.verbose then skipNotes false chars else chars

/-- The next character of a class, beyond blanks and the mark of a comment but not beyond what the
comment says. -/
def Flags.peek (flags : Flags) (chars : List Char) : Option Char :=
  if flags.verbose then
    match chars.dropWhile Text.isBlank with
    | '#' :: rest => (rest.dropWhile Text.isBlank).head?
    | rest => rest.head?
  else chars.head?

/-! ## Numbers -/

/-- The characters up to a closing mark and those after it; blanks are skipped before each. -/
def upTo (flags : Flags) (close : Char) : Nat → List Char → Option (List Char × List Char)
  | 0, _ => none
  | fuel + 1, chars =>
      match flags.skip chars with
      | [] => none
      | c :: rest =>
          if c == close then some ([], rest)
          else (upTo flags close fuel rest).map fun (body, after) => (c :: body, after)

def hexNumber (digits : List Char) : Option Nat :=
  digits.foldl
    (fun total c => total.bind fun n => (Text.Ranges.hexDigit c).map fun d => 16 * n + d) (some 0)

/-- The character with a code point, surrogates excepted. -/
def charOfPoint (point : Nat) : Option Char :=
  if point.isValidChar then some (Char.ofNat point) else none

/-- Exactly `count` characters, blanks skipped before each but the first. -/
def exactly (flags : Flags) : Nat → List Char → Option (List Char × List Char)
  | 0, chars => some ([], chars)
  | 1, c :: rest => some ([c], rest)
  | count + 1, c :: rest =>
      (exactly flags count (flags.skip rest)).map fun (body, after) => (c :: body, after)
  | _ + 1, [] => none

/-- A character by its code point: in braces, or in a fixed number of digits. -/
def readCodePoint (flags : Flags) (digits : Nat) (chars : List Char) :
    Option (Char × List Char) := do
  let (body, rest) ←
    match flags.skip chars with
    | '\x7b' :: more => upTo flags '\x7d' (more.length + 1) more
    | more => exactly flags digits more
  if body.isEmpty then none
  else
    let point ← hexNumber body
    let c ← charOfPoint point
    some (c, flags.skip rest)

/-- Decimal digits, with blanks skipped between them where the pattern is verbose. -/
def takeDigits (flags : Flags) : Nat → List Char → List Char × List Char
  | 0, chars => ([], chars)
  | fuel + 1, chars =>
      match chars with
      | c :: rest =>
          if c.isDigit then
            let (digits, after) := takeDigits flags fuel (flags.skip rest)
            (c :: digits, after)
          else ([], chars)
      | [] => ([], [])

/-- A repetition count: digits between blanks, at most 32 bits.  The count is `none` where there are
no digits. -/
def readCount (flags : Flags) (chars : List Char) : Option (Option Nat × List Char) :=
  let (digits, rest) := takeDigits flags (chars.length + 1) (chars.dropWhile Text.isBlank)
  let rest := flags.skip (rest.dropWhile Text.isBlank)
  let count := digits.foldl (fun total c => 10 * total + (c.toNat - '0'.toNat)) 0
  if digits.isEmpty then some (none, rest)
  else if count < UInt32.size then some (some count, rest)
  else none

/-- The bounds of a counted repetition, after its opening brace and up to the closing one. -/
def readBounds (flags : Flags) (chars : List Char) :
    Option ((Nat × Option Nat) × List Char) := do
  let (least, rest) ← readCount flags (flags.skip chars)
  let least ← least
  match rest with
  | ',' :: more =>
      match flags.skip more with
      | '\x7d' :: after => some ((least, none), after)
      | [] => none
      | more =>
          let (most, after) ← readCount flags more
          let most ← most
          match after with
          | '\x7d' :: after => if least ≤ most then some ((least, some most), after) else none
          | _ => none
  | '\x7d' :: after => some ((least, some least), after)
  | _ => none

/-! ## Escapes -/

/-- One unit of a pattern that stands for a character or a position. -/
inductive Atom where
  | literal (c : Char)
  | set (set : CharSet)
  | look (look : Look)

/-- The characters with a meaning of their own in patterns. -/
def isMeta (c : Char) : Bool :=
  "\\.+*?()|[]\x7b\x7d^$#&-~".toList.contains c

/-- Whether a backslash may stand before the character to no effect. -/
def isEscapable (c : Char) : Bool :=
  isMeta c || (decide (c.toNat < 128) && !c.isAlphanum && c != '<' && c != '>')

/-- Closes a set under case where the flags ask for it, then complements it. -/
def Flags.finish (flags : Flags) (negated : Bool) (set : CharSet) : CharSet :=
  let folded :=
    if flags.ignoreCase then (if flags.unicode then .caseless set else .asciiCaseless set) else set
  if negated then .complement folded else folded

/-- A set that has to be within ASCII unless the pattern is in Unicode. -/
def Flags.screen (flags : Flags) (set : CharSet) : Option CharSet :=
  if flags.unicode || set.isAscii then some set else none

/-- The set of a class letter such as `\d`. -/
def letterClass (flags : Flags) (letter : Char) : Option CharSet :=
  let pick (unicode ascii : CharSet) := if flags.unicode then unicode else ascii
  match letter with
  | 'd' => some (pick .digits .asciiDigits)
  | 's' => some (pick .blanks .asciiBlanks)
  | 'w' => some (pick .wordChars .asciiWordChars)
  | 'D' => some (.complement (pick .digits .asciiDigits))
  | 'S' => some (.complement (pick .blanks .asciiBlanks))
  | 'W' => some (.complement (pick .wordChars .asciiWordChars))
  | _ => none

/-- Splits a list at the first place where `mark` stands. -/
def splitAt? (mark : List Char) : List Char → Option (List Char × List Char)
  | [] => none
  | c :: rest =>
      if mark.isPrefixOf (c :: rest) then some ([], (c :: rest).drop mark.length)
      else (splitAt? mark rest).map fun (front, back) => (c :: front, back)

/-- The set that the text between the braces of `\p` names.  The three signs between a property and
its value mean the same. -/
def propertySet (body : List Char) : Option CharSet :=
  let pair (front back : List Char) := valueSet (String.ofList front) (String.ofList back)
  match splitAt? ['!', '='] body with
  | some (front, back) => pair front back
  | none =>
      match splitAt? [':'] body with
      | some (front, back) => pair front back
      | none =>
          match splitAt? ['='] body with
          | some (front, back) => pair front back
          | none => namedSet (String.ofList body)

/-- A property class, after its letter `p` or `P`. -/
def readProperty (flags : Flags) (negated : Bool) (chars : List Char) :
    Option (CharSet × List Char) := do
  let (set, rest) ←
    match flags.skip chars with
    | [] => none
    | '\\' :: _ => none
    | '\x7b' :: more =>
        let (body, rest) ← upTo flags '\x7d' (more.length + 1) more
        (propertySet body).map fun set => (set, rest)
    | c :: more =>
        (categorySet (looseName (String.singleton c))).map fun set => (set, flags.skip more)
  if flags.unicode then some (flags.finish negated set, rest) else none

/-- Whether the character can stand in the name of a word boundary. -/
def isBoundaryChar (c : Char) : Bool := c.isAlpha || c == '-'

/-- The letters of a boundary name, with blanks skipped in verbose patterns. -/
def takeBoundaryName (flags : Flags) : Nat → List Char → List Char × List Char
  | 0, chars => ([], chars)
  | fuel + 1, chars =>
      match chars with
      | c :: rest =>
          if isBoundaryChar c then
            let (name, after) := takeBoundaryName flags fuel (flags.skip rest)
            (c :: name, after)
          else ([], chars)
      | [] => ([], [])

/-- What follows `\b`: a boundary name in braces, or anything else, which is left unread. -/
def readBoundary (flags : Flags) (chars : List Char) : Option (Look × List Char) :=
  let pick (unicode ascii : Look) := if flags.unicode then unicode else ascii
  let plain := (pick .wordBoundary .asciiWordBoundary, chars)
  match chars with
  | '\x7b' :: more =>
      match flags.skip more with
      | [] => none
      | c :: rest =>
          if !isBoundaryChar c then some plain
          else
            let (name, after) := takeBoundaryName flags (rest.length + 2) (c :: rest)
            let kind :=
              match String.ofList name with
              | "start" => some (pick .wordStart .asciiWordStart)
              | "end" => some (pick .wordEnd .asciiWordEnd)
              | "start-half" => some (pick .wordStartHalf .asciiWordStartHalf)
              | "end-half" => some (pick .wordEndHalf .asciiWordEndHalf)
              | _ => none
            match after with
            | '\x7d' :: after => kind.map fun boundary => (boundary, after)
            | _ => none
  | _ => some plain

/-- An escape, after its backslash. -/
def readEscape (flags : Flags) : List Char → Option (Atom × List Char)
  | [] => none
  | c :: rest =>
      let pick (unicode ascii : Look) := if flags.unicode then unicode else ascii
      match c with
      | 'x' =>
          (readCodePoint flags 2 rest).bind fun (c, after) =>
            if flags.unicode || decide (c.toNat < 128) ||
                (flags.skip rest).head? == some '\x7b' then
              some (.literal c, after)
            else none
      | 'u' => (readCodePoint flags 4 rest).map fun (c, rest) => (.literal c, rest)
      | 'U' => (readCodePoint flags 8 rest).map fun (c, rest) => (.literal c, rest)
      | 'p' => (readProperty flags false rest).map fun (set, rest) => (.set set, rest)
      | 'P' => (readProperty flags true rest).map fun (set, rest) => (.set set, rest)
      | 'a' => some (.literal '\x07', rest)
      | 'f' => some (.literal '\x0c', rest)
      | 't' => some (.literal '\t', rest)
      | 'n' => some (.literal '\n', rest)
      | 'r' => some (.literal '\r', rest)
      | 'v' => some (.literal '\x0b', rest)
      | 'A' => some (.look .textStart, rest)
      | 'z' => some (.look .textEnd, rest)
      | 'b' => (readBoundary flags rest).map fun (boundary, rest) => (.look boundary, rest)
      | 'B' => some (.look (pick .notWordBoundary .asciiNotWordBoundary), rest)
      | '<' => some (.look (pick .wordStart .asciiWordStart), rest)
      | '>' => some (.look (pick .wordEnd .asciiWordEnd), rest)
      | _ =>
          match letterClass flags c with
          | some set => (flags.screen set).map fun set => (.set set, rest)
          | none => if isEscapable c then some (.literal c, rest) else none

/-! ## Bracketed classes -/

/-- The operations between the parts of a class. -/
inductive SetOp where
  | intersection
  | difference
  | symmetricDifference

def SetOp.apply (flags : Flags) (op : SetOp) (left right : CharSet) : CharSet :=
  let left := flags.finish false left
  let right := flags.finish false right
  match op with
  | .intersection => .intersection left right
  | .difference => .difference left right
  | .symmetricDifference => .symmetricDifference left right

/-- A part of a class with the depth of its nesting. -/
structure ClassPart where
  set : CharSet
  depth : Nat

/-- A class under way: the operation that waits for its right side, and the items so far. -/
structure OpenClass where
  pending : Option (SetOp × ClassPart)
  items : List ClassPart

namespace OpenClass

def add (state : OpenClass) (part : ClassPart) : OpenClass :=
  { state with items := part :: state.items }

def addSet (state : OpenClass) (set : CharSet) : OpenClass := state.add ⟨set, 0⟩

/-- The items as one.  Several items nest one deeper than each of them. -/
def gathered (state : OpenClass) : ClassPart :=
  match state.items with
  | [] => ⟨.empty, 0⟩
  | [part] => part
  | parts =>
      { set := parts.foldr (fun part set => .union set part.set) .empty
        depth := (parts.map ClassPart.depth).foldl max 0 + 1 }

/-- Everything read so far as one. -/
def total (flags : Flags) (state : OpenClass) : ClassPart :=
  let right := state.gathered
  match state.pending with
  | some (op, left) => ⟨op.apply flags left.set right.set, max left.depth right.depth + 1⟩
  | none => right

def operate (flags : Flags) (state : OpenClass) (op : SetOp) : OpenClass :=
  ⟨some (op, state.total flags), []⟩

end OpenClass

/-- Leading hyphens of a class are literal. -/
def takeHyphens (flags : Flags) (state : OpenClass) : Nat → List Char → OpenClass × List Char
  | 0, chars => (state, chars)
  | fuel + 1, chars =>
      match chars with
      | '-' :: rest => takeHyphens flags (state.addSet (.singleton '-')) fuel (flags.skip rest)
      | _ => (state, chars)

/-- A class after its opening bracket: whether it is negated, the items that are literal only at
the start, and the rest. -/
def openClass (flags : Flags) (chars : List Char) : Bool × OpenClass × List Char :=
  let chars := flags.skip chars
  let (negated, chars) :=
    match chars with
    | '^' :: rest => (true, flags.skip rest)
    | _ => (false, chars)
  let start : OpenClass := ⟨none, []⟩
  match chars with
  | ']' :: rest => (negated, start.addSet (.singleton ']'), flags.skip rest)
  | _ =>
      let (state, rest) := takeHyphens flags start (chars.length + 1) chars
      (negated, state, rest)

/-- A named class, after its opening bracket and colon; `none` where there is none. -/
def readPosix (flags : Flags) (chars : List Char) : Option (CharSet × List Char) :=
  let (negated, chars) :=
    match chars with
    | '^' :: rest => (true, rest)
    | _ => (false, chars)
  match splitAt? [':'] chars with
  | some (name, ']' :: rest) =>
      (CharSet.posixClass (String.ofList name)).map fun set => (flags.finish negated set, rest)
  | _ => none

/-- One character or escape of a class.  Without Unicode a class holds ASCII characters only. -/
def readClassAtom (flags : Flags) : List Char → Option (Atom × List Char)
  | [] => none
  | '\\' :: rest => do
      let (atom, rest) ← readEscape flags rest
      match atom with
      | .literal c => if flags.unicode || decide (c.toNat < 128) then some (atom, rest) else none
      | _ => some (atom, rest)
  | c :: rest => if flags.unicode || decide (c.toNat < 128) then some (.literal c, rest) else none

def Atom.asSet : Atom → Option CharSet
  | .literal c => some (.singleton c)
  | .set chars => some chars
  | .look _ => none

/-- A single item or a range of a class. -/
def readClassItem (flags : Flags) (chars : List Char) : Option (CharSet × List Char) := do
  let (first, rest) ← readClassAtom flags chars
  let rest := flags.skip rest
  match rest with
  | '-' :: more =>
      let ahead := flags.peek more
      if ahead == some ']' || ahead == some '-' then first.asSet.map fun set => (set, rest)
      else
        let (last, rest) ← readClassAtom flags (flags.skip more)
        match first, last with
        | .literal low, .literal high =>
            if low ≤ high then some (.ofPairs [(low.toNat, high.toNat)], rest) else none
        | _, _ => none
  | [] => none
  | _ => first.asSet.map fun set => (set, rest)

/-- The items of a class up to its closing bracket.  Every turn consumes a character. -/
def readClass (flags : Flags) : Nat → OpenClass → List Char → Option (ClassPart × List Char)
  | 0, _, _ => none
  | fuel + 1, state, chars =>
      match flags.skip chars with
      | [] => none
      | ']' :: rest => some (state.total flags, rest)
      | '&' :: '&' :: rest => readClass flags fuel (state.operate flags .intersection) rest
      | '-' :: '-' :: rest => readClass flags fuel (state.operate flags .difference) rest
      | '~' :: '~' :: rest => readClass flags fuel (state.operate flags .symmetricDifference) rest
      | '[' :: rest =>
          let posix :=
            match rest with
            | ':' :: name => readPosix flags name
            | _ => none
          match posix with
          | some (set, after) =>
              (flags.screen set).bind fun set => readClass flags fuel (state.addSet set) after
          | none =>
              let (negated, inner, body) := openClass flags rest
              match readClass flags fuel inner body with
              | some (part, after) =>
                  (flags.screen (flags.finish negated part.set)).bind fun set =>
                    readClass flags fuel (state.add ⟨set, part.depth + 1⟩) after
              | none => none
      | chars =>
          match readClassItem flags chars with
          | some (set, after) => readClass flags fuel (state.addSet set) after
          | none => none

/-- A whole class with the depth of its nesting, after its opening bracket. -/
def readBracketed (flags : Flags) (chars : List Char) : Option (CharSet × Nat × List Char) := do
  let (negated, state, body) := openClass flags chars
  let (part, rest) ← readClass flags (2 * chars.length + 2) state body
  let set ← flags.screen (flags.finish negated part.set)
  some (set, part.depth + 1, rest)

/-! ## Groups -/

/-- Whether the character can stand in a group name. -/
def isNameChar (first : Bool) (c : Char) : Bool :=
  c == '_' || Text.isAlphabetic c
    || (!first && (c == '.' || c == '[' || c == ']' || Text.isNumeric c))

/-- A group name up to its closing bracket. -/
def readName (chars : List Char) : Option (String × List Char) :=
  match splitAt? ['>'] chars with
  | some (first :: others, rest) =>
      if isNameChar true first && others.all (isNameChar false) then
        some (String.ofList (first :: others), rest)
      else none
  | _ => none

/-- Sets the switch of a flag letter. -/
def Flags.set (flags : Flags) (letter : Char) (on : Bool) : Option Flags :=
  match letter with
  | 'i' => some { flags with ignoreCase := on }
  | 'm' => some { flags with multiLine := on }
  | 's' => some { flags with dotAll := on }
  | 'R' => some { flags with crlf := on }
  | 'u' => some { flags with unicode := on }
  | 'x' => some { flags with verbose := on }
  | 'U' => some flags
  | _ => none

/-- Flag letters up to a colon or a closing parenthesis, which is left unread.  `on` is `false`
after a hyphen; `seen` holds the letters and the hyphen already read, each of which may stand once.
-/
def readFlags (flags : Flags) (on : Bool) (seen : List Char) :
    List Char → Option (Flags × List Char)
  | [] => none
  | c :: rest =>
      if c == ':' || c == ')' then
        if seen.head? == some '-' then none else some (flags, c :: rest)
      else if seen.contains c then none
      else if c == '-' then readFlags flags false ('-' :: seen) rest
      else
        match flags.set c on with
        | some changed => readFlags changed on (c :: seen) rest
        | none => none

/-- What an opening parenthesis begins. -/
inductive Opening where
  /-- Flags for the rest of the group around it -/
  | switch (flags : Flags)
  | group (flags : Flags) (captures : Bool) (name : Option String)

/-- The start of a group, after its parenthesis.  Look-around is not supported. -/
def readOpening (flags : Flags) (chars : List Char) : Option (Opening × List Char) :=
  match flags.skip chars with
  | '?' :: '=' :: _ | '?' :: '!' :: _ | '?' :: '<' :: '=' :: _ | '?' :: '<' :: '!' :: _ => none
  | '?' :: 'P' :: '<' :: rest | '?' :: '<' :: rest =>
      (readName rest).map fun (name, rest) => (.group flags true (some name), rest)
  | '?' :: rest =>
      match readFlags flags true [] rest with
      | some (changed, ')' :: after) =>
          if rest.head? == some ')' then none else some (.switch changed, after)
      | some (changed, _ :: after) => some (.group changed false none, after)
      | _ => none
  | rest => some (.group flags true none, rest)

end CypherExpr.Regex
