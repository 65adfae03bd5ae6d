import CypherExpr.Regex.Span

/-!
# Character sets as sequences of bytes

The bytes of the characters of a span: a list of sequences, each with a range of bytes at every
place, such that exactly the encodings of the characters are within one of them.  A character is
encoded in one to four bytes: a leading byte and up to three that carry six bits each.
-/

namespace CypherExpr.Regex

/-- An inclusive range of bytes at each place of an encoding. -/
abbrev ByteSequence := List (Nat × Nat)

namespace ByteSequence

/-- The numbers from `low` to `high` by their digits, `places` of them to base 64 after the first:
a partial block at either end, and the whole blocks between as one. -/
def blocks : Nat → Nat → Nat → List ByteSequence
  | 0, low, high => [[(low, high)]]
  | places + 1, low, high =>
      let size := Nat.pow 64 (places + 1)
      let first := low / size
      let final := high / size
      let within (digit low high : Nat) :=
        (blocks places low high).map fun digits => (digit, digit) :: digits
      if first = final then within first (low % size) (high % size)
      else
        let front := if low % size = 0 then [] else within first (low % size) (size - 1)
        let back := if high % size + 1 = size then [] else within final 0 (high % size)
        let start := if low % size = 0 then first else first + 1
        let stop := if high % size + 1 = size then final + 1 else final
        let middle :=
          if start < stop then [(start, stop - 1) :: List.replicate (places + 1) (0, 63)] else []
        front ++ middle ++ back

/-- The classes of code points by the length of their encoding: bounds, bytes after the leading one,
and the mark of the leading byte.  Surrogates are in none. -/
def lengths : List (Span × Nat × Nat) := [
  ((0x00, 0x7F), 0, 0x00), ((0x80, 0x7FF), 1, 0xC0), ((0x800, 0xD7FF), 2, 0xE0),
  ((0xE000, 0xFFFF), 2, 0xE0), ((0x10000, 0x10FFFF), 3, 0xF0)]

/-- Marks the digits of a sequence as leading and following bytes. -/
def mark (leading : Nat) : ByteSequence → ByteSequence
  | [] => []
  | first :: rest =>
      (first.1 + leading, first.2 + leading) :: rest.map fun pair => (pair.1 + 0x80, pair.2 + 0x80)

def ofSpan (span : Span) : List ByteSequence :=
  lengths.flatMap fun (bounds, places, leading) =>
    let low := max span.1 bounds.1
    let high := min span.2 bounds.2
    if low ≤ high then (blocks places low high).map (mark leading) else []

/-- The sequences of a set, in the order of its characters. -/
def ofSpans (spans : List Span) : List ByteSequence := spans.flatMap ofSpan

/-- The bytes of one character. -/
def ofPoint (point : Nat) : List Nat :=
  (ofSpan (point, point)).flatMap fun bytes => bytes.map Prod.fst

end ByteSequence

end CypherExpr.Regex
