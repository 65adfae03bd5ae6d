import CypherExpr.Regex.Parser
import CypherExpr.Error

/-!
# Compiled patterns and their cache

A pattern is compiled with anchors around it, so that it has to match a whole text.  The cache keeps
compiled patterns under their texts; when it is full it is emptied before the next pattern is
stored, and with a capacity of zero it stores nothing.
-/

namespace CypherExpr

/-- The pattern between anchors, as one group. -/
def Regex.anchored (pattern : String) : String := "^(?:" ++ pattern ++ ")$"

def Regex.compile (pattern : String) : Result Regex :=
  match Regex.parse (Regex.anchored pattern) with
  | some regex => .ok regex
  | none => .error (.invalidRegex pattern)

/-- A cache of what patterns are compiled to, under their texts. -/
structure PatternCache (Compiled : Type) where
  capacity : Nat
  entries : List (String × Compiled)

namespace PatternCache

variable {Compiled : Type}

def empty (capacity : Nat) : PatternCache Compiled := ⟨capacity, []⟩

def size (cache : PatternCache Compiled) : Nat := cache.entries.length

def find? (cache : PatternCache Compiled) (pattern : String) : Option Compiled :=
  cache.entries.lookup pattern

/-- Stores a compiled pattern, in place of any earlier one under its text. -/
def store (cache : PatternCache Compiled) (pattern : String) (compiled : Compiled) :
    PatternCache Compiled :=
  if cache.capacity = 0 then cache
  else
    let kept := if cache.capacity ≤ cache.size then [] else cache.entries
    { cache with entries := (pattern, compiled) :: kept.filter fun entry => entry.1 != pattern }

/-- Looks a pattern up, or else compiles and stores it.  A pattern that fails is not stored. -/
def compile (compiler : String → Result Compiled) (cache : PatternCache Compiled)
    (pattern : String) : Result Compiled × PatternCache Compiled :=
  match cache.find? pattern with
  | some compiled => (.ok compiled, cache)
  | none =>
      match compiler pattern with
      | .ok compiled => (.ok compiled, cache.store pattern compiled)
      | .error cause => (.error cause, cache)

end PatternCache

/-- A cache of regular expressions. -/
abbrev RegexCache := PatternCache Regex

namespace RegexCache

def empty (capacity : Nat) : RegexCache := PatternCache.empty capacity

def compile (cache : RegexCache) (pattern : String) : Result Regex × RegexCache :=
  PatternCache.compile Regex.compile cache pattern

end RegexCache

end CypherExpr
