import CypherExpr.Function.Standard
import CypherExpr.Graph.Store

/-!
# Engines

What evaluation needs besides the expression and its context: the functions, the graph that answers
patterns, and limits.
-/

namespace CypherExpr

structure Options where
  /-- The greatest depth of nested expressions. -/
  maxDepth : Nat
  /-- How many compiled patterns are kept. -/
  regexCapacity : Nat
  deriving DecidableEq

def Options.standard : Options := ⟨512, 64⟩

structure Engine where
  registry : Registry
  graph : Option PathSource
  options : Options

namespace Engine

def standard : Engine := ⟨Standard.registry, none, .standard⟩

def withRegistry (registry : Registry) : Engine := ⟨registry, none, .standard⟩

def register (engine : Engine) (function : Function) : Engine :=
  { engine with registry := engine.registry.register function }

def withGraph (engine : Engine) (graph : PathSource) : Engine :=
  { engine with graph := some graph }

def withOptions (engine : Engine) (options : Options) : Engine := { engine with options := options }

end Engine

end CypherExpr
