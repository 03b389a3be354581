import SmellScan.Nesting
import SmellScan.Smell.Basic

/-!
# Nested callbacks

Closures nested deeper than allowed.
-/

namespace SmellScan.Smell.NestedCallbacks

/-- The lines of a tree that are nested too deeply. -/
def check (tree : SyntaxNode) (config : Config) : List Occurrence :=
  (Nesting.analyze tree config.maxNestingDepth).map fun v =>
    { line := v.line, description :=
      s!"Function nesting exceeds the maximum allowed depth of {config.maxNestingDepth}. " ++
      s!"Current depth: {v.depth}." }

end SmellScan.Smell.NestedCallbacks
