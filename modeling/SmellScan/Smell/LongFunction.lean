import SmellScan.CodeBlock
import SmellScan.Smell.Basic

/-!
# Long functions

Functions with too many lines between their first line and their last. The functions of a tree are
met in pre-order, by a worklist.
-/

namespace SmellScan

/-- The functions at or below the nodes of a worklist, in pre-order. -/
def SyntaxNode.functionsFrom : List SyntaxNode → List SyntaxNode
  | [] => []
  | n :: rest =>
    let found := functionsFrom (n.directChildren ++ rest)
    if n.info.kind.isFunction then n :: found else found
termination_by ns => forestSize ns
decreasing_by
  have := forestSize_directChildren n
  simp only [forestSize_append, forestSize]
  omega

/-- The functions of a tree in pre-order. -/
def SyntaxNode.functions (root : SyntaxNode) : List SyntaxNode :=
  functionsFrom [root]

namespace Smell.LongFunction

/-- The lines between the first and the last of a text; one less than none for a single line. -/
def bodyLines (text : String) : Int :=
  (text.toList.count '\n' : Int) - 1

/-- What is reported of one function, if it has too many body lines. -/
def occurrence? (config : Config) (n : SyntaxNode) : Option Occurrence :=
  match n.info.line, n.info.text with
  | some line, some text =>
    if config.maxFunctionLines < bodyLines text then
      let name := CodeBlock.nameOr "Anonymous Function" n.info.name
      some { line, description :=
        s!"Function '{name}' exceeds {config.maxFunctionLines} lines. " ++
        "Consider refactoring it into smaller functions." }
    else none
  | _, _ => none

/-- The functions of a tree with too many body lines. -/
def check (tree : SyntaxNode) (config : Config) : List Occurrence :=
  tree.functions.filterMap (occurrence? config)

end Smell.LongFunction

end SmellScan
