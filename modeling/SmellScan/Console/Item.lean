import SmellScan.Console.Markup
import SmellScan.Console.Wrap

/-!
# Items

What is printed on the console, one thing below the other.
-/

namespace SmellScan.Console

/-- Something that is printed on lines of its own. -/
inductive Item where
  /-- A text with markup, wrapped to the width of the console. -/
  | markup (s : String)
  /-- A text that prints as it is, not wrapped. -/
  | plain (s : String)

/-- Lines, each with its line feed. -/
def joinLines (lines : List String) : String :=
  "\n".intercalate lines ++ "\n"

/-- What an item prints. -/
def Item.render : Item → Except MarkupError String
  | .markup s => (Console.render s).map fun shown => joinLines (wrap width shown)
  | .plain s => .ok (joinLines (unwrapped width s))

/-- What items print one after the other. -/
def renderAll : List Item → Except MarkupError String
  | [] => .ok ""
  | item :: rest =>
    match item.render with
    | .error e => .error e
    | .ok s => (renderAll rest).map (s ++ ·)

end SmellScan.Console
