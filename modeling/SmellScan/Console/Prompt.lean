import SmellScan.Numeric.Numeral
import SmellScan.Text.Case

/-!
# Prompts

A question, asked again until an answer is accepted. The question shows the answers to choose from
and the one that an empty line stands for.
-/

namespace SmellScan.Console

/-- A question with a way to read the answer, which either accepts it or says what is wrong. -/
structure Prompt (α : Type) where
  question : String
  accept : String → Except String α

/-- What asking shows, and the accepted answer with the lines that are left, if there is one before
the input ends. -/
def Prompt.ask {α : Type} (p : Prompt α) : List String → String × Option (α × List String)
  | [] => (p.question, none)
  | line :: rest =>
    match p.accept line with
    | .ok a => (p.question, some (a, rest))
    | .error complaint =>
      let (shown, answer) := p.ask rest
      (p.question ++ complaint ++ "\n" ++ shown, answer)

namespace Prompt

/-- A question with its choices and its default. -/
def questionText (question : String) (choices : List String) (default : Option String) : String :=
  question ++ (if choices.isEmpty then "" else " [" ++ "/".intercalate choices ++ "]") ++
    (match default with | some d => " (" ++ d ++ ")" | none => "") ++ ": "

/-- An answer without blanks around it. -/
def stripped (line : String) : String :=
  String.ofList (Text.trim line.toList)

/-- Any text; what it has to be is up to `accept`. -/
def text {α : Type} (question : String) (accept : String → Except String α) : Prompt α :=
  ⟨questionText question [] none, fun line => accept (stripped line)⟩

/-- Any text, an empty line standing for the default. -/
def textOr (question default : String) : Prompt String :=
  ⟨questionText question [] (some default), fun line =>
    .ok (if line.isEmpty then default else stripped line)⟩

/-- One of several texts, an empty line standing for the default. -/
def choice (question : String) (choices : List String) (default : String) : Prompt String :=
  ⟨questionText question choices (some default), fun line =>
    let answer := stripped line
    if line.isEmpty then .ok default
    else if choices.contains answer then .ok answer
    else .error "Please select one of the available options"⟩

/-- A number from 1 to `count`, an empty line standing for the default. -/
def number (question : String) (count default : Nat) : Prompt Nat :=
  let choices := (List.range count).map fun i => toString (i + 1)
  ⟨questionText question choices (some (toString default)), fun line =>
    let answer := stripped line
    if line.isEmpty then .ok default
    else
      match Numeral.int? answer with
      | none => .error "Please enter a valid integer number"
      | some n =>
        if choices.contains answer then .ok n.toNat
        else .error "Please select one of the available options"⟩

/-- Yes or no, an empty line standing for no. -/
def confirm (question : String) : Prompt Bool :=
  ⟨questionText question ["y", "n"] (some "n"), fun line =>
    let answer := Text.lower (stripped line)
    if line.isEmpty then .ok false
    else if answer == "y" then .ok true
    else if answer == "n" then .ok false
    else .error "Please enter Y or N"⟩

end Prompt

end SmellScan.Console
