import SmellScan.Cli.Analyze

/-!
# The menu

Asks what to do, does it, and asks again until the user has had enough. Every round reads at least
one line of input, so the lines of input bound the rounds.
-/

namespace SmellScan.Cli

open Session Console

/-- What can be chosen from the menu. -/
inductive Action where
  | all
  | specific
  | list
  | quit
  deriving DecidableEq, Repr

/-- The menu, in order, with the words for each action. -/
def menu : List (Action × String) :=
  [(.all, "Analyze code for all smells"), (.specific, "Analyze code for specific smells"),
   (.list, "List available code smells"), (.quit, "Exit")]

/-- Lines with numbers, from 1, before them. -/
def numbered (labels : List String) : List Item :=
  (labels.zipIdx 1).map fun (label, n) => .markup s!"  {n}. {label}"

/-- Shows the menu and asks for an action. -/
def chooseAction : Session Action := do
  say "\n[bold]What would you like to do?[/bold]"
  printAll (numbered (menu.map (·.2)))
  let n ← ask (Prompt.number "Choice" menu.length 1)
  pure ((menu[n - 1]?.map (·.1)).getD .quit)

/-- Takes an answer for a path if it exists, or if the system does not take it at all. -/
def acceptPath (files : FileSystem) (answer : String) : Except String (Except FileError Path) :=
  if answer.isEmpty then .error "Path cannot be empty"
  else
    match files.pathExists (Path.ofString answer) with
    | .ok true => .ok (.ok (Path.ofString answer))
    | .ok false => .error "Path does not exist"
    | .error e => .ok (.error e)

/-- Asks for a path that exists. -/
def askPath : Session Path := do
  let w ← get
  let question := "Enter the path to analyze (file or directory)"
  match ← ask (Prompt.text question (acceptPath w.files)) with
  | .ok p => pure p
  | .error e => throw (.crashed (.file e))

/-- The numbers in a list with commas, blank pieces aside. -/
def readNumbers? (answer : String) : Option (List Int) :=
  ((Text.split ',' answer).filter fun part => !Text.allBlank part.toList).mapM Numeral.int?

/-- The smells that an answer picks by number, in order and each once; none if a piece is no number
of a smell or if there is none. -/
def pickSmells? (smells : List Smell) (answer : String) : Option (List Smell) :=
  match readNumbers? answer with
  | none => none
  | some numbers =>
    if numbers.isEmpty || numbers.any fun n => n < 1 || smells.length < n then none
    else
      some (((smells.zipIdx 1).filter fun (_, n) => numbers.contains (n : Int)).map (·.1))

/-- Shows the smells and asks which of them to look for. -/
def askSmells (smells : List Smell) : Session (List String) := do
  say "\n[bold]Select which code smells to detect:[/bold]"
  printAll (numbered (smells.map fun s => s.name ++ ": " ++ s.entry.shownDescription))
  ask (Prompt.text "Numbers (comma-separated)" fun answer =>
    match pickSmells? smells answer with
    | some picked => .ok (picked.map Smell.name)
    | none => .error "You must choose at least one code smell.")

/-- Asks where the report goes and in which format. -/
def askOutput : Session (Option String × Format) := do
  if ← ask (Prompt.confirm "Would you like to save the output to a file?") then
    let output ← ask (Prompt.textOr "Enter the output file path" "report.txt")
    let name ← ask (Prompt.choice "Select output format" (Format.all.map Format.name) "text")
    pure (some output, (Format.ofName? name).getD .text)
  else pure (none, .text)

/-- Asks for all that one analysis is told. -/
def askTask (config : Config) (action : Action) : Session Task := do
  let path ← askPath
  let smells ← if action = .specific then some <$> askSmells Smell.all else pure none
  let kind ← ask (Prompt.choice "What type of report would you like?" ["detailed", "summary"]
    "detailed")
  let (output, format) ← askOutput
  pure { config, path, smells, summary := kind == "summary", format, output }

/-- Runs an analysis; one that fails has said why and does not end the menu. -/
def runTask (s : Surroundings) (t : Task) : Session Unit :=
  tryCatch (runAnalysis s t) fun stop =>
    match stop with
    | .failed => pure ()
    | other => throw other

/-- Does what was chosen. -/
def perform (s : Surroundings) (action : Action) : Session Unit :=
  match action with
  | .list => put (allSmellsText ++ "\n")
  | other => do
    let t ← askTask (← userConfig s) other
    runTask s t

/-- At most so many rounds of the menu. -/
def rounds (s : Surroundings) : Nat → Session Unit
  | 0 => pure ()
  | n + 1 => do
    let action ← chooseAction
    if action = .quit then pure ()
    else
      perform s action
      if ← ask (Prompt.confirm "Would you like to perform another action?") then rounds s n
      else pure ()

/-- The whole menu. -/
def runMenu (s : Surroundings) : Session Unit := do
  let w ← get
  rounds s (w.input.length + 1)
  say "Goodbye!"

end SmellScan.Cli
