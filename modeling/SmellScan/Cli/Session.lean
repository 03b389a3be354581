import SmellScan.Analysis
import SmellScan.Console.Panel
import SmellScan.Console.Prompt

/-!
# Sessions

A command runs in a session: it prints, asks, and reads and writes files. All of that is a state,
and a command may stop before its end.
-/

namespace SmellScan.Cli

/-- All that a command can change. -/
structure World where
  files : FileSystem
  warnings : List Analysis.Warning := []
  stdout : String := ""
  stderr : String := ""
  /-- The lines of input that are left. -/
  input : List String := []

/-- A fault that no command expects. -/
inductive Crash where
  | file (e : FileError)
  | markup (e : Console.MarkupError)
  | analysis (e : Analysis.Failure)
  /-- The user has no home directory. -/
  | homeless
  deriving DecidableEq, Repr

/-- The text of a crash. -/
def Crash.message : Crash → String
  | .file e => e.message
  | .markup e => e.message
  | .analysis e => e.message
  | .homeless => "Could not determine home directory."

/-- Why a command stops before its end. -/
inductive Stop where
  /-- It has printed what is wrong. -/
  | failed
  /-- The input ended in the middle of a question. -/
  | aborted
  | crashed (crash : Crash)

/-- What a command does. -/
abbrev Session := ExceptT Stop (StateM World)

namespace Session

/-- Puts a text on the output as it is. -/
def put (s : String) : Session Unit :=
  modify fun w => { w with stdout := w.stdout ++ s }

/-- Puts a text on the error output as it is. -/
def putError (s : String) : Session Unit :=
  modify fun w => { w with stderr := w.stderr ++ s }

/-- A rendered text, or a crash if it could not be rendered. -/
def rendered (r : Except Console.MarkupError String) : Session String :=
  match r with
  | .ok s => pure s
  | .error e => throw (.crashed (.markup e))

/-- Prints an item. -/
def print (item : Console.Item) : Session Unit := do
  put (← rendered item.render)

/-- Prints items one after the other. -/
def printAll : List Console.Item → Session Unit
  | [] => pure ()
  | item :: rest => do
    print item
    printAll rest

/-- Prints a text with markup. -/
def say (s : String) : Session Unit :=
  print (.markup s)

/-- Prints an item on the error output. -/
def complain (item : Console.Item) : Session Unit := do
  putError (← rendered item.render)

/-- Prints items on the error output one after the other. -/
def complainAll : List Console.Item → Session Unit
  | [] => pure ()
  | item :: rest => do
    complain item
    complainAll rest

/-- Prints a table. -/
def printTable (t : Console.Table) : Session Unit := do
  put (← rendered t.render)

/-- Asks until an answer is accepted. -/
def ask {α : Type} (p : Console.Prompt α) : Session α := do
  let w ← get
  match p.ask w.input with
  | (shown, some (a, rest)) =>
    set { w with stdout := w.stdout ++ shown, input := rest }
    pure a
  | (shown, none) =>
    set { w with stdout := w.stdout ++ shown, input := [] }
    throw .aborted

/-- Does something with the files that may fail. -/
def onFiles (f : FileSystem → Except FileError FileSystem) : Session Unit := do
  let w ← get
  match f w.files with
  | .ok files => set { w with files }
  | .error e => throw (.crashed (.file e))

/-- Writes a text to a file. -/
def writeFile (path : String) (s : String) : Session Unit :=
  onFiles fun files => files.writeText (Path.ofString path) s

end Session

end SmellScan.Cli
