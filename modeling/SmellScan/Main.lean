import SmellScan.Cli.Program
import SmellScan.Json.Parser
import SmellScan.Workspace.Snapshot

/-!
# Command line

The program runs on a recorded workspace, given as JSON on standard input: the entries of the file
system under `files`, the answers to prompts under `input`, and the time under `now`. What a command
prints is printed, and the files that it changes are written.
-/

open SmellScan SmellScan.Workspace

/-- The first day of the calendar of the system, for a workspace recorded without a time. -/
def unknownTime : Timestamp := { year := 1970, month := 1, day := 1 }

/-- Runs a command line on a recorded workspace. -/
def runRecorded (home : Option Path) (args : List String) (j : Json) :
    FileSystem × Option Cli.Result :=
  let entries := ((j.get? "files").bind Json.items?).getD []
  let files := fileSystem entries
  let now := ((j.get? "now").bind timestamp?).getD unknownTime
  let input := Cli.inputLines (((j.get? "input").bind Json.str?).getD "")
  let s := { home, host := .usual (parser entries), clock := { now := fun _ => now } }
  (files, Cli.run s args { files, input })

/-- Appends the lines of a log file to the file of that name in a directory. -/
def appendLog (dir : String) (name : String) (lines : List String) : IO Unit := do
  IO.FS.createDirAll dir
  IO.FS.withFile (dir ++ "/" ++ name) .append fun handle => do
    for line in lines do
      handle.putStrLn line

/-- Prints what a command printed and saves what it changed. -/
def saveResult (home : Option Path) (before : FileSystem) (result : Cli.Result) : IO Unit := do
  IO.print result.world.stdout
  IO.eprint result.world.stderr
  for (path, text) in changes before result.world.files do
    IO.FS.writeFile path text
  if let some home := home then
    let dir := (Config.ofHome home).logDir
    for (name, lines) in (RunLog.mk dir).files result.world.files do
      appendLog dir.toString name lines
  match result.crash with
  | some crash => IO.eprintln crash.message
  | none => pure ()

/-- Runs the command line on the workspace recorded on standard input. -/
def main (args : List String) : IO UInt32 := do
  let home := Config.homeDir? ((← IO.getEnv "HOME").getD "")
  let recorded ← (← IO.getStdin).getLine
  match runRecorded home args ((Json.parse recorded).getD .null) with
  | (_, none) => pure Cli.usageExitCode.toUInt32
  | (before, some result) => do
    saveResult home before result
    pure result.exitCode.toUInt32
