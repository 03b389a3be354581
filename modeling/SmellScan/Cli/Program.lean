import SmellScan.Cli.Menu

/-!
# The program

A command line with what surrounds it, run to its end.
-/

namespace SmellScan.Cli

/-- What a command line leaves behind. -/
structure Result where
  exitCode : Nat
  verbose : Bool
  world : World
  crash : Option Crash

/-- What a command does. -/
def runCommand (s : Surroundings) : Command → Session Unit
  | .analyze a => do runAnalysis s (taskOf (← userConfig s) a)
  | .refused e => throw (.crashed (.file e))
  | .smells output => runSmells output
  | .interactive => runMenu s

/-- The result of a session that ended in a world. -/
def resultOf (verbose : Bool) : Except Stop Unit × World → Result
  | (.ok (), w) => ⟨0, verbose, w, none⟩
  | (.error .failed, w) => ⟨1, verbose, w, none⟩
  | (.error .aborted, w) => ⟨1, verbose, { w with stderr := w.stderr ++ "\nAborted.\n" }, none⟩
  | (.error (.crashed crash), w) => ⟨1, verbose, w, some crash⟩

/-- The exit code of a command line without meaning. -/
def usageExitCode : Nat := 2

/-- Runs a command line; none if it has no meaning. -/
def run (s : Surroundings) (args : List String) (w : World) : Option Result :=
  (readCommandLine args).map fun invocation =>
    resultOf invocation.verbose ((runCommand s invocation.command).run.run w)

/-- The lines of an input, however they end. What follows the last line end is a line only if it is
not empty. -/
def inputLines (s : String) : List String :=
  let ls := Text.lines (String.ofList (Text.universalNewlines s.toList))
  if ls.getLastD "" == "" then ls.dropLast else ls

end SmellScan.Cli
