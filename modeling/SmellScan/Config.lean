import SmellScan.Language
import SmellScan.Nesting
import SmellScan.Similarity.Match

/-!
# Configuration

The limits of the smells and the rules by which files are found.
-/

namespace SmellScan

/-- Everything that a run can be told. -/
structure Config where
  /-- Where the program keeps its own files. -/
  baseDir : Path
  /-- The greatest depth of closures. -/
  maxNestingDepth : Int := Nesting.defaultMaxDepth
  /-- The score from which on two blocks are near-copies. -/
  similarityThreshold : Double := Similarity.defaultThreshold
  /-- The shortest text of a block that is compared. -/
  minDuplicateLength : Int := Similarity.defaultMinLength
  /-- The greatest length of a line. -/
  maxLineLength : Int := 100
  /-- The length of a line above which it is warned of. -/
  lineLengthWarning : Int := 80
  /-- The greatest number of parameters. -/
  maxParameters : Int := 2
  /-- The greatest number of body lines of a function. -/
  maxFunctionLines : Int := 20
  /-- The number of properties from which on an object is large. -/
  largeObjectProperties : Int := 10
  /-- The extensions of the files that are analysed. -/
  allowedExtensions : List String := Language.extensions
  /-- Patterns of paths that are left out. -/
  excludePatterns : List String :=
    ["\\.min\\.js$", "\\.config\\.js$", "eslint\\.config.*\\.js$", "\\.d\\.ts$"]
  /-- Names of directories that are not entered. -/
  ignoreDirs : List String := [".git", ".next", "build", "coverage", "dist", "node_modules"]
  /-- How many files are analysed at a time; if not given, one for each processor. -/
  workers : Option Int := none

namespace Config

/-- Where the run log is kept. -/
def logDir (config : Config) : Path :=
  config.baseDir.child "logs"

/-- The number of files that are analysed at a time, if one is given. Zero gives none. -/
def workerCount? (config : Config) : Option Int :=
  config.workers.filter (· != 0)

/-- The home directory that is meant by a text. Slashes at its end do not count. A tilde stands for
a home directory itself, so that a text which begins with one says nothing. -/
def homeDir? (home : String) : Option Path :=
  let dir := String.ofList (home.toList.reverse.dropWhile (· == '/')).reverse
  if dir.toList.head? == some '~' then none
  else some (Path.ofString (if dir.isEmpty then "/" else dir))

/-- The configuration of a user, by home directory. -/
def ofHome (home : Path) : Config :=
  { baseDir := home.child ".jsmells" }

end Config

end SmellScan
