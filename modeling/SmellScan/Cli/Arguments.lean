import SmellScan.FileSystem
import SmellScan.Numeric.Numeral
import SmellScan.Report.Format

/-!
# Command lines

The options of the program and of its commands, and the reading of a command line. An option has a
long name, with its value behind an equals sign or in the next argument, or a short name, with its
value right behind it or in the next argument; short names without a value may share a dash. What
follows two dashes is no option. A command line that does not follow these rules has no meaning.
-/

namespace SmellScan.Cli

/-- The options. -/
inductive Key where
  | verbose
  | smell
  | summary
  | list
  | format
  | output
  | maxDepth
  | similarityThreshold
  | minDuplicateLength
  | workers
  deriving DecidableEq, Repr

/-- How an option is written. -/
structure OptionSpec where
  key : Key
  long : String
  short : Option Char := none
  takesValue : Bool := true

/-- The options in front of the command. -/
def programOptions : List OptionSpec :=
  [{ key := .verbose, long := "--verbose", short := some 'v', takesValue := false }]

/-- The options of the analysis. -/
def analyzeOptions : List OptionSpec :=
  [{ key := .smell, long := "--smell", short := some 's' },
   { key := .summary, long := "--summary", takesValue := false },
   { key := .list, long := "--list", takesValue := false },
   { key := .format, long := "--format", short := some 'f' },
   { key := .output, long := "--output", short := some 'o' },
   { key := .maxDepth, long := "--max-depth" },
   { key := .similarityThreshold, long := "--similarity-threshold" },
   { key := .minDuplicateLength, long := "--min-duplicate-length" },
   { key := .workers, long := "--workers" }]

/-- The options of the list of smells. -/
def smellsOptions : List OptionSpec :=
  [{ key := .output, long := "--output", short := some 'o' }]

/-- An option with its value; the value of one that takes none is empty. -/
abbrev Setting := Key × String

/-- Options behind one dash. An option that takes a value takes the rest of the argument or, if
there is none, is left waiting for the next one. -/
def readShort (specs : List OptionSpec) : List Char → Option (List Setting × Option Key)
  | [] => some ([], none)
  | c :: cs =>
    match specs.find? (·.short == some c) with
    | none => none
    | some spec =>
      if spec.takesValue then
        if cs.isEmpty then some ([], some spec.key)
        else some ([(spec.key, String.ofList cs)], none)
      else (readShort specs cs).map fun (settings, waiting) => ((spec.key, "") :: settings, waiting)

/-- An argument that begins with a dash: the options it sets, and the one that waits for the next
argument as its value. -/
def readOption (specs : List OptionSpec) (arg : List Char) : Option (List Setting × Option Key) :=
  let name := String.ofList (arg.takeWhile (· != '='))
  let value := match arg.dropWhile (· != '=') with
    | _ :: value => some (String.ofList value)
    | [] => none
  match specs.find? (·.long == name) with
  | some spec =>
    match spec.takesValue, value with
    | true, some value => some ([(spec.key, value)], none)
    | true, none => some ([], some spec.key)
    | false, none => some ([(spec.key, "")], none)
    | false, some _ => none
  | none =>
    match arg with
    | '-' :: '-' :: _ => none
    | _ :: letters => readShort specs letters
    | [] => none

/-- An argument that is read as an option. -/
def isOption (arg : List Char) : Bool :=
  match arg with
  | '-' :: _ :: _ => true
  | _ => false

/-- The options among arguments and the arguments that are none. Unless they may be mixed, the first
argument that is no option ends the options. -/
def readArguments (specs : List OptionSpec) (mixed : Bool) :
    (waiting : Option Key) → List String → Option (List Setting × List String)
  | some _, [] => none
  | some key, value :: rest =>
    (readArguments specs mixed none rest).map fun (settings, others) =>
      ((key, value) :: settings, others)
  | none, [] => some ([], [])
  | none, arg :: rest =>
    if arg == "--" then some ([], rest)
    else if isOption arg.toList then
      match readOption specs arg.toList with
      | none => none
      | some (settings, waiting) =>
        (readArguments specs mixed waiting rest).map fun (later, others) =>
          (settings ++ later, others)
    else if mixed then
      (readArguments specs mixed none rest).map fun (settings, others) => (settings, arg :: others)
    else some ([], arg :: rest)

/-- The last value set for an option. -/
def lastValue? (settings : List Setting) (key : Key) : Option String :=
  (settings.reverse.find? (·.1 == key)).map (·.2)

/-- An option was set. -/
def isSet (settings : List Setting) (key : Key) : Bool :=
  settings.any (·.1 == key)

/-- The value of an option, if it was set, as `read` takes it. It has no meaning where `read` gives
none. -/
def valueBy {α : Type} (settings : List Setting) (key : Key) (read : String → Option α) :
    Option (Option α) :=
  match lastValue? settings key with
  | none => some none
  | some s => (read s).map some

/-- An integer that is not below `least`. -/
def intFrom (least : Int) (s : String) : Option Int :=
  match Numeral.int? s with
  | some n => if n < least then none else some n
  | none => none

/-- A number that is neither below 0 nor above 1. -/
def share (s : String) : Option Double :=
  match Numeral.double? s with
  | some x => if x.lt .zero || Double.one.lt x then none else some x
  | none => none

/-- What the analysis is told on the command line. -/
structure AnalyzeArguments where
  path : String
  smells : List String
  summary : Bool
  list : Bool
  format : Option Format
  output : Option String
  maxDepth : Option Int
  similarityThreshold : Option Double
  minDuplicateLength : Option Int
  workers : Option Int

/-- A command with what it is told. -/
inductive Command where
  | analyze (arguments : AnalyzeArguments)
  /-- An analysis of a path that cannot be given to the system. -/
  | refused (e : FileError)
  | smells (output : Option String)
  | interactive

/-- The arguments of the analysis. -/
def readAnalyze (args : List String) : Option Command := do
  let (settings, others) ← readArguments analyzeOptions true none args
  let format ← valueBy settings .format Format.ofName?
  let maxDepth ← valueBy settings .maxDepth (intFrom 0)
  let similarityThreshold ← valueBy settings .similarityThreshold share
  let minDuplicateLength ← valueBy settings .minDuplicateLength (intFrom 0)
  let workers ← valueBy settings .workers (intFrom 1)
  match others with
  | [] => none
  | path :: extra =>
    if path.toList.contains '\x00' then some (.refused ⟨.nullCharacter, Path.ofString path⟩)
    else if !extra.isEmpty then none
    else some (.analyze
      { path
        smells := (settings.filter (·.1 == .smell)).map (·.2)
        summary := isSet settings .summary
        list := isSet settings .list
        output := lastValue? settings .output
        format, maxDepth, similarityThreshold, minDuplicateLength, workers })

/-- The arguments of the list of smells. -/
def readSmells (args : List String) : Option Command :=
  match readArguments smellsOptions true none args with
  | some (settings, []) => some (.smells (lastValue? settings .output))
  | _ => none

/-- The arguments of the menu, which takes none. -/
def readInteractive (args : List String) : Option Command :=
  match readArguments [] true none args with
  | some ([], []) => some .interactive
  | _ => none

/-- A whole command line. -/
structure Invocation where
  verbose : Bool
  command : Command

/-- The meaning of a command line, if it has one. -/
def readCommandLine (args : List String) : Option Invocation :=
  match readArguments programOptions false none args with
  | some (settings, name :: rest) =>
    let command :=
      if name == "analyze" then readAnalyze rest
      else if name == "smells" then readSmells rest
      else if name == "interactive" then readInteractive rest
      else none
    command.map fun command => ⟨isSet settings .verbose, command⟩
  | _ => none

end SmellScan.Cli
