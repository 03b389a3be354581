import SmellScan.Smell.DebuggingCode
import SmellScan.Smell.DuplicateCode
import SmellScan.Smell.EmptyCatch
import SmellScan.Smell.InsecureFileHandling
import SmellScan.Smell.LargeObjects
import SmellScan.Smell.LengthyLines
import SmellScan.Smell.LongFunction
import SmellScan.Smell.LongParameterList
import SmellScan.Smell.MissingDefault
import SmellScan.Smell.NestedCallbacks
import SmellScan.Smell.SensitiveInformation

/-!
# The smells

All smells in report order, each with its name, what it is, how to mend it, and its check. A check
works on the text of a unit or on its tree; without a tree the latter finds nothing.
-/

namespace SmellScan

/-- A smell that is looked for. -/
inductive Smell where
  | lengthyLines
  | longParameterList
  | nestedCallbacks
  | duplicateCode
  | emptyCatch
  | longFunction
  | missingDefault
  | largeObjects
  | sensitiveInformation
  | debuggingCode
  | insecureFileHandling
  deriving DecidableEq, Repr

/-- What a check looks at. -/
inductive Check where
  /-- The text of a unit. -/
  | text (run : SourceUnit → Config → List Occurrence)
  /-- The tree of a unit. -/
  | tree (run : SyntaxNode → Config → List Occurrence)

namespace Smell

/-- Every smell, in report order. -/
def all : List Smell :=
  [.lengthyLines, .longParameterList, .nestedCallbacks, .duplicateCode, .emptyCatch, .longFunction,
   .missingDefault, .largeObjects, .sensitiveInformation, .debuggingCode, .insecureFileHandling]

/-- The name by which a smell is selected and reported. -/
def name : Smell → String
  | .lengthyLines => "Lengthy Lines"
  | .longParameterList => "Long Parameter List"
  | .nestedCallbacks => "Nested Callbacks (Callback Hell)"
  | .duplicateCode => "Duplicate Code"
  | .emptyCatch => "Empty Catch Block"
  | .longFunction => "Long Method/Function"
  | .missingDefault => "Missing Default in Case Statement"
  | .largeObjects => "Large Objects"
  | .sensitiveInformation => "Hard-Coded Sensitive Information"
  | .debuggingCode => "Active Debugging Code"
  | .insecureFileHandling => "Insecure File Handling"

/-- What a smell is. -/
def description : Smell → String
  | .lengthyLines => "Lines longer than the configured warning and error limits."
  | .longParameterList => "Functions declaring more parameters than recommended."
  | .nestedCallbacks => "Functions and callbacks nested deeper than the allowed depth."
  | .duplicateCode =>
    "Functions, methods or arrow functions that are near-copies of each other."
  | .emptyCatch => "catch blocks that are empty or only hold a comment."
  | .longFunction => "Functions, methods and arrow functions with too many body lines."
  | .missingDefault => "switch statements without a default case."
  | .largeObjects => "const object literals declaring too many properties."
  | .sensitiveInformation =>
    "Passwords, keys, tokens or environment lookups written into the source."
  | .debuggingCode => "console.log, console.debug, console.error and alert() calls."
  | .insecureFileHandling =>
    "multer, express-fileupload or busboy uploads accepted without validation."

/-- How to mend a smell. -/
def fix : Smell → String
  | .lengthyLines =>
    "Break lengthy lines into multiple shorter lines or refactor the code for better readability."
  | .longParameterList =>
    "Refactor the function to use a single configuration object for its parameters " ++
    "or split it into smaller, more specific functions."
  | .nestedCallbacks =>
    "Refactor the code to reduce the nesting depth of functions. Consider breaking " ++
    "down the logic into separate functions or using alternatives like Promises or " ++
    "async/await."
  | .duplicateCode =>
    "Consider extracting the duplicated code into a reusable function or component. " ++
    "If the duplicated code has slight variations, parameterize the differences. For " ++
    "class-based duplications, consider using inheritance or composition patterns."
  | .emptyCatch =>
    "Ensure that catch blocks handle the error appropriately, either by logging, " ++
    "rethrowing, or taking other action. Avoid leaving empty catch blocks that could " ++
    "obscure issues."
  | .longFunction =>
    "Refactor large functions by splitting them into smaller, more manageable " ++
    "functions. This improves readability, maintainability, and helps reduce " ++
    "security vulnerabilities."
  | .missingDefault =>
    "Add a default case in the switch statement to handle all potential input values, " ++
    "ensuring proper error handling and preventing undefined behavior."
  | .largeObjects =>
    "Refactor large objects by breaking them into smaller, more manageable objects. " ++
    "This will reduce complexity and make the code easier to maintain and less prone " ++
    "to security vulnerabilities."
  | .sensitiveInformation =>
    "Never hard-code sensitive information like passwords, API keys, or private keys " ++
    "directly in the code. Store them in environment variables or external " ++
    "configuration files and inject secrets at runtime from a secrets manager."
  | .debuggingCode =>
    "Ensure that all debugging statements (console.log, console.debug, console.error, " ++
    "alert) are removed or disabled in production code. Use environment variables to " ++
    "conditionally enable debugging only in non-production environments."
  | .insecureFileHandling =>
    "Validate uploaded files before use: restrict accepted MIME types and extensions, " ++
    "cap file size and count, and sanitize file names before writing them to disk."

/-- The check of a smell. -/
def check : Smell → Check
  | .lengthyLines => .text LengthyLines.check
  | .longParameterList => .text LongParameterList.check
  | .nestedCallbacks => .tree NestedCallbacks.check
  | .duplicateCode => .tree DuplicateCode.check
  | .emptyCatch => .text EmptyCatch.check
  | .longFunction => .tree LongFunction.check
  | .missingDefault => .text MissingDefault.check
  | .largeObjects => .text LargeObjects.check
  | .sensitiveInformation => .text SensitiveInformation.check
  | .debuggingCode => .text DebuggingCode.check
  | .insecureFileHandling => .text InsecureFileHandling.check

/-- The check of a smell needs a tree. -/
def usesTree (s : Smell) : Bool :=
  match s.check with
  | .text _ => false
  | .tree _ => true

/-- The occurrences of a smell in a unit. -/
def occurrences (s : Smell) (unit : SourceUnit) (config : Config) : List Occurrence :=
  match s.check with
  | .text run => run unit config
  | .tree run =>
    match unit.tree with
    | some tree => run tree config
    | none => []

/-- An occurrence as a finding. -/
def finding (s : Smell) (file : String) (o : Occurrence) : Finding :=
  ⟨file, o.line, s.name, o.description, s.fix, o.details⟩

/-- The findings of a smell in a unit. -/
def run (s : Smell) (unit : SourceUnit) (config : Config) : List Finding :=
  (s.occurrences unit config).map (s.finding unit.path)

/-- The smell of a name. -/
def ofName? (s : String) : Option Smell :=
  all.find? (·.name == s)

/-- The smells of the given names, in report order and each once; all of them if no names are
given. An unknown name is the error. -/
def select : Option (List String) → Except String (List Smell)
  | none => .ok all
  | some names =>
    match names.find? fun name => (ofName? name).isNone with
    | some unknown => .error unknown
    | none => .ok (all.filter fun s => names.contains s.name)

end Smell

end SmellScan
