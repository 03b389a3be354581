import SmellScan.Config
import SmellScan.FileSystem
import SmellScan.PathPattern

/-!
# Finding the files to analyse

A directory is searched with all below it, without entering ignored directories or links to
directories: first its files, then its subdirectories in the order of their names. A directory that
the system does not open is passed over with a warning. A file counts by its extension unless a
pattern excludes its path. The search stops at a pattern that cannot be read, and at a directory so
far down that the host does not let it go on.
-/

namespace SmellScan

/-- The file system with the directories that the program keeps for itself. -/
def Config.ensureDirs (config : Config) (fs : FileSystem) : Except FileError FileSystem := do
  let ready ← fs.makeDirs config.baseDir
  ready.makeDirs config.logDir

namespace Discovery

/-- A path has an allowed extension, and no pattern excludes it. -/
def isAnalyzable (host : Host) (config : Config) (p : Path) : Except PatternFault Bool :=
  if config.allowedExtensions.contains (Text.lower p.suffix) then
    (host.findsPattern p.toString config.excludePatterns).map (!·)
  else .ok false

/-- Why a search stops. -/
inductive SearchFault where
  /-- A pattern cannot be read. -/
  | pattern (fault : PatternFault)
  /-- Directories are nested too deeply to be searched. -/
  | tooDeep
  deriving DecidableEq, Repr

/-- The text of a fault. -/
def SearchFault.message : SearchFault → String
  | .pattern fault => fault.message
  | .tooDeep => Regex.Fault.tooDeep.message ""

/-- What the search of a directory meets. -/
inductive Encounter where
  /-- A file to analyse. -/
  | file (p : Path)
  /-- A directory that the system does not open, by the text with which it is asked for. -/
  | closed (text : String) (fault : FileFault)
  /-- What stops the search. -/
  | stop (fault : SearchFault)
  deriving DecidableEq, Repr

/-- The file that is met. -/
def Encounter.file? : Encounter → Option Path
  | .file p => some p
  | _ => none

/-- The words for a directory that is passed over. -/
def Encounter.warning? : Encounter → Option String
  | .closed text fault => some s!"Error reading directory {text}: {fault.words}"
  | _ => none

/-- What stops the search there. -/
def Encounter.stop? : Encounter → Option SearchFault
  | .stop fault => some fault
  | _ => none

/-- The text with which the system is asked for a path below a target. What lies below the current
directory is asked for with a dot in front. -/
def asked (target p : Path) : String :=
  if target = .here then "./" ++ p.toString else p.toString

/-- The system, asked for a path below a target, tells of a directory. -/
def leadsToDir (fs : FileSystem) (target p : Path) : Bool :=
  match FileSystem.checkText (asked target p) with
  | .error _ => false
  | .ok () =>
    match FileSystem.follow fs.top false FileSystem.maxLinks (fs.start p) p.parts with
    | .ok (.found _ node) => node.isDir
    | _ => false

/-- What stands at a path below a target is a directory or a link to one. -/
def isFolder (fs : FileSystem) (target p : Path) : FileTree → Bool
  | .link _ => leadsToDir fs target p
  | node => node.isDir

section Search

variable (host : Host) (fs : FileSystem) (config : Config) (target : Path)

/-- What is met at a file. -/
def atFile (p : Path) : List Encounter :=
  match isAnalyzable host config p with
  | .ok true => [.file p]
  | .ok false => []
  | .error fault => [.stop (.pattern fault)]

/-- What is met at the files among the entries of a directory that is shown as `shown`. -/
def atFiles (shown : Path) (entries : List (String × FileTree)) : List Encounter :=
  entries.flatMap fun e =>
    if isFolder fs target (shown.child e.1) e.2 then [] else atFile host config (shown.child e.1)

/-- What is met instead of the entries of a directory so many levels below a target, which is asked
for by a text. -/
def atDoor? (text : String) (level : Nat) (isOpen : Bool) : Option Encounter :=
  if host.refusesLevel level then some (.stop .tooDeep)
  else
    match FileSystem.checkText text with
    | .error fault => some (.closed text fault)
    | .ok () => if isOpen then none else some (.closed text .accessDenied)

mutual

/-- What is met in the search of a directory so many levels below a target, which is asked for by a
text and shown as `shown`. A link is passed over, but the search has come to it. -/
def encountersIn (text : String) (shown : Path) (level : Nat) : FileTree → List Encounter
  | .dir entries =>
    match atDoor? host text level true with
    | some e => [e]
    | none =>
      let below := encountersAmong shown level entries
      atFiles host fs config target shown entries ++
        (below.mergeSort fun a b => a.1 ≤ b.1).flatMap Prod.snd
  | .locked node => if node.isDir then (atDoor? host text level false).toList else []
  | .link _ => if host.refusesLevel level then [.stop .tooDeep] else []
  | .file _ => []

/-- What is met in each of the directories among the entries of one, by their names. -/
def encountersAmong (shown : Path) (level : Nat) :
    List (String × FileTree) → List (String × List Encounter)
  | [] => []
  | (name, node) :: rest =>
    let p := shown.child name
    let others := encountersAmong shown level rest
    if isFolder fs target p node && !config.ignoreDirs.contains name then
      (name, encountersIn (asked target p) p (level + 1) node) :: others
    else others

end

/-- What is met in the search of the directory to which a path leads. -/
def encounters : List Encounter :=
  match fs.locate false target with
  | .ok (.found _ node) => encountersIn host fs config target target.toString target 0 node
  | _ => []

/-- The files to analyse below the directory to which a path leads, in the order of paths, unless
something stops the search. -/
def explore : Except SearchFault (List Path) :=
  let met := encounters host fs config target
  match met.findSome? Encounter.stop? with
  | some fault => .error fault
  | none => .ok ((met.filterMap Encounter.file?).mergeSort Path.le)

/-- The words for the directories that are passed over in the search of a target, as far as it
goes. -/
def warnings : List String :=
  ((encounters host fs config target).takeWhile (·.stop?.isNone)).filterMap Encounter.warning?

end Search

/-- Why there is nothing to search. -/
inductive Failure where
  /-- The target does not exist. -/
  | missing (target : Path)
  /-- The target is a file that would not be analysed. -/
  | unsupported (target : Path)
  /-- The system does not take the path of the target. -/
  | refused (e : FileError)
  /-- The search stops before its end. -/
  | search (fault : SearchFault)
  deriving DecidableEq, Repr

/-- The text of a failure. -/
def Failure.message : Failure → String
  | .missing target => s!"Path does not exist: {target.toString}"
  | .unsupported target => (LanguageError.unsupportedTarget target.toString).message
  | .refused e => e.message
  | .search fault => fault.message

/-- The files to analyse for a target, and the root of the report. -/
def discover (host : Host) (fs : FileSystem) (config : Config) (target : Path) :
    Except Failure (List Path × Path) :=
  match fs.find? target with
  | .error e => .error (.refused e)
  | .ok none => .error (.missing target)
  | .ok (some node) =>
    if node.isDir then
      match explore host fs config target with
      | .ok paths => .ok (paths, target)
      | .error fault => .error (.search fault)
    else
      match isAnalyzable host config target with
      | .ok true => .ok ([target], target.parent)
      | .ok false => .error (.unsupported target)
      | .error fault => .error (.search (.pattern fault))

end Discovery

end SmellScan
