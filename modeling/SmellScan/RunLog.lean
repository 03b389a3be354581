import SmellScan.FileSystem
import SmellScan.Json.Printer
import SmellScan.Timestamp

/-!
# The run log

Events are appended as lines of JSON to files in one directory, one file for each day. An event may
stand for a span of work: it then says how the work ended and how long it took.
-/

namespace SmellScan

/-- Something that happened in a run. -/
structure Event where
  type : String
  data : Json
  file : Option String := none
  /-- How long it took, in milliseconds. -/
  duration : Option Int := none

/-- The readings of the clocks during a piece of work. -/
structure Clock where
  /-- The time of day, each time that it is read. -/
  now : Nat → Timestamp
  /-- The seconds of a steady clock before the work and after it. -/
  started : Double := .zero
  finished : Double := .zero

/-- The whole milliseconds between the two readings. -/
def Clock.milliseconds (clock : Clock) : Int :=
  ((clock.finished.sub clock.started).mul (.ofInt 1000)).truncate?.getD 0

/-- The seconds between the two readings, to three places. -/
def Clock.seconds (clock : Clock) : Double :=
  (clock.finished.sub clock.started).roundPlaces 3

/-- An event at a time, as a value of JSON. -/
def Event.toJson (e : Event) (now : Timestamp) : Json :=
  .obj [("event_type", .str e.type), ("data", e.data), ("file_path", .ofStr? e.file),
    ("duration_ms", .ofInt? e.duration), ("timestamp", .str now.iso)]

/-- Fields with one set, in its place or at the end. -/
def setField (key : String) (value : Json) : List (String × Json) → List (String × Json)
  | [] => [(key, value)]
  | (other, old) :: rest =>
    if other == key then (key, value) :: rest else (other, old) :: setField key value rest

/-- The data of a span of work: what was noted in the course of it, and how it ended. -/
def spanData (notes : List (String × Json)) (error : Option String) : Json :=
  let noted := notes.foldl (fun fields (key, value) => setField key value fields)
    [("status", .str "started")]
  match error with
  | none => .obj (setField "status" (.str "success") noted)
  | some text => .obj (setField "error" (.str text) (setField "status" (.str "error") noted))

/-- The event of a span of work. -/
def Event.span (type : String) (file : Option String) (notes : List (String × Json))
    (error : Option String) (clock : Clock) : Event :=
  { type, data := spanData notes error, file, duration := some clock.milliseconds }

/-- A log that is kept in a directory. -/
structure RunLog where
  dir : Path
  deriving DecidableEq, Repr

namespace RunLog

/-- The name of the log file of a day. -/
def fileName (now : Timestamp) : String :=
  "jsmells-" ++ now.date 1 ++ ".jsonl"

/-- The log file of a day. -/
def file (log : RunLog) (now : Timestamp) : Path :=
  log.dir.child (fileName now)

/-- The file system with the directory of the log. -/
def start (log : RunLog) (fs : FileSystem) : Except FileError FileSystem :=
  fs.makeDirs log.dir

/-- The line of an event at a time, with its line feed. -/
def line (now : Timestamp) (e : Event) : String :=
  (e.toJson now).compact ++ "\n"

/-- The file system with an event of a time appended to the log file of a day. -/
def append (log : RunLog) (stamp day : Timestamp) (fs : FileSystem) (e : Event) :
    Except FileError FileSystem :=
  fs.appendText (log.file day) (line stamp e)

/-- The file system with several events appended, one after the other. The time of day is read twice
for each, first for the event and then for the day. -/
def appendAll (log : RunLog) (now : Nat → Timestamp) (fs : FileSystem) :
    List Event → Except FileError FileSystem
  | [] => .ok fs
  | e :: rest =>
    match log.append (now 0) (now 1) fs e with
    | .ok fs => log.appendAll (fun n => now (n + 2)) fs rest
    | .error error => .error error

/-- The files in the directory of the log by name, each with its lines. -/
def files (log : RunLog) (fs : FileSystem) : List (String × List String) :=
  match fs.find log.dir with
  | .ok node => node.entries.filterMap fun (name, _) =>
    match fs.readText (log.dir.child name) with
    | .ok text => some (name, Text.anyLines text)
    | .error _ => none
  | .error _ => []

end RunLog

end SmellScan
