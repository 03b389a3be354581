import SmellScan.FileSystem
import SmellScan.SourceUnit
import SmellScan.Timestamp
import SmellScan.Workspace.Rows

/-!
# Recorded workspaces

A file system recorded as a list of entries, some with the parse tree of their text. The parser of a
recorded workspace looks a text up among those of the entries.
-/

namespace SmellScan.Workspace

/-- The value of a digit of base sixteen, in lower case. -/
def hexDigitValue (c : Char) : UInt8 :=
  (if c.isDigit then c.toNat - 0x30 else c.toNat - 0x61 + 10).toUInt8

/-- Bytes from digits of base sixteen. -/
def bytesOfHex : List Char → List UInt8
  | a :: b :: rest => (hexDigitValue a * 16 + hexDigitValue b) :: bytesOfHex rest
  | _ => []

/-- The bytes of a recorded file. -/
def entryBytes? (j : Json) : Option (List UInt8) :=
  match (j.get? "text").bind Json.str?, (j.get? "hex").bind Json.str? with
  | some text, _ => some (Text.encodeUtf8 text.toList)
  | none, some hex => some (bytesOfHex hex.toList)
  | none, none => none

/-- The file system with a recorded entry, and directories for all that leads to it. -/
def addEntry (fs : FileSystem) (j : Json) : Except FileError FileSystem := do
  let p := Path.ofString (((j.get? "path").bind Json.str?).getD "")
  let ready ← fs.makeDirs p.parent
  match entryBytes? j, (j.get? "link").bind Json.str? with
  | some bytes, _ => ready.writeBytes p bytes
  | none, some target => ready.makeEntry p (.link target)
  | none, none => ready.makeDirs p

/-- The file system with recorded entries in its current directory. An entry that cannot be made is
passed over. -/
def addEntries (fs : FileSystem) (entries : List Json) : FileSystem :=
  entries.foldl (fun fs j => (addEntry fs j).toOption.getD fs) fs

/-- The file system of recorded entries. -/
def fileSystem (entries : List Json) : FileSystem :=
  addEntries .fresh entries

/-- The text that reading a recorded file gives, with its recorded tree. -/
def recordedTree? (j : Json) : Option (String × ParseTree) :=
  match entryBytes? j, (j.given? "cst").bind parseTree? with
  | some bytes, some tree =>
    some (String.ofList (Text.universalNewlines (Text.decodeUtf8 bytes)), tree)
  | _, _ => none

/-- The parser that knows the trees of recorded entries. -/
def parser (entries : List Json) : Language → String → ParseTree :=
  let known := entries.filterMap recordedTree?
  fun _ text => (known.lookup text).getD (bareTree text.utf8ByteSize)

/-- The files below the current directory with their texts, by path. A link to a file counts as a
file. -/
def texts (fs : FileSystem) : List (String × String) :=
  fs.listing.filterMap fun (p, _) =>
    match fs.readBytes p with
    | .ok bytes => some (p.toString, String.ofList (Text.decodeUtf8 bytes))
    | .error _ => none

/-- The files that another file system did not have with the same text. -/
def changes (before after : FileSystem) : List (String × String) :=
  let old := texts before
  (texts after).filter fun (path, text) => old.lookup path != some text

/-- A recorded point in time: year, month, day, hour, minute, second, microsecond. -/
def timestamp? (j : Json) : Option Timestamp :=
  match j with
  | .arr [.int year, .int month, .int day, .int hour, .int minute, .int second, .int micro] =>
    some ⟨year.toNat, month.toNat, day.toNat, hour.toNat, minute.toNat, second.toNat, micro.toNat⟩
  | _ => none

end SmellScan.Workspace
