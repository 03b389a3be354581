import SmellScan.FileTree
import SmellScan.Text.Quoted
import SmellScan.Text.Utf8

/-!
# File systems

A tree with a current directory, and what can be done by path. A path is followed component by
component: a link is followed where it stands, a double dot leads to the directory above, and what
is walked through has to be a directory that may be opened. The system sets limits to the length of
a name, to that of a path, and to the number of links on the way.
-/

namespace SmellScan

/-- Why a path cannot be used. -/
inductive FileFault where
  /-- A component of the path does not exist. -/
  | notFound
  /-- What is to be opened may not be. -/
  | accessDenied
  /-- Something with the name exists. -/
  | alreadyExists
  /-- A component that is walked through is no directory. -/
  | notDirectory
  /-- The path leads to a directory. -/
  | isDirectory
  /-- A component of the path, or the path as a whole, is too long. -/
  | nameTooLong
  /-- The path leads through too many links. -/
  | tooManyLinks
  /-- The path holds the character that ends a text for the system. -/
  | nullCharacter
  deriving DecidableEq, Repr

/-- A fault with the path at which it arose. -/
structure FileError where
  fault : FileFault
  path : Path
  deriving DecidableEq, Repr

/-- The number and the words of the system for a fault. The null character never reaches the system,
so it has no number. -/
def FileFault.code? : FileFault → Option (Nat × String)
  | .notFound => some (2, "No such file or directory")
  | .accessDenied => some (13, "Permission denied")
  | .alreadyExists => some (17, "File exists")
  | .notDirectory => some (20, "Not a directory")
  | .isDirectory => some (21, "Is a directory")
  | .nameTooLong => some (36, "File name too long")
  | .tooManyLinks => some (40, "Too many levels of symbolic links")
  | .nullCharacter => none

/-- The words for a fault. -/
def FileFault.words (fault : FileFault) : String :=
  match fault.code? with
  | some (_, words) => words
  | none => "embedded null byte"

/-- The text of a file error. -/
def FileError.message (e : FileError) : String :=
  match e.fault.code? with
  | some (number, words) =>
    let shown := Text.quoted e.path.toString
    s!"[Errno {number}] {words}: {shown}"
  | none => e.fault.words

/-- Where a path leads. -/
inductive Spot where
  /-- To something that exists. -/
  | found (place : List String) (node : FileTree)
  /-- To a free name in a directory that exists. -/
  | vacant (place : List String) (name : String)

/-- A tree with a current directory. -/
structure FileSystem where
  top : FileTree
  /-- The place of the current directory. -/
  here : List String

namespace FileSystem

/-- A file system with nothing in it but the current directory. -/
def fresh : FileSystem := ⟨.dir [("work", .empty)], ["work"]⟩

/-- How many links are followed on the way to a file. -/
def maxLinks : Nat := 40

/-- The greatest length of a name, in bytes. -/
def maxNameBytes : Nat := 255

/-- The greatest length of a path, in bytes. -/
def maxPathBytes : Nat := 4095

/-- The components through which the target of a link leads. A slash at the end is an empty
component of its own: what is before it has to be a directory. -/
def targetParts (target : String) : List String :=
  (Text.split '/' target).filter (· != "") ++ (if target.endsWith "/" then [""] else [])

/-- Where the target of a link begins that stands in the directory at `place`. -/
def targetStart (place : List String) (target : String) : List String :=
  if target.startsWith "/" then [] else place

/-- Follows the components `todo` from the directory at `place`. If a file is to be made there, a
slash behind its name is a fault. -/
def follow (top : FileTree) (making : Bool) (links : Nat) (place todo : List String) :
    Except FileFault Spot :=
  match todo with
  | [] =>
    match top.at? place with
    | some node => .ok (.found place node)
    | none => .error .notFound
  | name :: rest =>
    match top.at? place with
    | some (.dir entries) =>
      if name == "" || name == "." then follow top making links place rest
      else if name == ".." then follow top making links place.dropLast rest
      else if making && rest == [""] then .error .isDirectory
      else if maxNameBytes < name.utf8ByteSize then .error .nameTooLong
      else
        match entries.lookup name with
        | none => if rest.isEmpty then .ok (.vacant place name) else .error .notFound
        | some (.link target) =>
          match links with
          | 0 => .error .tooManyLinks
          | links + 1 =>
            follow top making links (targetStart place target) (targetParts target ++ rest)
        | some _ => follow top making links (place ++ [name]) rest
    | some (.locked node) => .error (if node.isDir then .accessDenied else .notDirectory)
    | some _ => .error .notDirectory
    | none => .error .notFound
termination_by (links, todo.length)

/-- A text that can be given to the system as a path. -/
def checkText (s : String) : Except FileFault Unit :=
  if s.toList.contains '\x00' then .error .nullCharacter
  else if maxPathBytes < s.utf8ByteSize then .error .nameTooLong
  else .ok ()

/-- A path that can be given to the system. -/
def checkPath (p : Path) : Except FileFault Unit :=
  checkText p.toString

/-- Where a path begins. -/
def start (fs : FileSystem) (p : Path) : List String :=
  if p.root == "" then fs.here else []

/-- Where a path leads. -/
def locate (fs : FileSystem) (making : Bool) (p : Path) : Except FileFault Spot :=
  match checkPath p with
  | .error fault => .error fault
  | .ok () => follow fs.top making maxLinks (fs.start p) p.parts

/-- What a path leads to. -/
def find (fs : FileSystem) (p : Path) : Except FileFault FileTree :=
  match fs.locate false p with
  | .ok (.found _ node) => .ok node
  | .ok (.vacant ..) => .error .notFound
  | .error fault => .error fault

/-- What a path leads to, if it leads anywhere. Only a name that is too long and a directory that
may not be walked through are errors here. -/
def find? (fs : FileSystem) (p : Path) : Except FileError (Option FileTree) :=
  match fs.find p with
  | .ok node => .ok (some node)
  | .error .nameTooLong => .error ⟨.nameTooLong, p⟩
  | .error .accessDenied => .error ⟨.accessDenied, p⟩
  | .error _ => .ok none

/-- A path leads to something. -/
def pathExists (fs : FileSystem) (p : Path) : Except FileError Bool :=
  (fs.find? p).map Option.isSome

/-- A path leads to a directory. -/
def isDir (fs : FileSystem) (p : Path) : Except FileError Bool :=
  (fs.find? p).map (·.any FileTree.isDir)

/-- The bytes of the file to which a path leads. -/
def readBytes (fs : FileSystem) (p : Path) : Except FileError (List UInt8) :=
  match fs.find p with
  | .ok (.file bytes) => .ok bytes
  | .ok (.locked _) => .error ⟨.accessDenied, p⟩
  | .ok _ => .error ⟨.isDirectory, p⟩
  | .error fault => .error ⟨fault, p⟩

/-- The text of the file to which a path leads: bytes that are no characters are replaced, and every
line end becomes a line feed. -/
def readText (fs : FileSystem) (p : Path) : Except FileError String :=
  (fs.readBytes p).map fun bytes =>
    String.ofList (Text.universalNewlines (Text.decodeUtf8 bytes))

/-- The file system with a node at a place whose directory exists. -/
def setAt (fs : FileSystem) (place : List String) (node : FileTree) : FileSystem :=
  { fs with top := fs.top.setAt place node }

/-- The file system with a file changed at a path, through links if there are any. A file that does
not exist is made; the change is then that of an empty one. -/
def updateFile (fs : FileSystem) (p : Path) (change : List UInt8 → List UInt8) :
    Except FileError FileSystem :=
  match fs.locate true p with
  | .ok (.found place (.file bytes)) => .ok (fs.setAt place (.file (change bytes)))
  | .ok (.found _ node) => .error ⟨if node.isDir then .isDirectory else .accessDenied, p⟩
  | .ok (.vacant place name) => .ok (fs.setAt (place ++ [name]) (.file (change [])))
  | .error fault => .error ⟨fault, p⟩

/-- The file system with a file written at a path. -/
def writeBytes (fs : FileSystem) (p : Path) (bytes : List UInt8) : Except FileError FileSystem :=
  fs.updateFile p fun _ => bytes

/-- The file system with a text written at a path. -/
def writeText (fs : FileSystem) (p : Path) (s : String) : Except FileError FileSystem :=
  fs.writeBytes p (Text.encodeUtf8 s.toList)

/-- The file system with a text written behind what a file holds. -/
def appendText (fs : FileSystem) (p : Path) (s : String) : Except FileError FileSystem :=
  fs.updateFile p (· ++ Text.encodeUtf8 s.toList)

/-- The directory and the name under which a new entry is made at a path. A link of that name is not
followed. -/
def newEntry (fs : FileSystem) (p : Path) : Except FileFault (List String × String) :=
  match checkPath p, p.parts.getLast? with
  | .error fault, _ => .error fault
  | .ok (), none => .error .alreadyExists
  | .ok (), some name =>
    match follow fs.top false maxLinks (fs.start p) p.parts.dropLast with
    | .error fault => .error fault
    | .ok (.vacant ..) => .error .notFound
    | .ok (.found place (.dir entries)) =>
      if name == ".." then .error .alreadyExists
      else if maxNameBytes < name.utf8ByteSize then .error .nameTooLong
      else if (entries.lookup name).isSome then .error .alreadyExists
      else .ok (place, name)
    | .ok (.found _ node) => .error (if node.isDir then .accessDenied else .notDirectory)

/-- The file system with a new entry at a path. -/
def makeEntry (fs : FileSystem) (p : Path) (node : FileTree) : Except FileError FileSystem :=
  match fs.newEntry p with
  | .ok (place, name) => .ok (fs.setAt (place ++ [name]) node)
  | .error fault => .error ⟨fault, p⟩

/-- The file system with a directory at a path, which may be there already. -/
def makeDir (fs : FileSystem) (p : Path) : Except FileError FileSystem :=
  match fs.makeEntry p .empty with
  | .ok made => .ok made
  | .error e =>
    if e.fault = .notFound then .error e
    else
      match fs.isDir p with
      | .ok true => .ok fs
      | .ok false => .error e
      | .error other => .error other

/-- The file system with a directory at the path whose components are given from the last to the
first, and with the directories that lead to it. -/
def makeDirsTo (fs : FileSystem) (root : String) : List String → Except FileError FileSystem
  | [] => fs.makeDir ⟨root, []⟩
  | name :: above =>
    let p : Path := ⟨root, (name :: above).reverse⟩
    match fs.makeDir p with
    | .ok made => .ok made
    | .error e =>
      if e.fault = .notFound then
        match fs.makeDirsTo root above with
        | .ok ready => ready.makeDir p
        | .error e => .error e
      else .error e

/-- The file system with a directory at a path and with the directories that lead to it. -/
def makeDirs (fs : FileSystem) (p : Path) : Except FileError FileSystem :=
  fs.makeDirsTo p.root p.parts.reverse

/-- The paths of all entries below the current directory, with what they are. -/
def listing (fs : FileSystem) : List (Path × FileTree) :=
  match fs.top.at? fs.here with
  | some node => node.listing .here
  | none => []

end FileSystem

end SmellScan
