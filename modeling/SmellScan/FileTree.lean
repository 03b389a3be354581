import SmellScan.Path

/-!
# File trees

A directory with all that lies below it: files, directories and symbolic links, some of which may
not be opened. A place in a tree is the list of the names that lead to it from the top.
-/

namespace SmellScan

/-- A file, a directory or a symbolic link. A link holds its target as it was written. -/
inductive FileTree where
  | file (bytes : List UInt8)
  | dir (entries : List (String × FileTree))
  | link (target : String)
  /-- A file or a directory that may not be opened. -/
  | locked (node : FileTree)
  deriving Repr

namespace FileTree

/-- The tree without entries. -/
def empty : FileTree := .dir []

/-- The entries of a directory. -/
def entries : FileTree → List (String × FileTree)
  | .dir entries => entries
  | .locked node => node.entries
  | _ => []

/-- A directory, open or not. -/
def isDir : FileTree → Bool
  | .dir _ => true
  | .locked node => node.isDir
  | _ => false

/-- The entry of a directory by its name. -/
def entry? (t : FileTree) (name : String) : Option FileTree :=
  t.entries.lookup name

/-- What stands at a place. -/
def at? (top : FileTree) : List String → Option FileTree
  | [] => some top
  | name :: rest => (top.entry? name).bind (at? · rest)

/-- Entries with one set, in its place or at the end. -/
def setEntry (name : String) (node : FileTree) :
    List (String × FileTree) → List (String × FileTree)
  | [] => [(name, node)]
  | (other, old) :: rest =>
    if other == name then (name, node) :: rest else (other, old) :: setEntry name node rest

/-- The directory with its entries changed. -/
def mapEntries (f : List (String × FileTree) → List (String × FileTree)) : FileTree → FileTree
  | .dir entries => .dir (f entries)
  | .locked node => .locked (node.mapEntries f)
  | other => other

/-- The tree with a node at a place whose directory exists. -/
def setAt (top : FileTree) (place : List String) (node : FileTree) : FileTree :=
  match place with
  | [] => node
  | name :: rest =>
    top.mapEntries fun entries =>
      setEntry name (setAt ((entries.lookup name).getD empty) rest node) entries

mutual

/-- The paths of all entries below a directory, with what they are. -/
def listing (shown : Path) : FileTree → List (Path × FileTree)
  | .dir entries => listingAll shown entries
  | .locked node => listing shown node
  | _ => []

/-- The paths of entries and of all below them. -/
def listingAll (shown : Path) : List (String × FileTree) → List (Path × FileTree)
  | [] => []
  | (name, node) :: rest =>
    (shown.child name, node) :: (listing (shown.child name) node ++ listingAll shown rest)

end

end FileTree

end SmellScan
