import SmellScan.Text.Lines

/-!
# Paths

A path is a root and a list of components. Reading one drops empty components and single dots and
keeps double dots. Paths are ordered by their components, so what lies below a directory comes
before a sibling whose name continues that of the directory.
-/

namespace SmellScan

/-- A path of a file system with `/` between components. -/
structure Path where
  /-- Empty for a relative path, else one slash, or two. -/
  root : String
  parts : List String
  deriving DecidableEq, Repr

namespace Path

/-- The current directory. -/
def here : Path := ⟨"", []⟩

/-- The path that a text spells. -/
def ofString (s : String) : Path :=
  let root := match s.toList with
    | '/' :: '/' :: '/' :: _ => "/"
    | '/' :: '/' :: _ => "//"
    | '/' :: _ => "/"
    | _ => ""
  ⟨root, (Text.split '/' s).filter fun part => part != "" && part != "."⟩

/-- The text of a path. -/
def toString (p : Path) : String :=
  if p.root == "" && p.parts.isEmpty then "." else p.root ++ "/".intercalate p.parts

/-- The path of an entry of a directory. -/
def child (p : Path) (name : String) : Path :=
  { p with parts := p.parts ++ [name] }

/-- The last component, empty if there is none. -/
def name (p : Path) : String :=
  p.parts.getLastD ""

/-- The path without its last component. -/
def parent (p : Path) : Path :=
  { p with parts := p.parts.dropLast }

/-- The part of a name from its last dot on, if that dot is neither its first nor its last
character. -/
def suffixOf (name : List Char) : List Char :=
  let tail := (name.reverse.takeWhile (· != '.')).reverse
  if tail.isEmpty || name.length ≤ tail.length + 1 then [] else '.' :: tail

/-- The extension of the last component, with its dot. -/
def suffix (p : Path) : String :=
  String.ofList (suffixOf p.name.toList)

/-- The components by which paths are ordered. -/
def key (p : Path) : List String :=
  if p.root == "" then p.parts else p.root :: p.parts

/-- Lists of texts in dictionary order. -/
def keyLe : List String → List String → Bool
  | [], _ => true
  | _ :: _, [] => false
  | a :: as, b :: bs => if a < b then true else if b < a then false else keyLe as bs

/-- Paths in the order of their components. -/
def le (p q : Path) : Bool :=
  keyLe p.key q.key

end Path

end SmellScan
