import Mathlib.Data.List.Infix
import SmellScan.Discovery
import SmellScan.Proofs.FileSystem.WellFormed

/-!
# The ways of a search

What a search should come to, said without the search, by the names that lead from a directory to
what stands below it. Names lead on through a directory if it is entered (`IsEntered`), and a way
lies open if all directories before its end are (`LiesOpen`). At the end of such a way there is a
directory or a link to one that the search comes to (`IsReached`), or a file that it meets
(`IsMet`). Each of these goes down a tree one name at a time (`isEntered_cons`, `liesOpen_cons`,
`isReached_cons`, `isMet_cons`).
-/

namespace SmellScan

namespace Path

/-- The path to which names lead from a path. -/
def descend (p : Path) (names : List String) : Path :=
  { p with parts := p.parts ++ names }

theorem descend_singleton (p : Path) (name : String) : p.descend [name] = p.child name := rfl

theorem descend_cons (p : Path) (name : String) (names : List String) :
    p.descend (name :: names) = (p.child name).descend names := by
  simp [descend, child]

theorem descend_nil (p : Path) : p.descend [] = p := by
  simp [descend]

theorem IsProper.descend {p : Path} {names : List String} (hp : p.IsProper)
    (hnames : ∀ name ∈ names, IsComponent name) : (p.descend names).IsProper where
  root := hp.root
  parts := fun part hpart => (List.mem_append.1 hpart).elim (hp.parts part) (hnames part)

end Path

namespace FileTree

mutual

/-- The number of levels. -/
def height : FileTree → Nat
  | .dir entries => 1 + entriesHeight entries
  | .locked node => height node
  | _ => 1

/-- The number of levels of the highest of several entries. -/
def entriesHeight : List (String × FileTree) → Nat
  | [] => 0
  | (_, node) :: rest => max (height node) (entriesHeight rest)

end

variable {t node : FileTree} {name : String} {place : List String}

theorem height_le_of_lookup {entries : List (String × FileTree)}
    (h : entries.lookup name = some node) : node.height ≤ entriesHeight entries := by
  induction entries with
  | nil => cases h
  | cons e entries ih =>
    obtain ⟨other, first⟩ := e
    rw [List.lookup_cons] at h
    rw [entriesHeight]
    split at h
    · cases h
      exact Nat.le_max_left _ _
    · exact Nat.le_trans (ih h) (Nat.le_max_right _ _)

theorem height_lt_of_entry : ∀ {t : FileTree}, t.entry? name = some node → node.height < t.height
  | .dir entries, h => by
    rw [height, Nat.add_comm]
    exact Nat.lt_succ_of_le (height_le_of_lookup h)
  | .locked t, h => by
    rw [height]
    exact height_lt_of_entry (show t.entry? name = some node from h)
  | .file _, h => by cases h
  | .link _, h => by cases h

theorem height_pos : ∀ t : FileTree, 0 < t.height
  | .dir entries => by rw [height]; omega
  | .locked t => by rw [height]; exact height_pos t
  | .file _ => by simp [height]
  | .link _ => by simp [height]

/-- Names lead no further down than a tree has levels. -/
theorem length_lt_height_of_at? (h : t.at? place = some node) : place.length < t.height := by
  induction place generalizing t with
  | nil => exact height_pos t
  | cons name place ih =>
    obtain ⟨child, hchild, hbelow⟩ := Option.bind_eq_some_iff.1 h
    exact Nat.lt_of_le_of_lt (ih hbelow) (height_lt_of_entry hchild)

end FileTree

namespace Discovery

variable (fs : FileSystem) (config : Config) (target shown : Path) (node : FileTree)

/-- The system, asked for a path below a target, follows it to a directory. -/
def LeadsToDir (p : Path) : Prop :=
  FileSystem.checkText (asked target p) = .ok () ∧ ∃ place node,
    FileSystem.follow fs.top false FileSystem.maxLinks (fs.start p) p.parts =
      .ok (.found place node) ∧ node.isDir = true

/-- What stands at a path below a target is a directory or a link to one. -/
def IsFolder (p : Path) (node : FileTree) : Prop :=
  node.isDir = true ∨ (∃ text, node = .link text) ∧ LeadsToDir fs target p

/-- The names `way` lead from the directory `node`, shown as `shown`, to a directory that a search
enters. -/
structure IsEntered (way : List String) : Prop where
  /-- They lead to a directory, and no link, that may be opened. -/
  isOpen : ∃ entries, node.at? way = some (.dir entries)
  /-- No directory on the way has a name that is ignored. -/
  notIgnored : ∀ name ∈ way, name ∉ config.ignoreDirs
  /-- The system takes the text with which it is asked for the directory. -/
  accepted : FileSystem.checkText (asked target (shown.descend way)) = .ok ()

/-- Every directory before the end of a way is entered. -/
def LiesOpen (names : List String) : Prop :=
  ∀ way, way <+: names → way ≠ names → IsEntered config target shown node way

/-- The names `way` lead to a directory, or a link to one, that a search comes to. -/
structure IsReached (way : List String) : Prop where
  isFolder : ∃ there, node.at? way = some there ∧ IsFolder fs target (shown.descend way) there
  notIgnored : ∀ name ∈ way, name ∉ config.ignoreDirs
  liesOpen : LiesOpen config target shown node way

/-- The names lead to an entry that a search meets as a file: no directory and no link to one. -/
structure IsMet (names : List String) : Prop where
  below : names ≠ []
  isFile : ∃ leaf, node.at? names = some leaf ∧ ¬IsFolder fs target (shown.descend names) leaf
  liesOpen : LiesOpen config target shown node names

variable {fs config target shown node} {p : Path} {name : String} {way names : List String}
  {entries : List (String × FileTree)}

theorem leadsToDir_iff : leadsToDir fs target p = true ↔ LeadsToDir fs target p := by
  unfold leadsToDir LeadsToDir
  cases FileSystem.checkText (asked target p) with
  | error fault => simp
  | ok _ =>
    cases FileSystem.follow fs.top false FileSystem.maxLinks (fs.start p) p.parts with
    | error fault => simp
    | ok spot => cases spot <;> simp

theorem isFolder_iff : isFolder fs target p node = true ↔ IsFolder fs target p node := by
  cases node with
  | link text => simp [isFolder, IsFolder, leadsToDir_iff, FileTree.isDir]
  | _ => simp [isFolder, IsFolder]

theorem isFolder_dir : IsFolder fs target p (.dir entries) :=
  .inl rfl

theorem not_isFolder_file {bytes : List UInt8} : ¬IsFolder fs target p (.file bytes) := by
  simp [IsFolder, FileTree.isDir]

theorem at?_cons_of_lookup (hlookup : entries.lookup name = some node) (names : List String) :
    (FileTree.dir entries).at? (name :: names) = node.at? names := by
  rw [FileTree.at?, FileTree.entry?, FileTree.entries, hlookup, Option.bind_some]

theorem isEntered_nil :
    IsEntered config target shown node [] ↔
      (∃ entries, node = .dir entries) ∧ FileSystem.checkText (asked target shown) = .ok () := by
  constructor
  · rintro ⟨⟨entries, hnode⟩, -, haccepted⟩
    exact ⟨⟨entries, Option.some.inj hnode⟩, by rwa [Path.descend_nil] at haccepted⟩
  · rintro ⟨⟨entries, rfl⟩, haccepted⟩
    exact ⟨⟨entries, rfl⟩, by simp, by rwa [Path.descend_nil]⟩

theorem isEntered_cons (hlookup : entries.lookup name = some node) :
    IsEntered config target shown (.dir entries) (name :: way) ↔
      name ∉ config.ignoreDirs ∧ IsEntered config target (shown.child name) node way := by
  have hat := at?_cons_of_lookup hlookup way
  constructor
  · rintro ⟨hopen, hnames, haccepted⟩
    obtain ⟨hname, hway⟩ := List.forall_mem_cons.1 hnames
    exact ⟨hname, by rwa [hat] at hopen, hway, by rwa [Path.descend_cons] at haccepted⟩
  · rintro ⟨hname, hopen, hway, haccepted⟩
    exact ⟨by rwa [hat], List.forall_mem_cons.2 ⟨hname, hway⟩, by rwa [Path.descend_cons]⟩

theorem liesOpen_nil : LiesOpen config target shown node [] :=
  fun _ hway hne => absurd (List.prefix_nil.1 hway) hne

theorem LiesOpen.start (h : LiesOpen config target shown node (name :: names)) :
    (∃ entries, node = .dir entries) ∧ FileSystem.checkText (asked target shown) = .ok () :=
  isEntered_nil.1 (h [] (List.nil_prefix) (List.cons_ne_nil _ _).symm)

/-- Names lead on from an open directory only, to an entry of it. -/
theorem LiesOpen.exists_lookup (h : LiesOpen config target shown node (name :: names))
    {there : FileTree} (hthere : node.at? (name :: names) = some there) :
    ∃ entries child, node = .dir entries ∧ entries.lookup name = some child := by
  obtain ⟨⟨entries, rfl⟩, -⟩ := h.start
  obtain ⟨child, hchild, -⟩ := Option.bind_eq_some_iff.1 hthere
  exact ⟨entries, child, rfl, hchild⟩

theorem liesOpen_cons (hlookup : entries.lookup name = some node) :
    LiesOpen config target shown (.dir entries) (name :: names) ↔
      FileSystem.checkText (asked target shown) = .ok () ∧
        (names ≠ [] → name ∉ config.ignoreDirs) ∧
          LiesOpen config target (shown.child name) node names := by
  constructor
  · intro h
    have hentered : ∀ way, way <+: names → way ≠ names →
        name ∉ config.ignoreDirs ∧ IsEntered config target (shown.child name) node way :=
      fun way hway hne => (isEntered_cons hlookup).1
        (h (name :: way) (by simpa using hway) (by simpa using hne))
    exact ⟨h.start.2, fun hne => (hentered [] List.nil_prefix hne.symm).1,
      fun way hway hne => (hentered way hway hne).2⟩
  · rintro ⟨haccepted, hname, h⟩ way hway hne
    obtain rfl | ⟨rest, rfl, hrest⟩ := List.prefix_cons_iff.1 hway
    · exact isEntered_nil.2 ⟨⟨entries, rfl⟩, haccepted⟩
    · have hne' : rest ≠ names := by simpa using hne
      have hnames : names ≠ [] := by
        rintro rfl
        exact hne' (List.prefix_nil.1 hrest)
      exact (isEntered_cons hlookup).2 ⟨hname hnames, h rest hrest hne'⟩

theorem isReached_nil :
    IsReached fs config target shown node [] ↔ IsFolder fs target shown node := by
  constructor
  · rintro ⟨⟨there, hthere, hfolder⟩, -, -⟩
    obtain rfl := Option.some.inj hthere
    rwa [Path.descend_nil] at hfolder
  · intro h
    exact ⟨⟨node, rfl, by rwa [Path.descend_nil]⟩, by simp, liesOpen_nil⟩

theorem isReached_cons (hlookup : entries.lookup name = some node) :
    IsReached fs config target shown (.dir entries) (name :: way) ↔
      FileSystem.checkText (asked target shown) = .ok () ∧ name ∉ config.ignoreDirs ∧
        IsReached fs config target (shown.child name) node way := by
  have hat := at?_cons_of_lookup hlookup way
  constructor
  · rintro ⟨hfolder, hnames, hopen⟩
    obtain ⟨haccepted, -, hopen'⟩ := (liesOpen_cons hlookup).1 hopen
    obtain ⟨hname, hway⟩ := List.forall_mem_cons.1 hnames
    exact ⟨haccepted, hname, by rwa [hat, Path.descend_cons] at hfolder, hway, hopen'⟩
  · rintro ⟨haccepted, hname, hfolder, hway, hopen⟩
    exact ⟨by rwa [hat, Path.descend_cons], List.forall_mem_cons.2 ⟨hname, hway⟩,
      (liesOpen_cons hlookup).2 ⟨haccepted, fun _ => hname, hopen⟩⟩

/-- A search comes to no directory that is further down than there are levels. -/
theorem IsReached.length_lt (h : IsReached fs config target shown node way) :
    way.length < node.height := by
  obtain ⟨there, hthere, -⟩ := h.isFolder
  exact FileTree.length_lt_height_of_at? hthere

/-- An entry is met by its own name if it is a file, and what lies below it through its name if it
is a directory that is not ignored. -/
theorem isMet_cons (hlookup : entries.lookup name = some node) :
    IsMet fs config target shown (.dir entries) (name :: names) ↔
      FileSystem.checkText (asked target shown) = .ok () ∧
        (names = [] ∧ ¬IsFolder fs target (shown.child name) node ∨
          name ∉ config.ignoreDirs ∧ IsMet fs config target (shown.child name) node names) := by
  have hat := at?_cons_of_lookup hlookup
  constructor
  · rintro ⟨-, hfile, hopen⟩
    obtain ⟨haccepted, hname, hopen'⟩ := (liesOpen_cons hlookup).1 hopen
    refine ⟨haccepted, ?_⟩
    rw [hat, Path.descend_cons] at hfile
    by_cases hnames : names = []
    · subst hnames
      obtain ⟨leaf, hleaf, hfolder⟩ := hfile
      obtain rfl := Option.some.inj hleaf
      exact .inl ⟨rfl, by rwa [Path.descend_nil] at hfolder⟩
    · exact .inr ⟨hname hnames, hnames, hfile, hopen'⟩
  · rintro ⟨haccepted, ⟨rfl, hfolder⟩ | ⟨hname, hnames, hfile, hopen⟩⟩
    · refine ⟨List.cons_ne_nil _ _, ⟨node, hat [], hfolder⟩, ?_⟩
      exact (liesOpen_cons hlookup).2 ⟨haccepted, fun h => absurd rfl h, liesOpen_nil⟩
    · refine ⟨List.cons_ne_nil _ _, by rwa [hat, Path.descend_cons], ?_⟩
      exact (liesOpen_cons hlookup).2 ⟨haccepted, fun _ => hname, hopen⟩

/-- What has something met below it is opened. -/
theorem IsMet.opened (h : IsMet fs config target shown node names) :
    (∃ entries, node = .dir entries) ∧ FileSystem.checkText (asked target shown) = .ok () := by
  obtain ⟨name, rest, rfl⟩ := List.exists_cons_of_ne_nil h.below
  exact h.liesOpen.start

/-- What is met below a directory is met through one of its entries. -/
theorem IsMet.exists_lookup (h : IsMet fs config target shown node names) :
    ∃ entries name rest child, node = .dir entries ∧ names = name :: rest ∧
      entries.lookup name = some child := by
  obtain ⟨name, rest, rfl⟩ := List.exists_cons_of_ne_nil h.below
  obtain ⟨leaf, hleaf, -⟩ := h.isFile
  obtain ⟨entries, child, rfl, hchild⟩ := h.liesOpen.exists_lookup hleaf
  exact ⟨entries, name, rest, child, rfl, rfl, hchild⟩

end Discovery

end SmellScan
