import Mathlib.Data.List.Basic
import SmellScan.FileSystem
import SmellScan.Proofs.FileSystem.WellFormed

/-!
# Files are read as they are written

A path leads to a file through directories and links, and writing the file could change where the
path leads. It does not: all that `follow` asks of a tree is which places exist and which of them
are directories or links, and a tree in which a file has been set answers as before wherever there
was an answer (`Retains`, `retains_setAt`). So the same path leads to the file that was written
(`follow_retained`), and reading after a change gives the changed bytes (`readBytes_updateFile`).
-/

namespace SmellScan

namespace FileTree

variable {top top' node : FileTree} {entries : List (String × FileTree)} {name : String}

theorem lookup_setEntry (name other : String) (node : FileTree)
    (entries : List (String × FileTree)) :
    (setEntry name node entries).lookup other =
      if other = name then some node else entries.lookup other := by
  induction entries with
  | nil =>
    by_cases h : other = name
    · simp [setEntry, h]
    · simp [setEntry, h]
  | cons e entries ih =>
    obtain ⟨held, old⟩ := e
    by_cases hheld : held = name
    · subst hheld
      by_cases h : other = held
      · simp [setEntry, h]
      · simp [setEntry, h, List.lookup_cons, beq_eq_false_iff_ne.2 h]
    · by_cases h : other = held
      · subst h
        simp [setEntry, hheld]
      · simp [setEntry, hheld, List.lookup_cons, beq_eq_false_iff_ne.2 h, ih]

theorem at?_append (top : FileTree) (place rest : List String) :
    top.at? (place ++ rest) = (top.at? place).bind (at? · rest) := by
  induction place generalizing top with
  | nil => rfl
  | cons name place ih =>
    rw [List.cons_append, at?, at?]
    cases entry? top name with
    | none => rfl
    | some child => exact ih child

/-- An entry of a directory stands where its name leads. -/
theorem at?_concat {place : List String} (h : top.at? place = some (.dir entries)) :
    top.at? (place ++ [name]) = entries.lookup name := by
  rw [at?_append, h]
  simp [at?, entry?, FileTree.entries]

/-! ## Setting a node -/

theorem isDir_of_entry : ∀ {top child : FileTree}, entry? top name = some child → top.isDir = true
  | .dir _, _, _ => rfl
  | .locked node, _, h => @isDir_of_entry node _ h
  | .file _, _, h => by cases h
  | .link _, _, h => by cases h

theorem entries_mapEntries (f : List (String × FileTree) → List (String × FileTree)) :
    ∀ {top : FileTree}, top.isDir = true → (top.mapEntries f).entries = f top.entries
  | .dir _, _ => rfl
  | .locked node, h => @entries_mapEntries f node h

/-- Below the entry that a change goes through stands what the change leaves there; the other
entries are as they were. -/
theorem at?_setAt_cons (htop : top.isDir = true) (first name : String) (rest place : List String)
    (node : FileTree) :
    (top.setAt (first :: rest) node).at? (name :: place) =
      if name = first then (((top.entries.lookup first).getD empty).setAt rest node).at? place
      else top.at? (name :: place) := by
  rw [setAt, at?, entry?, entries_mapEntries _ htop, lookup_setEntry]
  split_ifs <;> rfl

/-- A node that replaces another stands where that one stood. -/
theorem at?_setAt_of_some {place : List String} {old : FileTree} (h : top.at? place = some old) :
    (top.setAt place node).at? place = some node := by
  induction place generalizing top with
  | nil => simp [setAt, at?]
  | cons name place ih =>
    obtain ⟨child, hchild, hbelow⟩ := Option.bind_eq_some_iff.1 h
    have hlookup : top.entries.lookup name = some child := hchild
    rw [at?_setAt_cons (isDir_of_entry hchild), if_pos rfl, hlookup]
    exact ih hbelow

/-- A node that is set in a directory stands there under its name. -/
theorem at?_setAt_concat {place : List String} (h : top.at? place = some (.dir entries)) :
    (top.setAt (place ++ [name]) node).at? (place ++ [name]) = some node := by
  induction place generalizing top with
  | nil =>
    obtain rfl : top = .dir entries := Option.some.inj h
    rw [List.nil_append, at?_setAt_cons rfl, if_pos rfl]
    simp [setAt, at?]
  | cons first place ih =>
    obtain ⟨child, hchild, hbelow⟩ := Option.bind_eq_some_iff.1 h
    have hlookup : top.entries.lookup first = some child := hchild
    rw [List.cons_append, at?_setAt_cons (isDir_of_entry hchild), if_pos rfl, hlookup]
    exact ih hbelow

/-! ## What a tree retains of another -/

/-- A node without what is in it: of a link, its target is left. -/
def bare : FileTree → FileTree
  | .file _ => .file []
  | .dir _ => .empty
  | .link target => .link target
  | .locked node => .locked node.bare

theorem bare_mapEntries (f : List (String × FileTree) → List (String × FileTree)) :
    ∀ top : FileTree, (top.mapEntries f).bare = top.bare
  | .file _ => rfl
  | .dir _ => rfl
  | .link _ => rfl
  | .locked node => congrArg locked (bare_mapEntries f node)

/-- Whatever stands in the first tree has something of its kind in its place in the second. -/
def Retains (top top' : FileTree) : Prop :=
  ∀ {place node}, top.at? place = some node →
    ∃ node', top'.at? place = some node' ∧ node'.bare = node.bare

theorem bare_eq_link {target : String} : node.bare = .link target ↔ node = .link target := by
  cases node <;> simp [bare, empty]

theorem Retains.dir {place : List String} (h : top.Retains top')
    (hdir : top.at? place = some (.dir entries)) :
    ∃ entries', top'.at? place = some (.dir entries') := by
  obtain ⟨node', hnode', hbare⟩ := h hdir
  cases node' with
  | dir entries' => exact ⟨entries', hnode'⟩
  | _ => cases hbare

/-- **Setting a file** where there was a file or nothing leaves everything else in place. -/
theorem retains_setAt {place : List String} {bytes : List UInt8}
    (h : ∀ node, top.at? place = some node → node.bare = .file []) :
    top.Retains (top.setAt place (.file bytes)) := by
  induction place generalizing top with
  | nil =>
    intro place node hnode
    obtain ⟨old, rfl⟩ : ∃ old, top = .file old := by
      have htop : top.bare = .file [] := h top rfl
      cases top with
      | file old => exact ⟨old, rfl⟩
      | _ => cases htop
    cases place with
    | nil =>
      cases hnode
      exact ⟨.file bytes, by simp [setAt, at?], rfl⟩
    | cons name place => cases hnode
  | cons first rest ih =>
    intro place node hnode
    cases place with
    | nil =>
      obtain rfl := Option.some.inj hnode
      exact ⟨_, rfl, bare_mapEntries _ _⟩
    | cons name place =>
      obtain ⟨child, hchild, hbelow⟩ := Option.bind_eq_some_iff.1 hnode
      rw [at?_setAt_cons (isDir_of_entry hchild)]
      split_ifs with hname
      · subst hname
        have hlookup : top.entries.lookup name = some child := hchild
        rw [hlookup, Option.getD_some]
        refine ih (fun node hnode => h node ?_) hbelow
        rw [at?, hchild]
        exact hnode
      · exact ⟨node, hnode, rfl⟩

end FileTree

/-- The place to which a path leads. -/
def Spot.place : Spot → List String
  | .found place _ => place
  | .vacant place name => place ++ [name]

namespace FileSystem

open FileTree

/-! ## Following a path -/

section Follow

variable {top top' node : FileTree} {making : Bool} {links : ℕ} {place start todo : List String}
  {entries : List (String × FileTree)} {spot : Spot}

/-- A component of a path that is looked up in a directory, with those that follow it. -/
structure IsName (making : Bool) (name : String) (rest : List String) : Prop where
  not_here : ¬(name == "" || name == ".") = true
  not_up : ¬(name == "..") = true
  /-- A file that is to be made has no slash behind its name. -/
  no_slash : ¬(making && rest == [""]) = true
  short : ¬maxNameBytes < name.utf8ByteSize

instance (making : Bool) (name : String) (rest : List String) :
    Decidable (IsName making name rest) :=
  decidable_of_iff (¬(name == "" || name == ".") = true ∧ ¬(name == "..") = true ∧
      ¬(making && rest == [""]) = true ∧ ¬maxNameBytes < name.utf8ByteSize)
    ⟨fun ⟨hhere, hup, hslash, hshort⟩ => ⟨hhere, hup, hslash, hshort⟩,
      fun h => ⟨h.not_here, h.not_up, h.no_slash, h.short⟩⟩

/-! What one component does, by what stands where it leads. -/

theorem follow_nil (h : top.at? place = some node) :
    follow top making links place [] = .ok (.found place node) := by
  rw [follow, h]

theorem follow_here (hdir : top.at? place = some (.dir entries)) {name : String}
    (hname : (name == "" || name == ".") = true) (rest : List String) :
    follow top making links place (name :: rest) = follow top making links place rest := by
  rw [follow, hdir]
  exact if_pos hname

theorem follow_up (hdir : top.at? place = some (.dir entries)) {name : String}
    (hname : ¬(name == "" || name == ".") = true) (hup : (name == "..") = true)
    (rest : List String) :
    follow top making links place (name :: rest) = follow top making links place.dropLast rest := by
  rw [follow, hdir]
  exact (if_neg hname).trans (if_pos hup)

section Names

variable {name : String} {rest : List String} (hname : IsName making name rest)
  (hdir : top.at? place = some (.dir entries))
include hname hdir

theorem follow_free (h : top.at? (place ++ [name]) = none) (hlast : rest.isEmpty = true) :
    follow top making links place (name :: rest) = .ok (.vacant place name) := by
  rw [at?_concat hdir] at h
  rw [follow, hdir]
  simp [hname.not_here, hname.not_up, hname.no_slash, hname.short, h, hlast]

theorem follow_link {target : String} (h : top.at? (place ++ [name]) = some (.link target)) :
    follow top making (links + 1) place (name :: rest) =
      follow top making links (targetStart place target) (targetParts target ++ rest) := by
  rw [at?_concat hdir] at h
  rw [follow, hdir]
  simp [hname.not_here, hname.not_up, hname.no_slash, hname.short, h]

theorem follow_entry (h : top.at? (place ++ [name]) = some node)
    (hlink : ∀ target, node ≠ .link target) :
    follow top making links place (name :: rest) =
      follow top making links (place ++ [name]) rest := by
  rw [at?_concat hdir] at h
  rw [follow, hdir]
  simp [hname.not_here, hname.not_up, hname.no_slash, hname.short, h]

end Names

/-- Where a file can be made, one can be looked for. -/
theorem follow_false (h : follow top making links start todo = .ok spot) :
    follow top false links start todo = .ok spot := by
  fun_induction follow top making links start todo
  case case1 hnode =>
    rw [follow_nil hnode]
    exact h
  case case3 hdir hdot ih =>
    rw [follow_here hdir hdot]
    exact ih h
  case case4 hdir hdot hup ih =>
    rw [follow_up hdir hdot hup]
    exact ih h
  case case7 hdir hdot hup _ hsize hnone hlast =>
    rw [follow_free ⟨hdot, hup, by simp, hsize⟩ hdir ((at?_concat hdir).trans hnone) hlast]
    exact h
  case case10 hdir hdot hup _ hsize target hlookup links ih =>
    rw [follow_link ⟨hdot, hup, by simp, hsize⟩ hdir ((at?_concat hdir).trans hlookup)]
    exact ih h
  case case11 hdir hdot hup _ hsize node hlink hlookup ih =>
    rw [follow_entry ⟨hdot, hup, by simp, hsize⟩ hdir ((at?_concat hdir).trans hlookup) hlink]
    exact ih h
  -- all other ways end at a fault
  all_goals cases h

/-- **A path leads to what was set in its place**, in a tree that retains the one in which the path
was followed. -/
theorem follow_retained (hretains : top.Retains top')
    (h : follow top making links start todo = .ok spot)
    (hnode : top'.at? spot.place = some node) (hlink : ∀ target, node ≠ .link target) :
    follow top' making links start todo = .ok (.found spot.place node) := by
  fun_induction follow top making links start todo
  case case1 =>
    cases h
    exact follow_nil hnode
  case case3 hdir hdot ih =>
    obtain ⟨entries', hdir'⟩ := hretains.dir hdir
    rw [follow_here hdir' hdot]
    exact ih h
  case case4 hdir hdot hup ih =>
    obtain ⟨entries', hdir'⟩ := hretains.dir hdir
    rw [follow_up hdir' hdot hup]
    exact ih h
  case case7 hdir hdot hup hslash hsize hnone hlast =>
    -- the name that was free is taken now, and nothing is left to follow
    cases h
    obtain ⟨entries', hdir'⟩ := hretains.dir hdir
    rw [follow_entry ⟨hdot, hup, hslash, hsize⟩ hdir' hnode hlink, List.isEmpty_iff.1 hlast]
    exact follow_nil hnode
  case case10 hdir hdot hup hslash hsize target hlookup links ih =>
    obtain ⟨entries', hdir'⟩ := hretains.dir hdir
    obtain ⟨node', hnode', hbare⟩ := hretains ((at?_concat hdir).trans hlookup)
    rw [bare_eq_link.1 hbare] at hnode'
    rw [follow_link ⟨hdot, hup, hslash, hsize⟩ hdir' hnode']
    exact ih h
  case case11 hdir hdot hup hslash hsize old hold hlookup ih =>
    obtain ⟨entries', hdir'⟩ := hretains.dir hdir
    obtain ⟨node', hnode', hbare⟩ := hretains ((at?_concat hdir).trans hlookup)
    have hnode'' : ∀ target, node' ≠ .link target := by
      rintro target rfl
      exact hold target (bare_eq_link.1 hbare.symm)
    rw [follow_entry ⟨hdot, hup, hslash, hsize⟩ hdir' hnode' hnode'']
    exact ih h
  all_goals cases h

/-- A free name is free in a directory. -/
theorem at?_of_follow_vacant {place : List String} {name : String}
    (h : follow top making links start todo = .ok (.vacant place name)) :
    ∃ entries, top.at? place = some (.dir entries) ∧ entries.lookup name = none := by
  fun_induction follow top making links start todo
  case case3 ih | case4 ih | case10 ih | case11 ih => exact ih h
  case case7 entries hdir hdot hup _ hsize hnone hlast =>
    cases h
    exact ⟨entries, hdir, hnone⟩
  all_goals cases h

end Follow

/-! ## Reading after a change -/

section Change

variable {fs fs' : FileSystem} {p : Path}

/-- What is in the file at a path before a change: its bytes, or none if there is no file yet. -/
def Held (fs : FileSystem) (p : Path) (bytes : List UInt8) : Prop :=
  fs.readBytes p = .ok bytes ∨ bytes = [] ∧ fs.readBytes p = .error ⟨.notFound, p⟩

theorem locate_eq {making : Bool} {spot : Spot} (h : fs.locate making p = .ok spot) :
    checkPath p = .ok () ∧ follow fs.top making maxLinks (fs.start p) p.parts = .ok spot := by
  unfold locate at h
  split at h
  · cases h
  · exact ⟨by assumption, h⟩

theorem locate_false {making : Bool} {spot : Spot} (h : fs.locate making p = .ok spot) :
    fs.locate false p = .ok spot := by
  obtain ⟨hcheck, hfollow⟩ := locate_eq h
  rw [locate, hcheck]
  exact follow_false hfollow

/-- A path of one name below the root leads to the entry of that name. -/
theorem locate_entry {making : Bool} {name : String} {node : FileTree}
    {entries : List (String × FileTree)} (hcheck : checkPath ⟨"/", [name]⟩ = .ok ())
    (hname : IsName making name []) (htop : fs.top = .dir entries)
    (hnode : entries.lookup name = some node) (hlink : ∀ target, node ≠ .link target) :
    fs.locate making ⟨"/", [name]⟩ = .ok (.found [name] node) := by
  have hdir : fs.top.at? [] = some (.dir entries) := by rw [htop, at?]
  have hat : fs.top.at? ([] ++ [name]) = some node := (at?_concat hdir).trans hnode
  rw [locate, hcheck]
  exact (follow_entry hname hdir hat hlink).trans (follow_nil hat)

theorem readBytes_of_locate {making : Bool} {place : List String} {bytes : List UInt8}
    (h : fs.locate making p = .ok (.found place (.file bytes))) : fs.readBytes p = .ok bytes := by
  unfold readBytes find
  rw [locate_false h]

theorem readBytes_entry {name : String} {bytes : List UInt8}
    {entries : List (String × FileTree)} (hcheck : checkPath ⟨"/", [name]⟩ = .ok ())
    (hname : IsName false name []) (htop : fs.top = .dir entries)
    (hfile : entries.lookup name = some (.file bytes)) :
    fs.readBytes ⟨"/", [name]⟩ = .ok bytes :=
  readBytes_of_locate (locate_entry hcheck hname htop hfile (by simp))

/-- **A path leads to the file that is set where it leads.** -/
theorem locate_setAt {making : Bool} {spot : Spot} {bytes : List UInt8}
    (h : fs.locate making p = .ok spot)
    (hat : (fs.top.setAt spot.place (.file bytes)).at? spot.place = some (.file bytes))
    (hold : ∀ node, fs.top.at? spot.place = some node → node.bare = .file []) :
    (fs.setAt spot.place (.file bytes)).locate making p =
      .ok (.found spot.place (.file bytes)) := by
  obtain ⟨hcheck, hfollow⟩ := locate_eq h
  rw [locate, hcheck]
  exact follow_retained (retains_setAt hold) hfollow hat (by simp)

/-- **What a change leaves at a path**: the file with its bytes changed. -/
theorem locate_updateFile {change : List UInt8 → List UInt8}
    (h : fs.updateFile p change = .ok fs') :
    ∃ place old, fs.Held p old ∧ fs'.locate true p = .ok (.found place (.file (change old))) := by
  unfold updateFile at h
  split at h
  · rename_i place bytes hlocate
    cases h
    have hat := at?_of_follow (locate_eq hlocate).2
    refine ⟨place, bytes, Or.inl (readBytes_of_locate hlocate), ?_⟩
    refine locate_setAt hlocate (at?_setAt_of_some hat) fun node hnode => ?_
    obtain rfl := Option.some.inj (hat.symm.trans hnode)
    rfl
  · cases h
  · rename_i place name hlocate
    cases h
    obtain ⟨entries, hdir, hfree⟩ := at?_of_follow_vacant (locate_eq hlocate).2
    refine ⟨place ++ [name], [], Or.inr ⟨rfl, ?_⟩, ?_⟩
    · unfold readBytes find
      rw [locate_false hlocate]
    · refine locate_setAt hlocate (at?_setAt_concat hdir) fun node hnode => ?_
      rw [Spot.place, at?_concat hdir, hfree] at hnode
      cases hnode
  · cases h

/-- Reading after a change gives the changed bytes. -/
theorem readBytes_updateFile {change : List UInt8 → List UInt8}
    (h : fs.updateFile p change = .ok fs') :
    ∃ old, fs.Held p old ∧ fs'.readBytes p = .ok (change old) := by
  obtain ⟨place, old, hold, hlocate⟩ := locate_updateFile h
  exact ⟨old, hold, readBytes_of_locate hlocate⟩

/-- A file that could be changed can be changed again. -/
theorem exists_updateFile_again {change : List UInt8 → List UInt8}
    (h : fs.updateFile p change = .ok fs') (change' : List UInt8 → List UInt8) :
    ∃ fs'', fs'.updateFile p change' = .ok fs'' := by
  obtain ⟨place, old, -, hlocate⟩ := locate_updateFile h
  unfold updateFile
  rw [hlocate]
  exact ⟨_, rfl⟩

theorem Held.eq {old bytes : List UInt8} (h : fs.Held p old) (hbytes : fs.readBytes p = .ok bytes) :
    old = bytes := by
  rcases h with h | ⟨-, h⟩ <;> rw [hbytes] at h <;> cases h
  rfl

theorem readBytes_writeText {s : String} (h : fs.writeText p s = .ok fs') :
    fs'.readBytes p = .ok (Text.encodeUtf8 s.toList) := by
  obtain ⟨_, -, hread⟩ := readBytes_updateFile h
  exact hread

theorem readBytes_appendText {s : String} (h : fs.appendText p s = .ok fs') :
    ∃ old, fs.Held p old ∧ fs'.readBytes p = .ok (old ++ Text.encodeUtf8 s.toList) :=
  readBytes_updateFile h

/-- A directory that is there already is left as it is. -/
theorem makeDirs_of_found {place : List String} {entries : List (String × FileTree)}
    (hentry : fs.newEntry p = .error .alreadyExists)
    (hdir : fs.locate false p = .ok (.found place (.dir entries))) : fs.makeDirs p = .ok fs := by
  have hisDir : fs.isDir p = .ok true := by
    unfold isDir find? find
    rw [hdir]
    rfl
  have hmake : fs.makeDir p = .ok fs := by
    unfold makeDir makeEntry
    rw [hentry]
    dsimp only
    rw [if_neg (by decide), hisDir]
  unfold makeDirs
  cases hparts : p.parts.reverse with
  | nil =>
    have hp : (⟨p.root, []⟩ : Path) = p := by rw [← List.reverse_eq_nil_iff.1 hparts]
    rw [makeDirsTo, hp, hmake]
  | cons name above =>
    have hp : (⟨p.root, (name :: above).reverse⟩ : Path) = p := by
      rw [← hparts, List.reverse_reverse]
    rw [makeDirsTo, hp, hmake]

end Change

end FileSystem

end SmellScan
