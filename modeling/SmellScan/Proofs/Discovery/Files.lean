import Mathlib.Data.List.Nodup
import Mathlib.Data.List.Perm.Basic
import SmellScan.Proofs.Discovery.Way
import SmellScan.Proofs.PathPattern
import SmellScan.Proofs.SortByKey

/-!
# The files that are found

What a search meets, up to order, entry by entry (`perm_encountersIn`). If the host lets it go on in
every directory that it comes to (`StaysNear`), it meets every file that it should and nothing else
(`mem_encountersIn_iff`), and none of them twice (`nodup_filterMap_encountersIn`); if not, it stops
(`stop_mem_encountersIn`). So a search ends with a list of files if and only if nothing should stop
it (`exists_explore_iff`).
-/

namespace SmellScan.Discovery

variable {host : Host} {fs : FileSystem} {config : Config} {target shown p : Path}
  {level : ℕ} {node : FileTree} {entries : List (String × FileTree)} {name : String}
  {names way : List String} {text : String} {x : Encounter}

/-! ## One file -/

theorem file_mem_atFile {q : Path} :
    .file p ∈ atFile host config q ↔ p = q ∧ isAnalyzable host config q = .ok true := by
  unfold atFile
  split <;> simp_all

theorem exists_stop_mem_atFile {q : Path} :
    (∃ fault, .stop fault ∈ atFile host config q) ↔
      ¬∃ b, isAnalyzable host config q = .ok b := by
  unfold atFile
  split <;> simp_all

/-- Where all patterns can be read, no path stops a search. -/
theorem exists_isAnalyzable
    (h : ∀ pattern ∈ config.excludePatterns, ∃ read, host.readPattern pattern = .ok read)
    (p : Path) : ∃ b, isAnalyzable host config p = .ok b := by
  unfold isAnalyzable
  split_ifs
  · obtain ⟨b, hb⟩ := Host.exists_findsPattern p.toString h
    exact ⟨!b, by rw [hb]; rfl⟩
  · exact ⟨false, rfl⟩

/-! ## One directory -/

variable (host fs config target shown level) in
/-- What is met at one entry of a directory so many levels below a target, and below it. -/
def encountersAt (e : String × FileTree) : List Encounter :=
  let p := shown.child e.1
  if isFolder fs target p e.2 then
    if config.ignoreDirs.contains e.1 then []
    else encountersIn host fs config target (asked target p) p (level + 1) e.2
  else atFile host config p

theorem flatMap_encountersAmong (entries : List (String × FileTree)) :
    (encountersAmong host fs config target shown level entries).flatMap Prod.snd =
      entries.flatMap fun e =>
        if isFolder fs target (shown.child e.1) e.2 then
          encountersAt host fs config target shown level e else [] := by
  induction entries with
  | nil => rw [encountersAmong, List.flatMap_nil, List.flatMap_nil]
  | cons e entries ih =>
    obtain ⟨name, node⟩ := e
    rw [encountersAmong, List.flatMap_cons, ← ih]
    dsimp only [encountersAt]
    by_cases hfolder : isFolder fs target (shown.child name) node = true <;>
      by_cases hname : name ∈ config.ignoreDirs <;> simp [hfolder, hname]

/-- In a directory that is opened, a search meets what there is at its entries. -/
theorem perm_encountersIn (hdoor : atDoor? host text level true = none) :
    (encountersIn host fs config target text shown level (.dir entries)).Perm
      (entries.flatMap (encountersAt host fs config target shown level)) := by
  have hsplit : (entries.flatMap (encountersAt host fs config target shown level)).Perm
      (atFiles host fs config target shown entries ++
        (encountersAmong host fs config target shown level entries).flatMap Prod.snd) := by
    rw [flatMap_encountersAmong, atFiles]
    refine .trans (.of_eq (List.flatMap_congr fun e _ => ?_))
      (List.flatMap_append_perm entries _ _).symm
    dsimp only [encountersAt]
    split_ifs <;> simp
  rw [encountersIn, hdoor]
  exact (((List.mergeSort_perm _ _).flatMap_right _).append_left _).trans hsplit.symm

/-- What is met at a door stops a search or is a directory that is passed over. -/
theorem atDoor?_eq_none_iff :
    atDoor? host text level true = none ↔
      host.refusesLevel level = false ∧ FileSystem.checkText text = .ok () := by
  unfold atDoor?
  by_cases hlevel : host.refusesLevel level = true
  · simp [hlevel]
  · cases FileSystem.checkText text <;> simp [hlevel]

theorem warning?_of_atDoor? {isOpen : Bool} (hlevel : host.refusesLevel level = false)
    (h : atDoor? host text level isOpen = some x) : x.warning? ≠ none := by
  unfold atDoor? at h
  rw [if_neg (by simp [hlevel])] at h
  split at h
  · cases h
    simp [Encounter.warning?]
  · split_ifs at h
    cases h
    simp [Encounter.warning?]

/-! ## Too far down -/

variable (host fs config target shown level node) in
/-- The host lets a search go on in every directory that it comes to below one that is so many
levels below its target. -/
def StaysNear : Prop :=
  ∀ way, IsReached fs config target shown node way → host.refusesLevel (level + way.length) = false

theorem StaysNear.here (h : StaysNear host fs config target shown level node)
    (hnode : IsFolder fs target shown node) : host.refusesLevel level = false :=
  h [] (isReached_nil.2 hnode)

theorem StaysNear.child (h : StaysNear host fs config target shown level (.dir entries))
    (hlookup : entries.lookup name = some node) (hname : name ∉ config.ignoreDirs)
    (haccepted : FileSystem.checkText (asked target shown) = .ok ()) :
    StaysNear host fs config target (shown.child name) (level + 1) node := by
  intro way hway
  have hnear := h (name :: way) ((isReached_cons hlookup).2 ⟨haccepted, hname, hway⟩)
  rwa [List.length_cons, Nat.add_comm way.length, ← Nat.add_assoc] at hnear

/-- **A search that comes to a directory too far down stops.** -/
theorem stop_mem_encountersIn (htext : FileSystem.checkText text =
      FileSystem.checkText (asked target shown))
    (hway : IsReached fs config target shown node way)
    (hfar : host.refusesLevel (level + way.length) = true) :
    .stop .tooDeep ∈ encountersIn host fs config target text shown level node := by
  induction way generalizing text shown level node with
  | nil =>
    have hlevel : host.refusesLevel level = true := hfar
    have hfolder := isReached_nil.1 hway
    cases node with
    | file bytes => simp [IsFolder, FileTree.isDir] at hfolder
    | dir entries => simp [encountersIn, atDoor?, hlevel]
    | link target => simp [encountersIn, hlevel]
    | locked node =>
      have hdir : node.isDir = true := by simpa [IsFolder, FileTree.isDir] using hfolder
      simp [encountersIn, atDoor?, hlevel, hdir]
  | cons name way ih =>
    obtain ⟨there, hthere, -⟩ := hway.isFolder
    obtain ⟨entries, child, rfl, hchild⟩ := hway.liesOpen.exists_lookup hthere
    obtain ⟨haccepted, hname, hbelow⟩ := (isReached_cons hchild).1 hway
    by_cases hlevel : host.refusesLevel level = true
    · simp [encountersIn, atDoor?, hlevel]
    have hdoor : atDoor? host text level true = none :=
      atDoor?_eq_none_iff.2 ⟨eq_false_of_ne_true hlevel, htext.trans haccepted⟩
    have hfolder : isFolder fs target (shown.child name) child = true := by
      refine isFolder_iff.2 ?_
      cases way with
      | nil => exact isReached_nil.1 hbelow
      | cons next rest =>
        obtain ⟨⟨below, rfl⟩, -⟩ := hbelow.liesOpen.start
        exact isFolder_dir
    rw [(perm_encountersIn hdoor).mem_iff]
    obtain ⟨before, after, hentries, -⟩ := List.lookup_eq_some_iff.1 hchild
    refine List.mem_flatMap.2 ⟨(name, child), by simp [hentries], ?_⟩
    dsimp only [encountersAt]
    rw [if_pos hfolder, if_neg (by simpa using hname)]
    refine ih rfl hbelow ?_
    rwa [Nat.add_assoc, Nat.add_comm 1]

/-! ## All that is met -/

/-- What is met at an entry, given that the same is known of what is met below it. -/
theorem mem_encountersAt_iff (hlookup : entries.lookup name = some node)
    (haccepted : FileSystem.checkText (asked target shown) = .ok ())
    (ih : IsFolder fs target (shown.child name) node → name ∉ config.ignoreDirs →
      (x ∈ encountersIn host fs config target (asked target (shown.child name)) (shown.child name)
          (level + 1) node ↔
        ∃ names, IsMet fs config target (shown.child name) node names ∧
          x ∈ atFile host config ((shown.child name).descend names))) :
    x ∈ encountersAt host fs config target shown level (name, node) ↔
      ∃ names, IsMet fs config target shown (.dir entries) (name :: names) ∧
        x ∈ atFile host config (shown.descend (name :: names)) := by
  simp only [isMet_cons hlookup, haccepted, true_and, Path.descend_cons]
  dsimp only [encountersAt]
  by_cases hfolder : IsFolder fs target (shown.child name) node
  · rw [if_pos (isFolder_iff.2 hfolder)]
    by_cases hname : name ∈ config.ignoreDirs
    · simp [hfolder, hname]
    · rw [if_neg (by simpa using hname), ih hfolder hname]
      simp [hfolder, hname]
  · have hnone : ∀ rest, ¬IsMet fs config target (shown.child name) node rest := by
      rintro rest h
      obtain ⟨below, -, -, -, rfl, -⟩ := h.exists_lookup
      exact hfolder isFolder_dir
    rw [if_neg fun h => hfolder (isFolder_iff.1 h)]
    simp [hfolder, hnone, Path.descend_nil]

/-- **A search meets what it should and nothing else**, besides the directories that it passes
over. -/
theorem mem_encountersIn_iff (hnode : node.WellFormed) (hfolder : IsFolder fs target shown node)
    (hnear : StaysNear host fs config target shown level node)
    (htext : FileSystem.checkText text = FileSystem.checkText (asked target shown))
    (hx : x.warning? = none) :
    x ∈ encountersIn host fs config target text shown level node ↔
      ∃ names, IsMet fs config target shown node names ∧
        x ∈ atFile host config (shown.descend names) := by
  induction hnode generalizing text shown level with
  | file bytes => simp [IsFolder, FileTree.isDir] at hfolder
  | link written =>
    refine iff_of_false (by simp [encountersIn, hnear.here hfolder]) ?_
    rintro ⟨names, h, -⟩
    obtain ⟨⟨entries, heq⟩, -⟩ := h.opened
    cases heq
  | locked inside =>
    constructor
    · intro h
      rw [encountersIn] at h
      split_ifs at h
      · exact absurd hx (warning?_of_atDoor? (hnear.here hfolder) (Option.mem_toList.1 h))
      · exact absurd h List.not_mem_nil
    · rintro ⟨names, h, -⟩
      obtain ⟨⟨entries, heq⟩, -⟩ := h.opened
      cases heq
  | @dir entries hnames named below ih =>
    by_cases haccepted : FileSystem.checkText (asked target shown) = .ok ()
    · have hdoor : atDoor? host text level true = none :=
        atDoor?_eq_none_iff.2 ⟨hnear.here hfolder, htext.trans haccepted⟩
      have hentry : ∀ name node, (name, node) ∈ entries →
          (x ∈ encountersAt host fs config target shown level (name, node) ↔
            ∃ names, IsMet fs config target shown (.dir entries) (name :: names) ∧
              x ∈ atFile host config (shown.descend (name :: names))) := by
        intro name node he
        have hlookup := (lookup_eq_some_iff_mem hnames).2 he
        exact mem_encountersAt_iff hlookup haccepted fun hfolder hname =>
          ih _ he hfolder (hnear.child hlookup hname haccepted) rfl
      rw [(perm_encountersIn hdoor).mem_iff, List.mem_flatMap]
      constructor
      · rintro ⟨⟨name, node⟩, he, hmem⟩
        obtain ⟨names, h⟩ := (hentry name node he).1 hmem
        exact ⟨name :: names, h⟩
      · rintro ⟨names, h, hmem⟩
        obtain ⟨_, name, rest, child, heq, rfl, hlookup⟩ := h.exists_lookup
        cases heq
        have he := (lookup_eq_some_iff_mem hnames).1 hlookup
        exact ⟨(name, child), he, (hentry name child he).2 ⟨rest, h, hmem⟩⟩
    · refine iff_of_false (fun h => ?_) ?_
      · obtain ⟨e, hdoor⟩ : ∃ e, atDoor? host text level true = some e := by
          refine Option.ne_none_iff_exists'.1 fun hnone => haccepted ?_
          exact htext.symm.trans (atDoor?_eq_none_iff.1 hnone).2
        rw [encountersIn, hdoor] at h
        obtain rfl := List.mem_singleton.1 h
        exact warning?_of_atDoor? (hnear.here hfolder) hdoor hx
      · rintro ⟨names, h, -⟩
        exact haccepted h.opened.2

/-! ## No file twice -/

theorem mem_filterMap_file? {met : List Encounter} :
    p ∈ met.filterMap Encounter.file? ↔ .file p ∈ met := by
  rw [List.mem_filterMap]
  constructor
  · rintro ⟨x, hx, hp⟩
    cases x <;> cases hp
    exact hx
  · exact fun h => ⟨_, h, rfl⟩

/-- The paths of the files that are met at an entry have its name behind the directory. -/
theorem exists_names_of_mem_encountersAt (hnode : (FileTree.dir entries).WellFormed)
    (hnear : StaysNear host fs config target shown level (.dir entries))
    (haccepted : FileSystem.checkText (asked target shown) = .ok ())
    (hlookup : entries.lookup name = some node)
    (h : .file p ∈ encountersAt host fs config target shown level (name, node)) :
    ∃ names, p = shown.descend (name :: names) := by
  have hwell : node.WellFormed := (hnode.of_entry hlookup).2
  obtain ⟨names, -, hmem⟩ := (mem_encountersAt_iff hlookup haccepted fun hfolder hname =>
    mem_encountersIn_iff hwell hfolder (hnear.child hlookup hname haccepted) rfl rfl).1 h
  exact ⟨names, (file_mem_atFile.1 hmem).1⟩

theorem nodup_filterMap_singleton (x : Encounter) : ([x].filterMap Encounter.file?).Nodup := by
  cases h : x.file? <;> simp [h]

theorem nodup_filterMap_atFile (q : Path) :
    ((atFile host config q).filterMap Encounter.file?).Nodup := by
  unfold atFile
  split
  · exact nodup_filterMap_singleton _
  · exact List.nodup_nil
  · exact nodup_filterMap_singleton _

/-- **No file is met twice.** -/
theorem nodup_filterMap_encountersIn (hnode : node.WellFormed)
    (hfolder : IsFolder fs target shown node)
    (hnear : StaysNear host fs config target shown level node)
    (htext : FileSystem.checkText text = FileSystem.checkText (asked target shown)) :
    ((encountersIn host fs config target text shown level node).filterMap
      Encounter.file?).Nodup := by
  induction hnode generalizing text shown level with
  | file bytes => simp [encountersIn]
  | link written => simp [encountersIn, hnear.here hfolder]
  | locked inside =>
    rw [encountersIn]
    split_ifs
    · cases atDoor? host text level false with
      | none => exact List.nodup_nil
      | some e => exact nodup_filterMap_singleton e
    · exact List.nodup_nil
  | @dir entries hnames named below ih =>
    cases hdoor : atDoor? host text level true with
    | some e =>
      rw [encountersIn, hdoor]
      exact nodup_filterMap_singleton e
    | none =>
      have haccepted := htext.symm.trans (atDoor?_eq_none_iff.1 hdoor).2
      have hfound : ∀ e ∈ entries, ∀ p,
          .file p ∈ encountersAt host fs config target shown level e →
            ∃ names, p = shown.descend (e.1 :: names) := fun e he p =>
        exists_names_of_mem_encountersAt (.dir hnames named below) hnear haccepted
          ((lookup_eq_some_iff_mem hnames).2 he)
      rw [((perm_encountersIn hdoor).filterMap _).nodup_iff, List.filterMap_flatMap,
        List.nodup_flatMap]
      constructor
      · intro e he
        have hlookup := (lookup_eq_some_iff_mem hnames).2 he
        dsimp only [encountersAt]
        split_ifs with hfolder hname
        · exact List.nodup_nil
        · exact ih e he (isFolder_iff.1 hfolder)
            (hnear.child hlookup (by simpa using hname) haccepted) rfl
        · exact nodup_filterMap_atFile _
      · refine (List.pairwise_map.1 hnames).imp_of_mem fun {e e'} he he' hne p hp hp' => hne ?_
        obtain ⟨names, rfl⟩ := hfound e he p (mem_filterMap_file?.1 hp)
        obtain ⟨names', heq⟩ := hfound e' he' _ (mem_filterMap_file?.1 hp')
        have hparts : e.1 :: names = e'.1 :: names' :=
          List.append_cancel_left (congrArg Path.parts heq)
        exact (List.cons.inj hparts).1

/-! ## Searching a directory -/

/-- Nothing stops the search of a directory to which a target leads: the host lets it go on in every
directory that it comes to, and no file that it meets has a path at which a pattern cannot be
read. -/
structure IsSearchable (host : Host) (fs : FileSystem) (config : Config) (target : Path)
    (node : FileTree) : Prop where
  near : ∀ way, IsReached fs config target target node way → host.refusesLevel way.length = false
  readable : ∀ names, IsMet fs config target target node names →
    ∃ b, isAnalyzable host config (target.descend names) = .ok b

/-- Nothing stops the search of a directory of few levels with patterns that can be read. -/
theorem isSearchable_usual {parse : Language → String → ParseTree}
    (hpatterns : ∀ pattern ∈ config.excludePatterns,
      ∃ read, (Host.usual parse).readPattern pattern = .ok read)
    (hheight : node.height ≤ 900) : IsSearchable (.usual parse) fs config target node where
  near := fun _ hway => Host.refusesLevel_usual parse (hway.length_lt.le.trans hheight)
  readable := fun _ _ => exists_isAnalyzable hpatterns _

section Explore

variable {paths : List Path}

theorem checkText_asked_self (target : Path) :
    FileSystem.checkText target.toString = FileSystem.checkText (asked target target) := by
  unfold asked
  split_ifs with h
  · subst h
    decide
  · rfl

theorem encounters_eq (hfind : fs.find target = .ok node) :
    encounters host fs config target =
      encountersIn host fs config target target.toString target 0 node := by
  obtain ⟨place, hlocate, -⟩ := FileSystem.exists_place_of_find hfind
  rw [encounters, hlocate]

theorem explore_eq_ok_iff :
    explore host fs config target = .ok paths ↔
      (∀ fault, .stop fault ∉ encounters host fs config target) ∧
        ((encounters host fs config target).filterMap Encounter.file?).mergeSort Path.le =
          paths := by
  have hstop : (encounters host fs config target).findSome? Encounter.stop? = none ↔
      ∀ fault, .stop fault ∉ encounters host fs config target := by
    rw [List.findSome?_eq_none_iff]
    constructor
    · intro h fault hmem
      cases h _ hmem
    · intro h x hx
      cases x with
      | stop fault => exact absurd hx (h fault)
      | _ => rfl
  rw [← hstop, explore]
  cases (encounters host fs config target).findSome? Encounter.stop? <;> simp

/-- A path leads to a well-formed tree. -/
theorem wellFormed_of_find (hfs : fs.top.WellFormed) (hfind : fs.find target = .ok node) :
    node.WellFormed := by
  obtain ⟨place, -, hat⟩ := FileSystem.exists_place_of_find hfind
  exact (hfs.of_at? hat).2

variable (hfs : fs.top.WellFormed) (hfind : fs.find target = .ok node) (hdir : node.isDir = true)

include hfind

theorem staysNear_of_explore (h : explore host fs config target = .ok paths) :
    StaysNear host fs config target target 0 node := by
  intro way hway
  by_contra hfar
  have hmem := stop_mem_encountersIn (checkText_asked_self target) hway (eq_true_of_ne_false hfar)
  rw [← encounters_eq hfind] at hmem
  exact (explore_eq_ok_iff.1 h).1 _ hmem

include hfs hdir

theorem mem_encounters_iff (hnear : StaysNear host fs config target target 0 node)
    (hx : x.warning? = none) :
    x ∈ encounters host fs config target ↔ ∃ names, IsMet fs config target target node names ∧
      x ∈ atFile host config (target.descend names) := by
  rw [encounters_eq hfind]
  exact mem_encountersIn_iff (wellFormed_of_find hfs hfind) (.inl hdir) hnear
    (checkText_asked_self target) hx

/-- **When a search brings a list**: if and only if nothing stops it. -/
theorem exists_explore_iff :
    (∃ paths, explore host fs config target = .ok paths) ↔
      IsSearchable host fs config target node := by
  have hread (hnear : StaysNear host fs config target target 0 node) :
      (∀ fault, .stop fault ∉ encounters host fs config target) ↔
        ∀ names, IsMet fs config target target node names →
          ∃ b, isAnalyzable host config (target.descend names) = .ok b := by
    constructor
    · intro h names hmet
      by_contra hfails
      obtain ⟨fault, hfault⟩ := exists_stop_mem_atFile.2 hfails
      exact h fault ((mem_encounters_iff hfs hfind hdir hnear rfl).2 ⟨names, hmet, hfault⟩)
    · intro h fault hmem
      obtain ⟨names, hmet, hfault⟩ := (mem_encounters_iff hfs hfind hdir hnear rfl).1 hmem
      exact exists_stop_mem_atFile.1 ⟨fault, hfault⟩ (h names hmet)
  constructor
  · rintro ⟨paths, h⟩
    have hnear := staysNear_of_explore hfind h
    exact ⟨fun way hway => by simpa using hnear way hway,
      (hread hnear).1 (explore_eq_ok_iff.1 h).1⟩
  · rintro ⟨hnear, hreadable⟩
    have hnear' : StaysNear host fs config target target 0 node :=
      fun way hway => by simpa using hnear way hway
    exact ⟨_, explore_eq_ok_iff.2 ⟨(hread hnear').2 hreadable, rfl⟩⟩

/-- **What a search brings**, if it brings a list. -/
theorem mem_explore_iff (h : explore host fs config target = .ok paths) :
    p ∈ paths ↔ ∃ names, p = target.descend names ∧
      IsMet fs config target target node names ∧ isAnalyzable host config p = .ok true := by
  obtain ⟨-, rfl⟩ := explore_eq_ok_iff.1 h
  rw [List.mem_mergeSort, mem_filterMap_file?,
    mem_encounters_iff hfs hfind hdir (staysNear_of_explore hfind h) rfl]
  simp only [file_mem_atFile]
  constructor
  · rintro ⟨names, hmet, rfl, hkeep⟩
    exact ⟨names, rfl, hmet, hkeep⟩
  · rintro ⟨names, rfl, hmet, hkeep⟩
    exact ⟨names, hmet, rfl, hkeep⟩

theorem nodup_explore (h : explore host fs config target = .ok paths) : paths.Nodup := by
  obtain ⟨-, rfl⟩ := explore_eq_ok_iff.1 h
  rw [(List.mergeSort_perm _ _).nodup_iff, encounters_eq hfind]
  exact nodup_filterMap_encountersIn (wellFormed_of_find hfs hfind) (.inl hdir)
    (staysNear_of_explore hfind h) (checkText_asked_self target)

/-- The paths that are found are those of names below the target. -/
theorem exists_names_of_mem_explore (h : explore host fs config target = .ok paths)
    (hp : p ∈ paths) :
    ∃ names, p = target.descend names ∧ ∀ name ∈ names, FileTree.IsEntryName name := by
  obtain ⟨names, rfl, hmet, -⟩ := (mem_explore_iff hfs hfind hdir h).1 hp
  obtain ⟨leaf, hleaf, -⟩ := hmet.isFile
  exact ⟨names, rfl, ((wellFormed_of_find hfs hfind).of_at? hleaf).1⟩

end Explore

end SmellScan.Discovery
