import Mathlib.Algebra.Ring.Nat
import Mathlib.Data.List.Infix
import Mathlib.Data.String.Basic
import SmellScan.Proofs.Discovery.Files
import SmellScan.Proofs.FileSystem.ReadBack

/-!
# The search is exact

A search brings a list unless a pattern cannot be read at a file that it meets, or the host does not
let it go on in a directory that it comes to (`IsSearchable`). The list ascends strictly by the
components of paths, and it has every file that it should and nothing else (`explore_exact`). What a
search comes to and what it meets is said by the names that lead there (`IsReached`, `IsMet`).

The system takes no path of more than `FileSystem.maxPathBytes` bytes. A directory that it would
have to be asked for with a longer text is passed over, with all below it. So there are three ways
in which a search falls short of what lies below a target (`explore_limits`).
-/

namespace SmellScan

namespace Path

/-! ## The order of paths -/

theorem keyLe_iff {as bs : List String} : keyLe as bs = true ↔ as ≤ bs := by
  rw [← not_lt]
  induction as generalizing bs with
  | nil => exact iff_of_true rfl (List.not_lt_nil bs)
  | cons a as ih =>
    cases bs with
    | nil => exact iff_of_false (by simp [keyLe]) (not_not_intro (List.nil_lt_cons a as))
    | cons b bs =>
      have hcons : b :: bs < a :: as ↔ b < a ∨ b = a ∧ bs < as := List.cons_lt_cons_iff
      rw [keyLe, hcons]
      split_ifs with hlt hgt
      · refine iff_of_true rfl ?_
        rintro (h | ⟨rfl, -⟩)
        · exact lt_asymm hlt h
        · exact lt_irrefl _ hlt
      · exact iff_of_false id (not_not_intro (.inl hgt))
      · obtain rfl : a = b := le_antisymm (not_lt.1 hgt) (not_lt.1 hlt)
        rw [ih]
        simp only [lt_irrefl, true_and, false_or]

theorem le_eq (p q : Path) : p.le q = decide (p.key ≤ q.key) := by
  rw [Bool.eq_iff_iff, decide_eq_true_iff]
  exact keyLe_iff

theorem eq_of_key_eq {p q : Path} (hroot : p.root = q.root) (hkey : p.key = q.key) : p = q := by
  obtain ⟨root, parts⟩ := p
  obtain ⟨root', parts'⟩ := q
  cases hroot
  unfold key at hkey
  dsimp only at hkey
  split_ifs at hkey <;> simp_all

end Path

namespace Discovery

variable {fs : FileSystem} {target p : Path} {node : FileTree} {paths : List Path}

/-! ## The list -/

theorem pairwise_explore {host : Host} {config : Config} (hfs : fs.top.WellFormed)
    (hfind : fs.find target = .ok node) (hdir : node.isDir = true)
    (h : explore host fs config target = .ok paths) :
    paths.Pairwise fun p q => p.key < q.key := by
  have hle : Path.le = fun p q => decide (p.key ≤ q.key) := by
    funext p q
    exact Path.le_eq p q
  -- all have the root of the target, so different paths have different components
  have hkeys : (paths.map Path.key).Nodup := by
    refine (nodup_explore hfs hfind hdir h).map_on fun p hp q hq hkey => ?_
    obtain ⟨names, rfl, -⟩ := exists_names_of_mem_explore hfs hfind hdir h hp
    obtain ⟨names', rfl, -⟩ := exists_names_of_mem_explore hfs hfind hdir h hq
    exact Path.eq_of_key_eq rfl hkey
  obtain ⟨-, rfl⟩ := explore_eq_ok_iff.1 h
  rw [hle] at hkeys ⊢
  refine (pairwise_mergeSort_key Path.key (· ≤ ·) (fun _ _ _ => le_trans) le_total
    (((List.mergeSort_perm _ _).map Path.key).nodup_iff.1 hkeys)).imp ?_
  exact fun ⟨hle, hne⟩ => lt_of_le_of_ne hle hne

/-- **The search of a directory is exact.** It brings a list if and only if nothing stops it, which
is so if all patterns can be read and no directory that it comes to is too far down. The paths of
the list ascend strictly by their components, and they are those to which names lead from the target
through directories that are entered, to something that is no directory and no link to one, and that
are to be analysed. -/
theorem explore_exact (host : Host) (config : Config) {spelled : String} (hfs : fs.top.WellFormed)
    (htarget : fs.find (.ofString spelled) = .ok node) (hdir : node.isDir = true) :
    ((∃ paths, explore host fs config (.ofString spelled) = .ok paths) ↔
      IsSearchable host fs config (.ofString spelled) node) ∧
    ((∀ pattern ∈ config.excludePatterns, ∃ read, host.readPattern pattern = .ok read) →
      (∀ way, IsReached fs config (.ofString spelled) (.ofString spelled) node way →
        host.refusesLevel way.length = false) →
      IsSearchable host fs config (.ofString spelled) node) ∧
    ∀ paths, explore host fs config (.ofString spelled) = .ok paths →
      paths.Pairwise (fun p q => p.key < q.key) ∧
        ∀ p, p ∈ paths ↔ ∃ names, p = (Path.ofString spelled).descend names ∧
          IsMet fs config (.ofString spelled) (.ofString spelled) node names ∧
            isAnalyzable host config p = .ok true :=
  ⟨exists_explore_iff hfs htarget hdir,
    fun hpatterns hnear => ⟨hnear, fun _ _ => exists_isAnalyzable hpatterns _⟩,
    fun _ h => ⟨pairwise_explore hfs htarget hdir h, fun _ => mem_explore_iff hfs htarget hdir h⟩⟩

/-! A directory with a link in it, and many texts for its path. -/

theorem utf8ByteSize_intercalate {parts : List String} (hparts : parts ≠ []) :
    ("/".intercalate parts).utf8ByteSize + 1 =
      (parts.map fun part => part.utf8ByteSize + 1).sum := by
  induction parts with
  | nil => exact absurd rfl hparts
  | cons part parts ih =>
    cases parts with
    | nil => simp
    | cons next parts =>
      have hnext := ih (List.cons_ne_nil _ _)
      have hslash : "/".utf8ByteSize = 1 := rfl
      rw [String.intercalate_cons_cons, String.utf8ByteSize_append, String.utf8ByteSize_append,
        List.map_cons, List.sum_cons, ← hnext, hslash]
      omega

/-- The way into the directory `d`, and out and in again so many times. -/
def winding (turns : Nat) : Path :=
  ⟨"", "d" :: (List.replicate turns ["..", "d"]).flatten⟩

theorem mem_parts_winding {turns : ℕ} {part : String} (h : part ∈ (winding turns).parts) :
    part = "d" ∨ part = ".." := by
  simp only [winding, List.mem_cons, List.mem_flatten, List.mem_replicate] at h
  grind

theorem isProper_winding (turns : ℕ) : (winding turns).IsProper where
  root := Or.inl rfl
  parts := by
    intro part hpart
    rcases mem_parts_winding hpart with rfl | rfl
    · exact ⟨by decide, by decide, by decide⟩
    · exact ⟨by decide, by decide, by decide⟩

theorem asked_winding (turns : ℕ) (p : Path) : asked (winding turns) p = p.toString := by
  rw [asked, if_neg (by simp [winding, Path.here])]

/-- The text of a winding path with names behind it, as the system sees it. -/
theorem checkText_asked_winding (turns : ℕ) {names : List String}
    (hnames : ∀ name ∈ names, '\x00' ∉ name.toList) :
    FileSystem.checkText (asked (winding turns) ((winding turns).descend names)) =
      if FileSystem.maxPathBytes <
        5 * turns + 1 + (names.map fun name => name.utf8ByteSize + 1).sum
      then .error .nameTooLong else .ok () := by
  have hparts : ((winding turns).descend names).parts ≠ [] := by simp [winding, Path.descend]
  have htext : asked (winding turns) ((winding turns).descend names) =
      "/".intercalate ((winding turns).descend names).parts := by
    rw [asked_winding, Path.toString]
    simp [winding, Path.descend]
  have hnull : '\x00' ∉ ("/".intercalate ((winding turns).descend names).parts).toList := by
    rw [Path.mem_toList_intercalate (by decide)]
    rintro ⟨part, hpart, hmem⟩
    rcases List.mem_append.1 hpart with hpart | hpart
    · rcases mem_parts_winding hpart with rfl | rfl <;> simp at hmem
    · exact hnames part hpart hmem
  have hsize : ("/".intercalate ((winding turns).descend names).parts).utf8ByteSize =
      5 * turns + 1 + (names.map fun name => name.utf8ByteSize + 1).sum := by
    have hsum := utf8ByteSize_intercalate hparts
    have hd : "d".utf8ByteSize = 1 := rfl
    have hup : "..".utf8ByteSize = 2 := rfl
    simp [winding, Path.descend, hd, hup] at hsum ⊢
    omega
  rw [htext, FileSystem.checkText, if_neg (by simpa using hnull), hsize]

/-- A directory `d` that holds a directory with a file, and a link to that directory. -/
def linkedEntries : List (String × FileTree) :=
  [("l.js", .link "sub1"), ("sub1", .dir [("f.js", .file [])])]

/-- A file system whose current directory holds the directory `d`. -/
def linked : FileSystem :=
  ⟨.dir [("work", .dir [("d", .dir linkedEntries)])], ["work"]⟩

/-- From the directory that holds it, `d` is entered by its name. -/
theorem follow_in (rest : List String) :
    FileSystem.follow linked.top false FileSystem.maxLinks ["work"] ("d" :: rest) =
      FileSystem.follow linked.top false FileSystem.maxLinks ["work", "d"] rest :=
  FileSystem.follow_entry ⟨by decide, by decide, by simp, by decide⟩ rfl rfl (by simp)

/-- Out of the directory and in again leads to where it was. -/
theorem follow_turns (turns : ℕ) :
    FileSystem.follow linked.top false FileSystem.maxLinks ["work", "d"]
      (List.replicate turns ["..", "d"]).flatten =
        .ok (.found ["work", "d"] (.dir linkedEntries)) := by
  induction turns with
  | zero => exact FileSystem.follow_nil rfl
  | succ turns ih =>
    rw [List.replicate_succ, List.flatten_cons]
    exact (FileSystem.follow_up rfl (by decide) (by decide) _).trans ((follow_in _).trans ih)

theorem follow_link :
    FileSystem.follow linked.top false FileSystem.maxLinks ["work", "d"] ["l.js"] =
      .ok (.found ["work", "d", "sub1"] (.dir [("f.js", .file [])])) := by
  have hstart : FileSystem.targetStart ["work", "d"] "sub1" = ["work", "d"] := by decide +kernel
  have hparts : FileSystem.targetParts "sub1" = ["sub1"] := by decide +kernel
  have hdir : FileSystem.follow linked.top false 39 ["work", "d"] ["sub1"] =
      .ok (.found ["work", "d", "sub1"] (.dir [("f.js", .file [])])) :=
    (FileSystem.follow_entry (by decide) rfl rfl (by simp)).trans (FileSystem.follow_nil rfl)
  refine (FileSystem.follow_link (by decide) rfl rfl).trans ?_
  rwa [hstart, hparts]

theorem wellFormed_linked : linked.top.WellFormed := by
  have hsub : (FileTree.dir [("f.js", .file [])]).WellFormed :=
    .dir (by decide) (by decide) (by simpa using .file [])
  have hd : (FileTree.dir linkedEntries).WellFormed := by
    refine .dir (by decide) (by decide) ?_
    simp only [linkedEntries, List.forall_mem_cons]
    exact ⟨.link _, hsub, by simp⟩
  have hwork : (FileTree.dir [("d", .dir linkedEntries)]).WellFormed :=
    .dir (by decide) (by decide) (by simpa using hd)
  exact .dir (by decide) (by decide) (by simpa using hwork)

theorem find_winding {turns : ℕ} (hturns : 5 * turns + 1 ≤ FileSystem.maxPathBytes) :
    linked.find (.ofString (winding turns).toString) = .ok (.dir linkedEntries) := by
  have hcheck : FileSystem.checkPath (winding turns) = .ok () := by
    have hasked : FileSystem.checkText (asked (winding turns) ((winding turns).descend [])) =
        .ok () := by
      rw [checkText_asked_winding turns (by simp), if_neg (by simpa using hturns)]
    rwa [Path.descend_nil, asked_winding] at hasked
  have hparts : FileSystem.follow linked.top false FileSystem.maxLinks ["work"]
      (winding turns).parts = .ok (.found ["work", "d"] (.dir linkedEntries)) :=
    (follow_in _).trans (follow_turns turns)
  have hstart : linked.start (winding turns) = ["work"] := rfl
  rw [Path.ofString_toString (isProper_winding turns)]
  unfold FileSystem.find FileSystem.locate
  rw [hcheck]
  dsimp only
  rw [hstart, hparts]

/-- A file two levels down is brought, and a link to the directory that holds it is not. -/
theorem explore_exact_linked :
    let config : Config := { baseDir := .here }
    let host := Host.usual fun _ _ => .node ⟨"program", true, none, 0, 1, 0, false, false⟩ []
    linked.top.WellFormed ∧ linked.find (.ofString "d") = .ok (.dir linkedEntries) ∧
      (FileTree.dir linkedEntries).isDir = true ∧
      ∃ paths, explore host linked config (.ofString "d") = .ok paths ∧
        paths.Pairwise (fun p q => p.key < q.key) ∧
        ⟨"", ["d", "sub1", "f.js"]⟩ ∈ paths ∧ ⟨"", ["d", "l.js"]⟩ ∉ paths := by
  intro config host
  have htarget : Path.ofString "d" = winding 0 := by decide
  have htext : (winding 0).toString = "d" := by decide
  have haccepted : ∀ names ∈ [[], ["sub1"], ["l.js"]], FileSystem.checkText
      (asked (.ofString "d") ((Path.ofString "d").descend names)) = .ok () := by
    decide
  have hfind : linked.find (.ofString "d") = .ok (.dir linkedEntries) := by
    rw [← htext]
    exact find_winding (by decide)
  obtain ⟨hlist, hsearchable, hexact⟩ :=
    explore_exact host config wellFormed_linked hfind rfl
  obtain ⟨paths, hpaths⟩ := hlist.2 (hsearchable (Host.exists_readPattern_default _ _)
    fun way hway => Host.refusesLevel_usual _ (hway.length_lt.le.trans (by decide)))
  obtain ⟨hsorted, hmem⟩ := hexact paths hpaths
  refine ⟨wellFormed_linked, hfind, rfl, paths, hpaths, hsorted, (hmem _).2 ?_, fun h => ?_⟩
  · have hsub : IsMet linked config (.ofString "d") ((Path.ofString "d").child "sub1")
        (.dir [("f.js", .file [])]) ["f.js"] :=
      (isMet_cons rfl).2 ⟨haccepted ["sub1"] (by simp), .inl ⟨rfl, not_isFolder_file⟩⟩
    exact ⟨["sub1", "f.js"], rfl,
      (isMet_cons rfl).2 ⟨haccepted [] (by simp), .inr ⟨by decide, hsub⟩⟩, by decide +kernel⟩
  · obtain ⟨names, hnames, hmet, -⟩ := (hmem _).1 h
    obtain rfl : names = ["l.js"] := by
      rw [htarget] at hnames
      simpa [Path.descend, winding] using (congrArg Path.parts hnames).symm
    obtain ⟨leaf, hleaf, hfolder⟩ := hmet.isFile
    obtain rfl : FileTree.link "sub1" = leaf := Option.some.inj hleaf
    refine hfolder (.inr ⟨⟨_, rfl⟩, haccepted ["l.js"] (by simp), ["work", "d", "sub1"],
      .dir [("f.js", .file [])], ?_, rfl⟩)
    rw [htarget]
    exact (follow_in _).trans follow_link

/-! ## What is not found -/

section Limits

variable (parse : Language → String → ParseTree)

/-- A configuration without patterns. -/
def plain : Config := { baseDir := .here, excludePatterns := [] }

theorem isAnalyzable_plain {host : Host} (hname : p.name = "f.js" ∨ p.name = "l.js") :
    isAnalyzable host plain p = .ok true := by
  have hsuffix : Text.lower p.suffix ∈ plain.allowedExtensions := by
    rw [Path.suffix]
    rcases hname with hname | hname <;> rw [hname] <;> decide
  rw [isAnalyzable, if_pos (List.contains_iff_mem.2 hsuffix)]
  rfl

/-- **A long way is not gone.** Here the text of the target has 4091 bytes, and that of an entry of
four letters has 4096. The directory `sub1` is not opened, so the file in it is not found although
it is neither ignored nor behind a link, and the link to the directory is taken for a file. -/
theorem explore_longTarget :
    linked.find (winding 818) = .ok (.dir linkedEntries) ∧
      ∃ paths, explore (.usual parse) linked plain (winding 818) = .ok paths ∧
        (winding 818).descend ["sub1", "f.js"] ∉ paths ∧
        (winding 818).descend ["l.js"] ∈ paths := by
  have hfind : linked.find (winding 818) = .ok (.dir linkedEntries) := by
    rw [← Path.ofString_toString (isProper_winding 818)]
    exact find_winding (by decide)
  have haccepted : FileSystem.checkText (asked (winding 818) (winding 818)) = .ok () := by
    have hnames : ∀ name ∈ [], '\x00' ∉ String.toList name := by simp
    have htext := checkText_asked_winding 818 hnames
    rwa [Path.descend_nil, if_neg (by decide)] at htext
  have hrefused : ∀ name ∈ ["sub1", "l.js"],
      FileSystem.checkText (asked (winding 818) ((winding 818).child name)) =
        .error .nameTooLong := by
    intro name hname
    have hnull : '\x00' ∉ name.toList := by revert name; decide
    have hsize : name.utf8ByteSize = 4 := by revert name; decide
    rw [← Path.descend_singleton, checkText_asked_winding 818 (by simpa using hnull)]
    simp [hsize, FileSystem.maxPathBytes]
  have hsearchable : IsSearchable (.usual parse) linked plain (winding 818) (.dir linkedEntries) :=
    isSearchable_usual (by simp [plain]) (by decide)
  obtain ⟨paths, hpaths⟩ := (exists_explore_iff wellFormed_linked hfind rfl).2 hsearchable
  have hmem := fun p => mem_explore_iff (p := p) wellFormed_linked hfind rfl hpaths
  refine ⟨hfind, paths, hpaths, fun h => ?_, (hmem _).2 ⟨["l.js"], rfl, ?_, ?_⟩⟩
  · obtain ⟨names, hnames, hmet, -⟩ := (hmem _).1 h
    obtain rfl : ["sub1", "f.js"] = names := List.append_cancel_left (congrArg Path.parts hnames)
    obtain ⟨-, ⟨hnil, -⟩ | ⟨-, hbelow⟩⟩ := (isMet_cons rfl).1 hmet
    · cases hnil
    · have hopened := hbelow.opened.2
      rw [hrefused "sub1" (by simp)] at hopened
      cases hopened
  · refine (isMet_cons rfl).2 ⟨haccepted, .inl ⟨rfl, ?_⟩⟩
    rintro (hdir | ⟨-, htaken, -⟩)
    · cases hdir
    · rw [hrefused "l.js" (by simp)] at htaken
      cases htaken
  · exact isAnalyzable_plain (.inr (by simp [Path.name, Path.descend]))

/-- A file system with one file. -/
def single : FileSystem := ⟨.dir [("a.js", .file [])], []⟩

theorem wellFormed_single : single.top.WellFormed :=
  .dir (by simp) (by decide) (by simpa using .file [])

theorem find_top (top : FileTree) : (FileSystem.mk top []).find (.ofString "/") = .ok top := by
  have hcheck : FileSystem.checkPath (.ofString "/") = .ok () := by decide
  have hparts : (Path.ofString "/").parts = [] := by decide
  have htop : FileSystem.follow top false FileSystem.maxLinks [] [] = .ok (.found [] top) :=
    FileSystem.follow_nil rfl
  have hstart : (FileSystem.mk top []).start (.ofString "/") = [] := rfl
  unfold FileSystem.find FileSystem.locate
  rw [hcheck, hparts]
  dsimp only
  rw [hstart, htop]

/-- **A pattern that cannot be read stops a search** at the first file that it would be tried on. -/
theorem explore_unreadable (tree : ParseTree) :
    explore (.usual fun _ _ => tree) single { plain with excludePatterns := ["("] }
      (.ofString "/") =
        .error (.pattern ⟨"(", .malformed "missing ), unterminated subpattern" (some 0)⟩) := by
  have hfind : single.find (.ofString "/") = .ok single.top := find_top _
  rw [explore, encounters_eq hfind]
  rfl

/-- So many directories, one in the other. -/
def nested : ℕ → FileTree
  | 0 => .empty
  | n + 1 => .dir [("d", nested n)]

theorem wellFormed_nested (n : ℕ) : (nested n).WellFormed := by
  induction n with
  | zero => exact .dir (by simp) (by simp) (by simp)
  | succ n ih =>
    have hd : FileTree.IsEntryName "d" := by decide
    exact .dir (by simp) (by simpa using hd) (by simpa using ih)

theorem isDir_nested (n : ℕ) : (nested n).isDir = true := by
  cases n <;> rfl

/-- The search comes to all of them, if the system takes their texts. -/
theorem isReached_nested {fs : FileSystem} {shown : Path} {k n : ℕ} (hk : k ≤ n)
    (haccepted : ∀ j < k, FileSystem.checkText
      (asked target (shown.descend (List.replicate j "d"))) = .ok ()) :
    IsReached fs plain target shown (nested n) (List.replicate k "d") := by
  induction k generalizing n shown with
  | zero => exact isReached_nil.2 (.inl (isDir_nested n))
  | succ k ih =>
    obtain ⟨m, rfl⟩ := Nat.exists_eq_add_of_le' (Nat.lt_of_lt_of_le k.succ_pos hk)
    have hhere := haccepted 0 k.succ_pos
    refine (isReached_cons rfl).2 ⟨by rwa [List.replicate_zero, Path.descend_nil] at hhere,
      by decide, ih (by omega) fun j hj => ?_⟩
    have hbelow := haccepted (j + 1) (by omega)
    rwa [List.replicate_succ, Path.descend_cons] at hbelow

theorem checkText_replicate {k : ℕ} (hk : 2 * k ≤ FileSystem.maxPathBytes) :
    FileSystem.checkText (asked (.ofString "/")
      ((Path.ofString "/").descend (List.replicate k "d"))) = .ok () := by
  have htarget : Path.ofString "/" = ⟨"/", []⟩ := by decide
  have hasked : asked ⟨"/", []⟩ ((⟨"/", []⟩ : Path).descend (List.replicate k "d")) =
      "/" ++ "/".intercalate (List.replicate k "d") := by
    rw [asked, if_neg (by decide), Path.toString]
    simp [Path.descend]
  have hnull : '\x00' ∉ ("/" ++ "/".intercalate (List.replicate k "d")).toList := by
    have hd : '\x00' ∉ "d".toList := by decide
    have hbelow : '\x00' ∉ ("/".intercalate (List.replicate k "d")).toList := by
      rw [Path.mem_toList_intercalate (by decide)]
      rintro ⟨part, hpart, hmem⟩
      rw [(List.mem_replicate.1 hpart).2] at hmem
      exact hd hmem
    rw [String.toList_append, List.mem_append]
    exact fun h => h.elim (by decide) hbelow
  have hsize : ("/" ++ "/".intercalate (List.replicate k "d")).utf8ByteSize ≤
      FileSystem.maxPathBytes := by
    have hslash : "/".utf8ByteSize = 1 := rfl
    rw [String.utf8ByteSize_append, hslash]
    by_cases hzero : k = 0
    · subst hzero
      decide
    · have hd : "d".utf8ByteSize = 1 := rfl
      have hne : List.replicate k "d" ≠ [] := by simpa using hzero
      have hsum := utf8ByteSize_intercalate hne
      simp only [List.map_replicate, List.sum_replicate_nat, hd] at hsum
      omega
  rw [htarget, hasked, FileSystem.checkText, if_neg (by simpa using hnull),
    if_neg (Nat.not_lt.2 hsize)]

/-- **A search does not go down without end**: it stops where the host does not let it go on. -/
theorem explore_nested :
    ∀ paths, explore (.usual parse) ⟨nested 901, []⟩ plain (.ofString "/") ≠ .ok paths := by
  intro paths h
  have hfind : (FileSystem.mk (nested 901) []).find (.ofString "/") = .ok (nested 901) := find_top _
  have hsearchable := (exists_explore_iff (wellFormed_nested 901) hfind (isDir_nested _)).1
    ⟨paths, h⟩
  have hnear := hsearchable.near (List.replicate 901 "d") (isReached_nested le_rfl fun j hj =>
    checkText_replicate (by simp [FileSystem.maxPathBytes]; omega))
  rw [List.length_replicate] at hnear
  cases hnear

/-- **Three limits of a search.** A file in a directory that is no link and not ignored is not found
where the text of its directory is too long, and a link to a directory is taken for a file there; a
pattern that cannot be read leaves a search of one file without a list; and so does a directory too
far down. -/
theorem explore_limits :
    let host := Host.usual fun _ _ => .node ⟨"program", true, none, 0, 0, 0, false, false⟩ []
    (linked.top.WellFormed ∧ linked.find (winding 818) = .ok (.dir linkedEntries) ∧
      (FileTree.dir linkedEntries).at? ["sub1"] = some (.dir [("f.js", .file [])]) ∧
      "sub1" ∉ plain.ignoreDirs ∧
      isAnalyzable host plain ((winding 818).descend ["sub1", "f.js"]) = .ok true ∧
      (FileTree.dir linkedEntries).at? ["l.js"] = some (.link "sub1") ∧
      FileSystem.follow linked.top false FileSystem.maxLinks ["work", "d"] ["l.js"] =
        .ok (.found ["work", "d", "sub1"] (.dir [("f.js", .file [])])) ∧
      ∃ paths, explore host linked plain (winding 818) = .ok paths ∧
        (winding 818).descend ["sub1", "f.js"] ∉ paths ∧
        (winding 818).descend ["l.js"] ∈ paths) ∧
    (single.top.WellFormed ∧ single.find (.ofString "/") = .ok single.top ∧
      explore host single { plain with excludePatterns := ["("] } (.ofString "/") =
        .error (.pattern ⟨"(", .malformed "missing ), unterminated subpattern" (some 0)⟩)) ∧
    ((nested 901).WellFormed ∧
      (FileSystem.mk (nested 901) []).find (.ofString "/") = .ok (nested 901) ∧
      ∀ paths, explore host ⟨nested 901, []⟩ plain (.ofString "/") ≠ .ok paths) := by
  intro host
  have hfile : isAnalyzable host plain ((winding 818).descend ["sub1", "f.js"]) = .ok true :=
    isAnalyzable_plain (.inl (by simp [Path.name, Path.descend]))
  obtain ⟨hfind, hlong⟩ := explore_longTarget fun _ _ =>
    .node ⟨"program", true, none, 0, 0, 0, false, false⟩ []
  exact ⟨⟨wellFormed_linked, hfind, rfl, by decide, hfile, rfl, follow_link, hlong⟩,
    ⟨wellFormed_single, find_top _, explore_unreadable _⟩,
    ⟨wellFormed_nested 901, find_top _, explore_nested _⟩⟩

end Limits

end Discovery

end SmellScan
