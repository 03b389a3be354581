import Mathlib.Data.List.Basic
import Mathlib.Data.List.Perm.Basic
import SmellScan.Proofs.Analysis.Logged
import SmellScan.Proofs.FirstWins
import SmellScan.Report.PlainText

/-!
# Findings by file, and smells by number

Findings are sorted into groups one after the other, and smells are counted in the same way: the
value of a key in a table is changed, or begun if the table has none (`adjust`). What results is a
table of the keys in the order of first appearance, each with what became of the elements of that
key (`foldl_adjust`). The elements of all keys, one key after the other, are a rearrangement of the
list (`perm_flatMap_ofKey`), so that none is lost or counted twice, and they are the list itself
where keys ascend (`flatMap_ofKey_of_ascending`), as files do in the report of an analysis.
-/

namespace SmellScan

/-! ## Elements by key -/

section Keys

variable {α β κ : Type} [DecidableEq κ] (key : α → κ)

/-- The keys of a list, each once, in the order of first appearance. -/
def keysOf (as : List α) : List κ :=
  firsts id (as.map key)

/-- The elements of one key, in order. -/
def ofKey (as : List α) (k : κ) : List α :=
  as.filter (key · = k)

/-- A table in which the value of a key is changed, from `zero` if there is none. -/
def adjust (k : κ) (zero : β) (change : β → β) : List (κ × β) → List (κ × β)
  | [] => [(k, change zero)]
  | (k', b) :: table =>
    if k' = k then (k', change b) :: table else (k', b) :: adjust k zero change table

variable {key}

theorem mem_keysOf {k : κ} {as : List α} : k ∈ keysOf key as ↔ ∃ a ∈ as, key a = k := by
  have h := @mem_map_firsts _ _ _ id k (as.map key)
  rwa [List.map_id, List.map_id, List.mem_map] at h

theorem nodup_keysOf (as : List α) : (keysOf key as).Nodup := by
  have h := nodup_map_firsts id (as.map key)
  rwa [List.map_id] at h

theorem keysOf_append_singleton (as : List α) (a : α) :
    keysOf key (as ++ [a]) = addNew id (keysOf key as) (key a) := by
  rw [keysOf, List.map_append, List.map_singleton, ← foldl_addNew_firsts]
  rfl

/-- Without its first element and all others of that key, a list has the same keys but for that
one. -/
theorem keysOf_cons (a : α) (as : List α) :
    keysOf key (a :: as) = key a :: keysOf key (as.filter (key · ≠ key a)) := by
  have h := firsts_filter id (fun k => decide (k ≠ key a)) (as.map key)
  rw [List.filter_map] at h
  rw [keysOf, List.map_cons, firsts]
  exact congrArg (key a :: ·) h.symm

theorem ofKey_eq_nil {k : κ} {as : List α} (h : k ∉ keysOf key as) : ofKey key as k = [] := by
  refine List.filter_eq_nil_iff.2 fun a ha => ?_
  simpa using fun hk => h (mem_keysOf.2 ⟨a, ha, hk⟩)

theorem ofKey_append_singleton (as : List α) (a : α) (k : κ) :
    ofKey key (as ++ [a]) k = ofKey key as k ++ if k = key a then [a] else [] := by
  rw [ofKey, List.filter_append, List.filter_singleton]
  by_cases hk : k = key a
  · simp [hk, ofKey]
  · simp [hk, Ne.symm hk, ofKey]

/-- One step: in a table of keys that differ, the value of one is changed. -/
theorem adjust_map {keys : List κ} (hkeys : keys.Nodup) {k : κ} {zero : β} {value : κ → β}
    (hnew : k ∉ keys → value k = zero) (change : β → β) :
    adjust k zero change (keys.map fun k' => (k', value k')) =
      (addNew id keys k).map fun k' => (k', if k' = k then change (value k') else value k') := by
  induction keys with
  | nil => simp [adjust, addNew, hnew]
  | cons k₀ keys ih =>
    obtain ⟨hk₀, hkeys⟩ := List.nodup_cons.1 hkeys
    rw [List.map_cons, adjust]
    by_cases hk : k₀ = k
    · -- the other keys differ from this one, so their values stay
      subst hk
      rw [if_pos rfl, addNew, if_pos (by simp), List.map_cons, if_pos rfl]
      refine congrArg ((k₀, change (value k₀)) :: ·) (List.map_congr_left fun k' hk' => ?_)
      have hne : k' ≠ k₀ := fun h => hk₀ (h ▸ hk')
      rw [if_neg hne]
    · have hadd : addNew id (k₀ :: keys) k = k₀ :: addNew id keys k := by
        by_cases hmem : k ∈ keys <;> simp [addNew, hmem, Ne.symm hk]
      rw [if_neg hk, hadd, List.map_cons, if_neg hk,
        ih hkeys fun h => hnew (by simp [h, Ne.symm hk])]

/-- **A table that is made one element after the other** has the keys in the order of first
appearance, each with the value of the elements of that key, if `change` is what one more element
does to a value. -/
theorem foldl_adjust (key : α → κ) {value : List α → β} {change : α → β → β}
    (hchange : ∀ as a, value (as ++ [a]) = change a (value as)) (as : List α) :
    as.foldl (fun table a => adjust (key a) (value []) (change a) table) [] =
      (keysOf key as).map fun k => (k, value (ofKey key as k)) := by
  induction as using List.reverseRecOn with
  | nil => rfl
  | append_singleton as a ih =>
    rw [List.foldl_append, ih, List.foldl_cons, List.foldl_nil,
      adjust_map (nodup_keysOf as) (fun h => by rw [ofKey_eq_nil h]), keysOf_append_singleton]
    refine List.map_congr_left fun k _ => ?_
    rw [ofKey_append_singleton]
    split_ifs with hk
    · rw [hchange]
    · rw [List.append_nil]

/-! ## All keys together -/

theorem flatMap_ofKey_cons (a : α) (as : List α) :
    (keysOf key (a :: as)).flatMap (ofKey key (a :: as)) =
      a :: (ofKey key as (key a) ++ (keysOf key (as.filter (key · ≠ key a))).flatMap
        (ofKey key (as.filter (key · ≠ key a)))) := by
  have hothers : ∀ k ∈ keysOf key (as.filter (key · ≠ key a)),
      ofKey key (a :: as) k = ofKey key (as.filter (key · ≠ key a)) k := by
    intro k hk
    obtain ⟨b, hb, rfl⟩ := mem_keysOf.1 hk
    have hne : key b ≠ key a := of_decide_eq_true (List.mem_filter.1 hb).2
    rw [ofKey, ofKey, List.filter_cons_of_neg (by simpa using Ne.symm hne), List.filter_filter]
    refine List.filter_congr fun c _ => ?_
    by_cases hc : key c = key b
    · simp [hc, hne]
    · simp [hc]
  rw [keysOf_cons, List.flatMap_cons, List.flatMap_congr hothers, ofKey,
    List.filter_cons_of_pos (by simp), List.cons_append, ofKey]

/-- Induction over a list that deals with one key at a time, that of the first element. -/
@[elab_as_elim] theorem inductionByKey (key : α → κ) {motive : List α → Prop} (nil : motive [])
    (cons : ∀ a as, motive (as.filter (key · ≠ key a)) → motive (a :: as)) (as : List α) :
    motive as := by
  induction hlength : as.length using Nat.strong_induction_on generalizing as with
  | _ length ih =>
    cases as with
    | nil => exact nil
    | cons a as =>
      have hshorter : (as.filter (key · ≠ key a)).length < length := by
        rw [← hlength, List.length_cons, Nat.lt_succ_iff]
        exact List.length_filter_le _ as
      exact cons a as (ih _ hshorter _ rfl)

/-- **The elements by key are all elements**, none lost and none twice. -/
theorem perm_flatMap_ofKey (as : List α) :
    ((keysOf key as).flatMap (ofKey key as)).Perm as := by
  induction as using inductionByKey key with
  | nil => exact List.Perm.nil
  | cons a as ih =>
    rw [flatMap_ofKey_cons]
    refine List.Perm.cons a ((ih.append_left _).trans ?_)
    simpa [ofKey] using List.filter_append_perm (key · = key a) as

section Ascending

variable {le : κ → κ → Prop} (hanti : ∀ k k', le k k' → le k' k → k = k')
include hanti

/-- In ascending order, the elements of the least key come first. -/
theorem ofKey_append_of_ascending {k : κ} {as : List α} (hleast : ∀ a ∈ as, le k (key a))
    (h : as.Pairwise fun a b => le (key a) (key b)) :
    ofKey key as k ++ as.filter (key · ≠ k) = as := by
  induction as with
  | nil => rfl
  | cons a as ih =>
    obtain ⟨hka, hleast⟩ := List.forall_mem_cons.1 hleast
    obtain ⟨ha, has⟩ := List.pairwise_cons.1 h
    by_cases hk : key a = k
    · have hrest := ih hleast has
      rw [ofKey, List.filter_cons_of_pos (by simpa using hk),
        List.filter_cons_of_neg (by simpa using hk), List.cons_append]
      exact congrArg (a :: ·) hrest
    · -- nothing of the least key comes behind an element of another
      have hne : ∀ b ∈ a :: as, key b ≠ k := by
        refine List.forall_mem_cons.2 ⟨hk, fun b hb hbk => hk ?_⟩
        exact hanti _ _ (hbk ▸ ha b hb) hka
      rw [ofKey, List.filter_eq_nil_iff.2 (by simpa using hne), List.nil_append]
      exact List.filter_eq_self.2 (by simpa using hne)

/-- **Where keys ascend, the elements by key are the list itself.** -/
theorem flatMap_ofKey_of_ascending {as : List α}
    (h : as.Pairwise fun a b => le (key a) (key b)) :
    (keysOf key as).flatMap (ofKey key as) = as := by
  induction as using inductionByKey key with
  | nil => rfl
  | cons a as ih =>
    obtain ⟨ha, has⟩ := List.pairwise_cons.1 h
    rw [flatMap_ofKey_cons, ih (has.filter _), ofKey_append_of_ascending hanti ha has]

end Ascending

end Keys

/-! ## Reports -/

namespace Report

theorem addToGroup_eq (f : Finding) (groups : List (String × List Finding)) :
    addToGroup f groups = adjust f.file [] (· ++ [f]) groups := by
  induction groups with
  | nil => rfl
  | cons group groups ih =>
    obtain ⟨file, fs⟩ := group
    simp only [addToGroup, adjust, beq_iff_eq, ih]

theorem addCount_eq (name : String) (counts : List (String × ℕ)) :
    addCount name counts = adjust name 0 (· + 1) counts := by
  induction counts with
  | nil => rfl
  | cons count counts ih =>
    obtain ⟨other, n⟩ := count
    simp only [addCount, adjust, beq_iff_eq, ih]

/-- **The groups of a report**: each file with its findings, in the order of the report. -/
theorem byFile_eq (r : Report) :
    r.byFile = (keysOf Finding.file r.findings).map fun file =>
      (file, ofKey Finding.file r.findings file) := by
  simp only [byFile, addToGroup_eq]
  exact @foldl_adjust _ _ _ _ Finding.file id (fun f group => group ++ [f]) (fun _ _ => rfl)
    r.findings

/-- **The counts of a report**: each smell with the number of its findings. -/
theorem smellCounts_eq (r : Report) :
    r.smellCounts = (keysOf Finding.smell r.findings).map fun smell =>
      (smell, (ofKey Finding.smell r.findings smell).length) := by
  simp only [smellCounts, addCount_eq]
  exact @foldl_adjust _ _ _ _ Finding.smell List.length (fun _ n => n + 1)
    (fun _ _ => List.length_append) r.findings

/-- The counts give, for each key in the order of first appearance, the number of findings that have
it. -/
structure IsTally (key : Finding → String) (fs : List Finding) (counts : List (String × ℕ)) :
    Prop where
  keys : counts.map Prod.fst = keysOf key fs
  count : ∀ c ∈ counts, c.2 = (fs.filter (key · = c.1)).length
  /-- No finding is left out and none counts twice. -/
  sum : (counts.map Prod.snd).sum = fs.length

/-- The groups of a report are a partition of its findings that keeps their order, and the numbers
that are shown of it add up. -/
structure IsPartition (r : Report) : Prop where
  /-- Files come in the order of first appearance, each once. -/
  files : r.byFile.map Prod.fst = keysOf Finding.file r.findings
  /-- A group holds the findings of its file, in the order of the report. -/
  group : ∀ file fs, (file, fs) ∈ r.byFile → fs = r.findings.filter (·.file = file)
  sizes : (r.byFile.map fun g => g.2.length).sum = r.findings.length
  /-- The total of the summary is the sum of the numbers that it gives for the files. -/
  summary : ∃ counts : List (String × ℕ),
    IsTally Finding.file r.findings counts ∧
    r.summary = "\n".intercalate (["", "Summary Report:", "===============",
      s!"Total Code Smells: {(counts.map Prod.snd).sum}",
      "Average Defects Per File: " ++ r.average.fixed 2, "", "Defects by File:"] ++
      counts.map fun c => s!"{c.1}: {c.2} defects")
  /-- The numbers in the list of detected smells have the same sum. -/
  detected : ∃ counts : List (String × ℕ),
    IsTally Finding.smell r.findings counts ∧
    r.detected = "\n".intercalate (["", "Detected Code Smells:", "===================="] ++
      counts.map fun c => s!"- {c.1} ({c.2} occurrences)")

theorem isTally_keysOf (key : Finding → String) (fs : List Finding) :
    IsTally key fs ((keysOf key fs).map fun k => (k, (ofKey key fs k).length)) where
  keys := by
    rw [List.map_map]
    exact List.map_id _
  count := by
    intro c hc
    obtain ⟨k, -, rfl⟩ := List.mem_map.1 hc
    rfl
  sum := by
    rw [List.map_map]
    exact List.length_flatMap.symm.trans (perm_flatMap_ofKey fs).length_eq

theorem isPartition (r : Report) : r.IsPartition := by
  have htally := isTally_keysOf Finding.file r.findings
  have hcounts : r.byFile.map (fun g => (g.1, g.2.length)) =
      (keysOf Finding.file r.findings).map fun k =>
        (k, (ofKey Finding.file r.findings k).length) := by
    rw [byFile_eq, List.map_map]
    rfl
  rw [← hcounts] at htally
  constructor
  · simpa [Function.comp_def] using htally.keys
  · intro file fs h
    rw [byFile_eq] at h
    obtain ⟨file', -, heq⟩ := List.mem_map.1 h
    obtain ⟨rfl, rfl⟩ := Prod.mk.inj heq
    rfl
  · simpa [Function.comp_def] using htally.sum
  · refine ⟨_, htally, ?_⟩
    rw [htally.sum, List.map_map]
    rfl
  · refine ⟨r.smellCounts, ?_, rfl⟩
    rw [smellCounts_eq]
    exact isTally_keysOf Finding.smell r.findings

/-- Files ascend in the report of an analysis. -/
theorem flatMap_byFile_of_sumsUp {r : Report} {outcomes : List Analysis.FileOutcome}
    (h : Analysis.SumsUp outcomes r) : r.byFile.flatMap Prod.snd = r.findings := by
  have hsorted : r.findings.Pairwise fun f g => f.file ≤ g.file := by
    rw [h.findings]
    refine (isStableSort_mergeSort _).sorted.imp ?_
    rintro f g (hlt | ⟨heq, -⟩)
    · exact String.not_lt.1 (String.lt_asymm hlt)
    · exact heq ▸ String.le_refl _
  rw [byFile_eq, List.flatMap_map]
  exact flatMap_ofKey_of_ascending (fun _ _ => String.le_antisymm) hsorted

/-- **Grouping is a partition that keeps the order.** Files come in the order of first appearance,
each with its findings in the order of the report, and the numbers of the summary and of the list of
detected smells add up to the number of findings. In the report of an analysis, with a log or
without one, the groups one after the other are the findings as they are. -/
theorem byFile_partition (r : Report) :
    r.IsPartition ∧
      ∀ (fs : FileSystem) (host : Host) (config : Config) (clock : Clock) (target : Path)
        (names : Option (List String)) (run : Analysis.Outcome),
        (run = Analysis.analyzePath fs host config clock target names ∨
          ∃ log, run = (Analysis.record log clock fs
            (Analysis.analyzePath fs host config clock target names)).1) →
        run.result = .ok r → r.byFile.flatMap Prod.snd = r.findings := by
  refine ⟨isPartition r, fun fs host config clock target names run hrun hresult => ?_⟩
  have hreport : (Analysis.analyzePath fs host config clock target names).result = .ok r := by
    rcases hrun with rfl | ⟨log, rfl⟩
    · exact hresult
    · exact (Analysis.appendAll_of_record hresult (by simp)).1
  obtain ⟨outcomes, hsums, -⟩ := Analysis.events_of_report hreport
  exact flatMap_byFile_of_sumsUp hsums

/-- A report in which two files take turns has a group for each, and the groups of a file that is
analysed are its findings in a row. -/
theorem byFile_partition_turns :
    let finding (file : String) (line : ℤ) : Finding :=
      ⟨file, line, "Lengthy Lines", "too long", "break it", none⟩
    let turns : Report :=
      { root := "/", findings := [finding "b" 1, finding "a" 1, finding "b" 2] }
    let target : Path := ⟨"/", ["a.js"]⟩
    let fs : FileSystem := ⟨.dir [("a.js", .file [0x31, 0x0A, 0x32])], []⟩
    let host : Host := .usual fun _ _ => .node ⟨"program", true, none, 0, 3, 0, false, false⟩ []
    let config : Config := { baseDir := .here, lineLengthWarning := 0 }
    let clock : Clock := { now := fun _ => { year := 2024, month := 1, day := 2 } }
    turns.IsPartition ∧
      turns.byFile = [("b", [finding "b" 1, finding "b" 2]), ("a", [finding "a" 1])] ∧
      ∃ report, (Analysis.analyzePath fs host config clock target
          (some ["Lengthy Lines"])).result = .ok report ∧
        report.byFile.flatMap Prod.snd = report.findings := by
  intro finding turns target fs host config clock
  have hselect : Smell.select (some ["Lengthy Lines"]) = .ok [.lengthyLines] := by decide
  have htarget : fs.locate false target = .ok (.found ["a.js"] (.file [0x31, 0x0A, 0x32])) :=
    FileSystem.locate_entry (by decide) (by decide) rfl rfl (by simp)
  have hanalyzable : Discovery.isAnalyzable host config target = .ok true := by decide +kernel
  have htext : fs.readText target = .ok "1\n2" := by
    rw [FileSystem.readText, FileSystem.readBytes_of_locate htarget]
    decide +kernel
  have hout : Analysis.analyzeFile fs host config [.lengthyLines] target =
      .ok (Analysis.analyzeText host config [.lengthyLines] target.toString "1\n2") :=
    Analysis.analyzeFile_of_readText htext
  have hresult := Analysis.analyzePath_file fs host config clock hselect htarget hanalyzable
    (by simp [config]) hout
  exact ⟨(byFile_partition turns).1, by decide, _, hresult,
    (byFile_partition _).2 fs host config clock target _ _ (Or.inl rfl) hresult⟩

end Report

end SmellScan
