import Mathlib.Data.List.Basic
import Mathlib.Data.List.Perm.Basic
import SmellScan.Analysis
import SmellScan.Proofs.FileSystem.WellFormed
import SmellScan.Proofs.Ledger.Entries
import SmellScan.Proofs.Ledger.Order
import SmellScan.Proofs.SortByKey

/-!
# A batch is the sum of its files

The findings of a file carry its path, hold each key once and are in order (`Settled`), so the
ledger of a batch has nothing to merge across files and nothing to reorder within one. What is left
is to put the files in ascending order of their paths (`mergeFindings_eq`). Hence the order of the
list does not matter for findings, and taking a file out of the list takes its findings and its
diagnostic out of the result and changes nothing else (`analyzeFiles_decomposes`).
-/

namespace SmellScan.Analysis

/-! ## One file -/

/-- What holds of the outcome for one file. -/
structure FileOutcome.Settled (o : FileOutcome) : Prop where
  /-- Findings carry the path of the file. -/
  file_eq : ∀ f ∈ o.findings, f.file = o.path
  /-- No key stands twice. -/
  nodup_keys : (o.findings.map Finding.key).Nodup
  /-- Findings are in order. -/
  sorted : o.findings.Pairwise fun f g => f.file < g.file ∨ f.file = g.file ∧ f.line ≤ g.line
  /-- A diagnostic carries the path of the file. -/
  diagnostic_file : ∀ d ∈ o.diagnostic, d.file = o.path

theorem file_eq_of_mem_run {s : Smell} {unit : SourceUnit} {config : Config} {f : Finding}
    (h : f ∈ s.run unit config) : f.file = unit.path := by
  obtain ⟨o, -, rfl⟩ := List.mem_map.1 h
  rfl

/-- The ledger of several lists, fed one after the other, is that of all of them in a row. -/
theorem foldl_extend {α : Type} (feed : α → List Finding) (l : Ledger) (as : List α) :
    as.foldl (fun l a => l.extend (feed a)) l = l.extend (as.flatMap feed) := by
  induction as generalizing l with
  | nil => rfl
  | cons a as ih => rw [List.foldl_cons, ih, Ledger.extend_extend, List.flatMap_cons]

theorem analyzeUnit_findings (unit : SourceUnit) (config : Config) (smells : List Smell) :
    (analyzeUnit unit config smells).1 =
      (firsts Finding.key (smells.flatMap fun s => s.run unit config)).mergeSort Finding.le := by
  rw [analyzeUnit, foldl_extend, Ledger.findings, Ledger.entries_empty_extend]

theorem settled_analyzeUnit (unit : SourceUnit) (config : Config) (smells : List Smell)
    (warning : Option String) :
    FileOutcome.Settled ⟨unit.path, (analyzeUnit unit config smells).1,
      (analyzeUnit unit config smells).2, warning⟩ := by
  have hperm := List.mergeSort_perm
    (firsts Finding.key (smells.flatMap fun s => s.run unit config)) Finding.le
  refine ⟨?_, ?_, ?_, ?_⟩ <;> simp only [analyzeUnit_findings]
  · intro f hf
    have hf' := (firsts_sublist Finding.key _).subset (hperm.subset hf)
    obtain ⟨s, -, hs⟩ := List.mem_flatMap.1 hf'
    exact file_eq_of_mem_run hs
  · exact (hperm.map Finding.key).nodup_iff.2 (nodup_map_firsts Finding.key _)
  · exact (isStableSort_mergeSort _).sorted
  · intro d hd
    obtain ⟨e, -, rfl⟩ := Option.map_eq_some_iff.1 hd
    rfl

theorem path_of_ofSource {host : Host} {path source : String} {parse : Bool} {unit : SourceUnit}
    (h : SourceUnit.ofSource host path source parse = .ok unit) : unit.path = path := by
  unfold SourceUnit.ofSource at h
  split at h
  · cases h
    unfold SourceUnit.ofText
    split_ifs
    · dsimp only
      split <;> rfl
    · rfl
  · cases h

section Files

variable (fs : FileSystem) (host : Host) (config : Config) (smells : List Smell)

theorem path_analyzeText (path text : String) :
    (analyzeText host config smells path text).path = path := by
  unfold analyzeText
  split_ifs
  · rfl
  · split <;> rfl

theorem settled_analyzeText (path text : String) :
    (analyzeText host config smells path text).Settled := by
  unfold analyzeText
  split_ifs
  · exact ⟨by simp, by simp, by simp, by simp⟩
  · split
    · exact ⟨by simp, by simp, by simp, by simp⟩
    · rename_i findings diagnostic h
      unfold analyzeSource at h
      split at h
      · rename_i unit hunit
        cases h
        rw [← path_of_ofSource hunit]
        exact settled_analyzeUnit unit config smells _
      · cases h

variable {fs host config smells} {p : Path} {o : FileOutcome}

theorem path_of_analyzeFile (h : analyzeFile fs host config smells p = .ok o) :
    o.path = p.toString := by
  unfold analyzeFile at h
  split at h
  · cases h
    exact path_analyzeText host config smells _ _
  · split_ifs at h
    cases h
    rfl

/-- **The outcome for a file**, read, passed over or refused, is settled. -/
theorem settled_of_analyzeFile (h : analyzeFile fs host config smells p = .ok o) : o.Settled := by
  unfold analyzeFile at h
  split at h
  · cases h
    exact settled_analyzeText host config smells _ _
  · split_ifs at h
    cases h
    exact ⟨by simp [FileOutcome.unreadable], by simp [FileOutcome.unreadable],
      by simp [FileOutcome.unreadable], by simp [FileOutcome.unreadable]⟩

/-- A file has an outcome unless its path cannot be given to the system. -/
theorem exists_analyzeFile_iff :
    (∃ o, analyzeFile fs host config smells p = .ok o) ↔ '\x00' ∉ p.toString.toList := by
  rw [← FileSystem.readText_eq_nullCharacter_iff, analyzeFile]
  cases fs.readText p with
  | ok text => simp
  | error e => by_cases he : e.fault = .nullCharacter <;> simp [he]

end Files

/-! ## Several files -/

variable {os qs : List FileOutcome}

/-- Choosing files by path is choosing findings by file. -/
theorem flatMap_findings_filter (hset : ∀ o ∈ os, o.Settled) (keep : String → Bool) :
    (os.filter fun o => keep o.path).flatMap (·.findings) =
      (os.flatMap (·.findings)).filter fun f => keep f.file := by
  induction os with
  | nil => rfl
  | cons o os ih =>
    obtain ⟨ho, hos⟩ := List.forall_mem_cons.1 hset
    have hfile : ∀ f ∈ o.findings, keep f.file = keep o.path := fun f hf => by rw [ho.file_eq f hf]
    rw [List.filter_cons, List.flatMap_cons, List.filter_append, ← ih hos]
    by_cases hkeep : keep o.path = true
    · have hall : o.findings.filter (fun f => keep f.file) = o.findings :=
        List.filter_eq_self.2 fun f hf => (hfile f hf).trans hkeep
      rw [if_pos hkeep, List.flatMap_cons, hall]
    · have hnone : o.findings.filter (fun f => keep f.file) = [] :=
        List.filter_eq_nil_iff.2 fun f hf => by rwa [hfile f hf]
      rw [if_neg hkeep, hnone, List.nil_append]

theorem diagnosticsOf_filter (hset : ∀ o ∈ os, o.Settled) (keep : String → Bool) :
    diagnosticsOf (os.filter fun o => keep o.path) =
      (diagnosticsOf os).filter fun d => keep d.file := by
  rw [diagnosticsOf, diagnosticsOf, List.filterMap_filter, List.filter_filterMap]
  refine List.filterMap_congr fun o ho => ?_
  cases hd : o.diagnostic with
  | none => simp
  | some d => simp [Option.filter, (hset o ho).diagnostic_file d hd]

/-- Files of different paths share no key. -/
theorem nodup_keys_flatMap (hset : ∀ o ∈ os, o.Settled) (hpaths : (os.map (·.path)).Nodup) :
    ((os.flatMap (·.findings)).map Finding.key).Nodup := by
  rw [List.map_flatMap, List.Nodup, List.pairwise_flatMap]
  refine ⟨fun o ho => (hset o ho).nodup_keys, ?_⟩
  refine (List.pairwise_map.1 hpaths).imp_of_mem fun {o o'} ho ho' hne k hk k' hk' => ?_
  obtain ⟨f, hf, rfl⟩ := List.mem_map.1 hk
  obtain ⟨f', hf', rfl⟩ := List.mem_map.1 hk'
  intro heq
  have hfile : f.file = f'.file := congrArg Prod.fst heq
  exact hne (((hset o ho).file_eq f hf).symm.trans (hfile.trans ((hset o' ho').file_eq f' hf')))

theorem nodup_of_ascending (h : qs.Pairwise fun o o' => o.path < o'.path) :
    (qs.map (·.path)).Nodup :=
  List.pairwise_map.2 (h.imp String.ne_of_lt)

/-- At most one file has a given path, so its place in the list does not matter. -/
theorem filter_path_eq (hperm : qs.Perm os) (hpaths : (os.map (·.path)).Nodup) (path : String) :
    qs.filter (·.path = path) = os.filter (·.path = path) := by
  have hnone : ∀ rs : List FileOutcome, (rs.map (·.path)).Nodup →
      (rs.filter (·.path = path)).Pairwise fun _ _ => False := by
    intro rs hrs
    refine ((List.pairwise_map.1 hrs).filter _).imp_of_mem fun {o o'} ho ho' hne => ?_
    simp only [List.mem_filter, decide_eq_true_eq] at ho ho'
    exact hne (ho.2.trans ho'.2.symm)
  exact List.Perm.eq_of_pairwise (fun _ _ _ _ h => h.elim)
    (hnone qs ((hperm.map _).nodup_iff.2 hpaths)) (hnone os hpaths) (hperm.filter _)

/-- Findings of settled files in ascending order of paths are stably sorted. -/
theorem isStableSort_flatMap (hset : ∀ o ∈ os, o.Settled) (hperm : qs.Perm os)
    (hsorted : qs.Pairwise fun o o' => o.path < o'.path) :
    IsStableSort (os.flatMap (·.findings)) (qs.flatMap (·.findings)) := by
  have hset' : ∀ o ∈ qs, o.Settled := fun o ho => hset o (hperm.subset ho)
  constructor
  · rw [List.pairwise_flatMap]
    refine ⟨fun o ho => (hset' o ho).sorted, ?_⟩
    refine hsorted.imp_of_mem fun {o o'} ho ho' hlt f hf g hg => ?_
    rw [(hset' o ho).file_eq f hf, (hset' o' ho').file_eq g hg]
    exact Or.inl hlt
  · intro place
    -- a place is in one file, and that file stands once on either side
    have hfile : ∀ fs : List Finding, fs.filter (·.place = place) =
        (fs.filter fun f => decide (f.file = place.1)).filter (·.place = place) := by
      intro fs
      rw [List.filter_filter]
      refine List.filter_congr fun f _ => ?_
      by_cases hf : f.place = place
      · simp [← hf, Finding.place]
      · simp [hf]
    have hpaths := (hperm.map (·.path)).nodup_iff.1 (nodup_of_ascending hsorted)
    rw [hfile, hfile (os.flatMap _),
      ← flatMap_findings_filter hset' (fun s => decide (s = place.1)),
      ← flatMap_findings_filter hset (fun s => decide (s = place.1)), filter_path_eq hperm hpaths]

/-- **The findings of several files** are those of each, by ascending path. -/
theorem mergeFindings_eq (hset : ∀ o ∈ os, o.Settled) (hperm : qs.Perm os)
    (hsorted : qs.Pairwise fun o o' => o.path < o'.path) :
    mergeFindings os = qs.flatMap (·.findings) := by
  have hpaths := (hperm.map (·.path)).nodup_iff.1 (nodup_of_ascending hsorted)
  rw [mergeFindings, foldl_extend, Ledger.findings, Ledger.entries_empty_extend,
    firsts_of_nodup Finding.key (nodup_keys_flatMap hset hpaths)]
  exact (isStableSort_flatMap hset hperm hsorted).eq_mergeSort

theorem mergeFindings_filter (hset : ∀ o ∈ os, o.Settled) (hperm : qs.Perm os)
    (hsorted : qs.Pairwise fun o o' => o.path < o'.path) (keep : String → Bool) :
    mergeFindings (os.filter fun o => keep o.path) =
      (mergeFindings os).filter fun f => keep f.file := by
  have hkept : ∀ o ∈ os.filter fun o => keep o.path, o.Settled :=
    fun o ho => hset o (List.mem_of_mem_filter ho)
  rw [mergeFindings_eq hkept (hperm.filter _) (hsorted.filter _),
    mergeFindings_eq hset hperm hsorted,
    flatMap_findings_filter fun o ho => hset o (hperm.subset ho)]

/-! ## Paths -/

/-- Paths by ascending text. -/
def byText (paths : List Path) : List Path :=
  paths.mergeSort fun p q => p.toString ≤ q.toString

theorem perm_byText (paths : List Path) : (byText paths).Perm paths :=
  List.mergeSort_perm paths _

theorem pairwise_byText {paths : List Path} (hpaths : (paths.map Path.toString).Nodup) :
    (byText paths).Pairwise fun p q => p.toString < q.toString := by
  have h := pairwise_mergeSort_key Path.toString (· ≤ ·) (fun _ _ _ => String.le_trans)
    String.le_total hpaths
  refine h.imp fun {p q} ⟨hle, hne⟩ => ?_
  by_contra hlt
  exact hne (String.le_antisymm hle (String.not_lt.1 hlt))

section Batch

variable {fs : FileSystem} {host : Host} {config : Config} {smells : List Smell}
  {outcome : Path → FileOutcome} {paths : List Path}

theorem analyzeEach_eq (hout : ∀ p ∈ paths, analyzeFile fs host config smells p = .ok (outcome p)) :
    analyzeEach fs host config smells paths = .ok (paths.map outcome) := by
  induction paths with
  | nil => rfl
  | cons p paths ih =>
    obtain ⟨hp, hpaths⟩ := List.forall_mem_cons.1 hout
    have hrest : paths.mapM (analyzeFile fs host config smells) = .ok (paths.map outcome) :=
      ih hpaths
    rw [analyzeEach, List.mapM_cons, hp, hrest]
    rfl

/-- Outcomes of files, put together. -/
theorem exists_outcome (h : ∀ p ∈ paths, ∃ o, analyzeFile fs host config smells p = .ok o) :
    ∃ outcome : Path → FileOutcome,
      ∀ p ∈ paths, analyzeFile fs host config smells p = .ok (outcome p) := by
  refine ⟨fun p => (analyzeFile fs host config smells p).toOption.getD { path := "" },
    fun p hp => ?_⟩
  obtain ⟨o, ho⟩ := h p hp
  simp only [ho]
  rfl

/-- A batch that has outcomes has one for each path. -/
theorem forall_of_analyzeEach {outcomes : List FileOutcome}
    (h : analyzeEach fs host config smells paths = .ok outcomes) :
    ∀ p ∈ paths, ∃ o, analyzeFile fs host config smells p = .ok o := by
  induction paths generalizing outcomes with
  | nil => simp
  | cons p paths ih =>
    rw [analyzeEach, List.mapM_cons] at h
    cases hp : analyzeFile fs host config smells p with
    | error e =>
      rw [hp] at h
      cases h
    | ok o =>
      rw [hp] at h
      cases hrest : paths.mapM (analyzeFile fs host config smells) with
      | error e =>
        rw [hrest] at h
        cases h
      | ok os => exact List.forall_mem_cons.2 ⟨⟨o, hp⟩, ih hrest⟩

section Outcomes

variable (hout : ∀ p ∈ paths, analyzeFile fs host config smells p = .ok (outcome p))
include hout

theorem settled_of_mem_map {o : FileOutcome} (ho : o ∈ paths.map outcome) : o.Settled := by
  obtain ⟨p, hp, rfl⟩ := List.mem_map.1 ho
  exact settled_of_analyzeFile (hout p hp)

theorem path_outcome {p : Path} (hp : p ∈ paths) : (outcome p).path = p.toString :=
  path_of_analyzeFile (hout p hp)

theorem pairwise_path_map {ascending : List Path} (hperm : ascending.Perm paths)
    (h : ascending.Pairwise fun p q => p.toString < q.toString) :
    (ascending.map outcome).Pairwise fun o o' => o.path < o'.path := by
  refine List.pairwise_map.2 (h.imp_of_mem fun {p q} hp hq hlt => ?_)
  rwa [path_outcome hout (hperm.subset hp), path_outcome hout (hperm.subset hq)]

/-- The findings of a batch, by any list of its paths in ascending order. -/
theorem mergeFindings_map {ascending : List Path} (hperm : ascending.Perm paths)
    (hascending : ascending.Pairwise fun p q => p.toString < q.toString) :
    mergeFindings (paths.map outcome) = ascending.flatMap fun p => (outcome p).findings := by
  rw [mergeFindings_eq (fun o => settled_of_mem_map hout) (hperm.map outcome)
    (pairwise_path_map hout hperm hascending), List.flatMap_map]

omit hout in
theorem diagnosticsOf_map (outcome : Path → FileOutcome) (paths : List Path) :
    diagnosticsOf (paths.map outcome) = paths.filterMap fun p => (outcome p).diagnostic := by
  rw [diagnosticsOf, List.filterMap_map]
  rfl

theorem map_filter_toString (keep : String → Bool) :
    (paths.filter fun p => keep p.toString).map outcome =
      (paths.map outcome).filter fun o => keep o.path := by
  rw [List.filter_map]
  refine congrArg (List.map outcome) (List.filter_congr fun p hp => ?_)
  rw [Function.comp_apply, path_outcome hout hp]

/-- Choosing paths by text is choosing findings and diagnostics by file. -/
theorem analyzeFiles_filter (hpaths : (paths.map Path.toString).Nodup) (keep : String → Bool) :
    analyzeFiles fs host config smells (paths.filter fun p => keep p.toString) =
      .ok ((mergeFindings (paths.map outcome)).filter fun f => keep f.file,
        (diagnosticsOf (paths.map outcome)).filter fun d => keep d.file) := by
  have hset : ∀ o ∈ paths.map outcome, o.Settled := fun o => settled_of_mem_map hout
  rw [analyzeFiles, analyzeEach_eq fun p hp => hout p (List.mem_of_mem_filter hp),
    map_filter_toString hout, ← diagnosticsOf_filter hset,
    ← mergeFindings_filter hset ((perm_byText paths).map outcome)
      (pairwise_path_map hout (perm_byText paths) (pairwise_byText hpaths))]
  rfl

end Outcomes

/-- Dropping the text of one path drops that path alone. -/
theorem filter_toString_ne {pre post : List Path} {p : Path}
    (hpaths : ((pre ++ p :: post).map Path.toString).Nodup) :
    ((pre ++ p :: post).filter fun q => q.toString ≠ p.toString) = pre ++ post := by
  rw [List.map_append, List.map_cons, List.nodup_middle, List.nodup_cons,
    ← List.map_append] at hpaths
  have hne : ∀ q ∈ pre ++ post, decide (q.toString ≠ p.toString) = true := by
    intro q hq
    refine decide_eq_true fun heq => hpaths.1 ?_
    exact List.mem_map.2 ⟨q, hq, heq⟩
  rw [List.filter_append, List.filter_cons_of_neg (by simp), ← List.filter_append]
  exact List.filter_eq_self.2 hne

/-- **A batch decomposes.** Every path that can be given to the system has an outcome, and a batch
has a result if all its paths have. For paths of different texts, the findings are those of each
file alone, by ascending path, and the diagnostics are those of each file alone, in the order of the
list. So the order of the list does not matter for findings, and a file taken out of the list, or
added to it, leaves the findings and the diagnostics of the others as they are. -/
theorem analyzeFiles_decomposes (fs : FileSystem) (host : Host) (config : Config)
    (smells : List Smell) {paths : List Path} (hpaths : (paths.map Path.toString).Nodup) :
    (∀ p : Path, (∃ o, analyzeFile fs host config smells p = .ok o) ↔
      '\x00' ∉ p.toString.toList) ∧
    ((∃ result, analyzeFiles fs host config smells paths = .ok result) ↔
      ∀ p ∈ paths, ∃ o, analyzeFile fs host config smells p = .ok o) ∧
    ∀ outcome : Path → FileOutcome,
      (∀ p ∈ paths, analyzeFile fs host config smells p = .ok (outcome p)) →
      ∃ findings diagnostics,
        analyzeFiles fs host config smells paths = .ok (findings, diagnostics) ∧
        findings = (byText paths).flatMap (fun p => (outcome p).findings) ∧
        diagnostics = paths.filterMap (fun p => (outcome p).diagnostic) ∧
        (∀ paths', paths'.Perm paths → ∃ diagnostics',
          analyzeFiles fs host config smells paths' = .ok (findings, diagnostics')) ∧
        ∀ pre p post, paths = pre ++ p :: post →
          analyzeFiles fs host config smells (pre ++ post) =
            .ok (findings.filter fun f => f.file ≠ p.toString,
              diagnostics.filter fun d => d.file ≠ p.toString) := by
  have hperm := perm_byText paths
  have hascending := pairwise_byText hpaths
  refine ⟨fun p => exists_analyzeFile_iff, ⟨?_, fun h => ?_⟩, fun outcome hout => ?_⟩
  · rintro ⟨result, h⟩
    cases heach : analyzeEach fs host config smells paths with
    | ok outcomes => exact forall_of_analyzeEach heach
    | error e =>
      rw [analyzeFiles, heach] at h
      cases h
  · obtain ⟨outcome, hout⟩ := exists_outcome h
    exact ⟨_, by rw [analyzeFiles, analyzeEach_eq hout]; rfl⟩
  · have hfindings : mergeFindings (paths.map outcome) =
        (byText paths).flatMap fun p => (outcome p).findings :=
      mergeFindings_map hout hperm hascending
    refine ⟨_, _, by rw [analyzeFiles, analyzeEach_eq hout]; rfl, hfindings,
      diagnosticsOf_map outcome paths,
      fun paths' hperm' => ⟨diagnosticsOf (paths'.map outcome), ?_⟩,
      ?_⟩
    · have hout' : ∀ p ∈ paths', analyzeFile fs host config smells p = .ok (outcome p) :=
        fun p hp => hout p (hperm'.subset hp)
      have hsame := mergeFindings_map hout' (hperm.trans hperm'.symm) hascending
      rw [hfindings, ← hsame, analyzeFiles, analyzeEach_eq hout']
      rfl
    · rintro pre p post rfl
      rw [← filter_toString_ne hpaths]
      exact analyzeFiles_filter hout hpaths fun s => s ≠ p.toString

/-- Two files out of order, and between them one that does not exist. -/
theorem analyzeFiles_decomposes_missing :
    let fs : FileSystem := ⟨.dir [("b.js", .file [0x31]), ("a.js", .file [0x32])], []⟩
    let host : Host := .usual fun _ _ => .node ⟨"program", true, none, 0, 1, 0, false, false⟩ []
    let run := analyzeFiles fs host { baseDir := .here, lineLengthWarning := 0 } [.lengthyLines]
    let a : Path := ⟨"/", ["a.js"]⟩
    let b : Path := ⟨"/", ["b.js"]⟩
    let gone : Path := ⟨"/", ["gone.js"]⟩
    ([b, gone, a].map Path.toString).Nodup ∧ ∃ findings diagnostics diagnostics',
      run [b, gone, a] = .ok (findings, diagnostics) ∧
      run [a, b, gone] = .ok (findings, diagnostics') ∧
      run [b, a] = .ok (findings.filter fun f => f.file ≠ "/gone.js",
        diagnostics.filter fun d => d.file ≠ "/gone.js") := by
  intro fs host run a b gone
  have hpaths : ([b, gone, a].map Path.toString).Nodup := by decide
  obtain ⟨hfile, -, hbatch⟩ := analyzeFiles_decomposes fs host
    { baseDir := .here, lineLengthWarning := 0 } [.lengthyLines] hpaths
  have hnull : ∀ p ∈ [b, gone, a], '\x00' ∉ p.toString.toList := by decide
  obtain ⟨outcome, hout⟩ := exists_outcome fun p hp => (hfile p).2 (hnull p hp)
  obtain ⟨findings, diagnostics, hrun, -, -, hperm, hremove⟩ := hbatch outcome hout
  obtain ⟨diagnostics', hrun'⟩ := hperm [a, b, gone] (by decide)
  exact ⟨hpaths, findings, diagnostics, diagnostics', hrun, hrun', hremove [b] gone [a] rfl⟩

end Batch

end SmellScan.Analysis
