import Mathlib.Data.List.Basic
import SmellScan.Analysis
import SmellScan.Proofs.Analysis.Batch
import SmellScan.Proofs.Ledger.Entries
import SmellScan.Proofs.Ledger.Order
import SmellScan.Proofs.Smell.Registry

/-!
# Selecting smells is filtering findings

A run with some of the smells finds what a run with all of them finds of these smells, in the same
order (`analyzeSource_select`). Two things could spoil this and do not:

* a source is parsed only if a selected smell needs the tree, but the other checks read nothing of a
  unit but its text (`analyzeUnit_congr`);
* findings of one place are merged and sorted, but a finding is dropped only for one of the same
  smell, and sorting does not look at smells (`analyzeUnit_filter`).
-/

namespace SmellScan.Analysis

/-! ## Units -/

theorem flatMap_run_filter (unit : SourceUnit) (config : Config) (smells : List Smell)
    (keep : String → Bool) :
    ((smells.filter fun s => keep s.name).flatMap fun s => s.run unit config) =
      (smells.flatMap fun s => s.run unit config).filter fun f => keep f.smell := by
  induction smells with
  | nil => rfl
  | cons s smells ih =>
    have hsmell : ∀ f ∈ s.run unit config, keep f.smell = keep s.name := fun f hf => by
      rw [Smell.smell_of_mem_run hf]
    rw [List.filter_cons, List.flatMap_cons, List.filter_append, ← ih]
    by_cases hkeep : keep s.name = true
    · rw [if_pos hkeep, List.flatMap_cons,
        List.filter_eq_self.2 fun f hf => (hsmell f hf).trans hkeep]
    · have hnone : (s.run unit config).filter (fun f => keep f.smell) = [] :=
        List.filter_eq_nil_iff.2 fun f hf => by rwa [hsmell f hf]
      rw [if_neg hkeep, hnone, List.nil_append]

/-- **Choosing smells is choosing findings.** -/
theorem analyzeUnit_filter (unit : SourceUnit) (config : Config) (smells : List Smell)
    (keep : String → Bool) :
    (analyzeUnit unit config (smells.filter fun s => keep s.name)).1 =
      (analyzeUnit unit config smells).1.filter fun f => keep f.smell := by
  rw [analyzeUnit_findings, analyzeUnit_findings, filter_mergeSort, flatMap_run_filter]
  exact congrArg (List.mergeSort · Finding.le) (firsts_filter Finding.key (fun k => keep k.2.2) _)

/-- What is found of one smell does not depend on the others, nor on how often it is selected. -/
theorem analyzeUnit_filter_name (unit : SourceUnit) (config : Config) {smells : List Smell}
    {s : Smell} (hs : s ∈ smells) :
    (analyzeUnit unit config smells).1.filter (fun f => f.smell = s.name) =
      (analyzeUnit unit config [s]).1 := by
  have hsame : ∀ t ∈ smells.filter (fun t => decide (t.name = s.name)), t = s := by
    intro t ht
    exact Smell.name_injective (of_decide_eq_true (List.mem_filter.1 ht).2)
  have hne : smells.filter (fun t => decide (t.name = s.name)) ≠ [] :=
    List.ne_nil_of_mem (List.mem_filter.2 ⟨hs, decide_eq_true rfl⟩)
  rw [← analyzeUnit_filter unit config smells fun name => decide (name = s.name),
    analyzeUnit_findings, analyzeUnit_findings,
    firsts_flatMap_of_forall_eq Finding.key (fun s => s.run unit config) hne hsame,
    List.flatMap_singleton]

theorem analyzeUnit_congr {unit unit' : SourceUnit} {smells : List Smell} (config : Config)
    (hpath : unit.path = unit'.path) (htext : unit.text = unit'.text)
    (htree : ∀ s ∈ smells, s.usesTree = true → unit.tree = unit'.tree) :
    (analyzeUnit unit config smells).1 = (analyzeUnit unit' config smells).1 := by
  have hrun : (smells.flatMap fun s => s.run unit config) =
      smells.flatMap fun s => s.run unit' config :=
    List.flatMap_congr fun s hs => Smell.run_congr hpath htext (htree s hs)
  rw [analyzeUnit_findings, analyzeUnit_findings, hrun]

/-! ## Sources -/

section Sources

variable (host : Host) (source path : String) (config : Config)

theorem path_ofText (language : Language) (parse : Bool) :
    (SourceUnit.ofText host path language source parse).path = path := by
  unfold SourceUnit.ofText
  dsimp only
  split_ifs
  · split <;> rfl
  · rfl

theorem text_ofText (language : Language) (parse : Bool) :
    (SourceUnit.ofText host path language source parse).text =
      String.ofList (Text.joinReturns source.toList) := by
  unfold SourceUnit.ofText
  dsimp only
  split_ifs
  · split <;> rfl
  · rfl

variable {path}

theorem analyzeSource_eq {language : Language} (hpath : Language.ofPath path = .ok language)
    (smells : List Smell) :
    analyzeSource host source path config smells =
      .ok (analyzeUnit (SourceUnit.ofText host path language source (smells.any Smell.usesTree))
        config smells) := by
  unfold analyzeSource SourceUnit.ofSource
  rw [hpath]

/-- **Selecting smells is filtering.** The selected smells find what all smells find, in the same
order, less the findings of other smells; the failure to build a tree is told as in the full run if
a selected smell needs the tree, and not at all if none does. -/
theorem analyzeSource_select {language : Language} (hpath : Language.ofPath path = .ok language)
    {names : List String} (hnames : ∀ name ∈ names, ∃ s : Smell, s.name = name) :
    ∃ selected findings full diagnostic,
      Smell.select (some names) = .ok selected ∧
      analyzeSource host source path config Smell.all = .ok (findings, full) ∧
      analyzeSource host source path config selected =
        .ok (findings.filter (fun f => f.smell ∈ names), diagnostic) ∧
      ((∃ s : Smell, s.name ∈ names ∧ s.usesTree = true) → diagnostic = full) ∧
      ((¬∃ s : Smell, s.name ∈ names ∧ s.usesTree = true) → diagnostic = none) := by
  let selected := Smell.all.filter fun s => names.contains s.name
  let unit := SourceUnit.ofText host path language source
  have hany : selected.any Smell.usesTree = true ↔
      ∃ s : Smell, s.name ∈ names ∧ s.usesTree = true := by
    simp [selected, Smell.mem_all]
  have hfull : analyzeSource host source path config Smell.all =
      .ok (analyzeUnit (unit true) config Smell.all) :=
    analyzeSource_eq host source config hpath Smell.all
  have hpart : analyzeSource host source path config selected =
      .ok (analyzeUnit (unit (selected.any Smell.usesTree)) config selected) :=
    analyzeSource_eq host source config hpath selected
  -- without a smell that needs it the tree is not built, and no selected smell notices
  have hunit : (analyzeUnit (unit (selected.any Smell.usesTree)) config selected).1 =
      (analyzeUnit (unit true) config selected).1 := by
    refine analyzeUnit_congr config ?_ ?_ fun s hs htree => ?_
    · rw [path_ofText, path_ofText]
    · rw [text_ofText, text_ofText]
    · rw [List.any_eq_true.2 ⟨s, hs, htree⟩]
  have hfindings : (analyzeUnit (unit (selected.any Smell.usesTree)) config selected).1 =
      (analyzeUnit (unit true) config Smell.all).1.filter (fun f => f.smell ∈ names) := by
    rw [hunit, analyzeUnit_filter (unit true) config Smell.all names.contains]
    simp only [List.contains_eq_mem]
  refine ⟨selected, _, _, _, Smell.select_some hnames, hfull,
    hpart.trans (congrArg Except.ok (Prod.ext hfindings rfl)), fun htree => ?_, fun htree => ?_⟩
  · rw [hany.2 htree]
    rfl
  · rw [eq_false_of_ne_true fun h => htree (hany.1 h)]
    rfl

/-- Names out of order and one of them twice, in a source that cannot be parsed: a selection of
smells that do without the tree says nothing of the failure. -/
theorem analyzeSource_select_repeated :
    let host : Host := .usual fun _ _ => .node ⟨"program", true, none, 0, 14, 0, true, false⟩ []
    let names := ["Active Debugging Code", "Lengthy Lines", "Active Debugging Code"]
    let run := analyzeSource host "console.log(1)" "a.js" { baseDir := .here }
    Language.ofPath "a.js" = .ok .javascript ∧ (∀ name ∈ names, ∃ s : Smell, s.name = name) ∧
      ∃ selected findings full, Smell.select (some names) = .ok selected ∧
        run Smell.all = .ok (findings, full) ∧
        run selected = .ok (findings.filter (fun f => f.smell ∈ names), none) := by
  intro host names run
  have hpath : Language.ofPath "a.js" = .ok .javascript := by decide
  have hnames : ∀ name ∈ names, ∃ s : Smell, s.name = name := by
    simp only [names, List.forall_mem_cons]
    exact ⟨⟨.debuggingCode, rfl⟩, ⟨.lengthyLines, rfl⟩, ⟨.debuggingCode, rfl⟩, by simp⟩
  obtain ⟨selected, findings, full, diagnostic, hselect, hfull, hpart, -, hnone⟩ :=
    analyzeSource_select host "console.log(1)" { baseDir := .here } hpath hnames
  have htext : ¬∃ s : Smell, s.name ∈ names ∧ s.usesTree = true := by
    rintro ⟨s, hs, htree⟩
    revert hs htree
    cases s <;> decide
  exact ⟨hpath, hnames, selected, findings, full, hselect, hfull, hnone htext ▸ hpart⟩

end Sources

end SmellScan.Analysis
