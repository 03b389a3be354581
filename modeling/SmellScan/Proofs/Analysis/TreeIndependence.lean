import Mathlib.Data.List.Basic
import SmellScan.Analysis
import SmellScan.Proofs.Analysis.Batch
import SmellScan.Proofs.Analysis.Selection
import SmellScan.Proofs.Smell.Registry

/-!
# Text smells do not see the tree

Whatever the parser makes of a source, the smells that are looked for in its text find the same, in
the same order (`analyzeSource_textFindings`). Three facts carry this.

* The findings of text smells among all findings are what the text smells find on their own
  (`textFindings_analyzeUnit`): a tree smell neither pushes one of them out nor moves it.
* What they find on their own depends on the path and the text of a unit only.
* Without a tree there are no other findings (`textFindings_of_tree_eq_none`), so a source that
  cannot be parsed loses the findings of tree smells and nothing else.
-/

namespace SmellScan

namespace Analysis

/-- A name of a smell that is looked for in the text alone. -/
def isTextName (name : String) : Bool :=
  Smell.all.any fun s => !s.usesTree && s.name == name

/-- The findings of smells that are looked for in the text alone. -/
def textFindings (findings : List Finding) : List Finding :=
  findings.filter fun f => isTextName f.smell

theorem isTextName_name (s : Smell) : isTextName s.name = !s.usesTree := by
  cases s <;> decide

section Units

variable {unit : SourceUnit} (config : Config) (smells : List Smell)

/-- What is found in the text is what the text smells find on their own. -/
theorem textFindings_analyzeUnit :
    textFindings (analyzeUnit unit config smells).1 =
      (analyzeUnit unit config (smells.filter fun s => !s.usesTree)).1 := by
  have hsmells : (smells.filter fun s => !s.usesTree) =
      smells.filter fun s => isTextName s.name :=
    List.filter_congr fun s _ => (isTextName_name s).symm
  rw [hsmells]
  exact (analyzeUnit_filter unit config smells isTextName).symm

theorem exists_mem_run_of_mem_analyzeUnit {f : Finding}
    (hf : f ∈ (analyzeUnit unit config smells).1) : ∃ s ∈ smells, f ∈ s.run unit config := by
  rw [analyzeUnit_findings, List.mem_mergeSort] at hf
  exact List.mem_flatMap.1 ((firsts_sublist Finding.key _).subset hf)

/-- Without a tree everything is found in the text. -/
theorem textFindings_of_tree_eq_none (htree : unit.tree = none) :
    textFindings (analyzeUnit unit config smells).1 = (analyzeUnit unit config smells).1 := by
  refine List.filter_eq_self.2 fun f hf => ?_
  obtain ⟨s, -, hrun⟩ := exists_mem_run_of_mem_analyzeUnit config smells hf
  have htext : s.usesTree = false := by
    by_contra hs
    rw [Smell.run_of_tree_eq_none (eq_true_of_ne_false hs) htree] at hrun
    exact List.not_mem_nil hrun
  rw [Smell.smell_of_mem_run hrun, isTextName_name, htext]
  rfl

end Units

/-! ## Two hosts -/

section Sources

variable (source : String) {path : String} (config : Config) (smells : List Smell)

/-- What the parser of a host makes of a source, as a unit of a known language. -/
def treeOf (host : Host) (language : Language) (source : String) : ParseTree :=
  host.parse language (String.ofList (Text.joinReturns source.toList))

theorem ofText_of_failure (host : Host) (path : String) (language : Language)
    (hfails : (treeOf host language source).info.hasError = true ∨
      host.refusesTree (treeOf host language source) = true) :
    ∃ failure, (SourceUnit.ofText host path language source true).tree = none ∧
      (SourceUnit.ofText host path language source true).parseError = some failure := by
  unfold SourceUnit.ofText
  have hbuild : ∃ failure, SyntaxNode.build host.refusesTree
      (String.ofList (Text.joinReturns source.toList)) (treeOf host language source) =
        .error failure := by
    unfold SyntaxNode.build
    rcases hfails with herror | hdeep
    · exact ⟨_, if_pos herror⟩
    · split_ifs
      · exact ⟨_, rfl⟩
      · exact ⟨_, rfl⟩
  obtain ⟨failure, hfailure⟩ := hbuild
  refine ⟨failure, ?_⟩
  simp only [treeOf] at hfailure
  simp [hfailure]

/-- **What is found in the text does not depend on the tree.** For each source there is one list of
findings of text smells, whatever the parser makes of the source: it is what the text smells find on
their own. If the parser reports an error or gives too deep a tree, this list is all that is found,
and one diagnostic with the path of the source says so. -/
theorem analyzeSource_textFindings {language : Language}
    (hpath : Language.ofPath path = .ok language) :
    ∃ found, ∀ host : Host, ∃ findings diagnostic,
      analyzeSource host source path config smells = .ok (findings, diagnostic) ∧
      textFindings findings = found ∧
      analyzeSource host source path config (smells.filter fun s => !s.usesTree) =
        .ok (found, none) ∧
      ((∃ s ∈ smells, s.usesTree = true) →
        (treeOf host language source).info.hasError = true ∨
          host.refusesTree (treeOf host language source) = true →
        findings = found ∧ ∃ d, diagnostic = some d ∧ d.file = path) := by
  let bare : SourceUnit :=
    ⟨path, String.ofList (Text.joinReturns source.toList), language, none, none⟩
  let textSmells := smells.filter fun s => !s.usesTree
  have hnone : ∀ s ∈ textSmells, s.usesTree = false := by simp [textSmells]
  refine ⟨(analyzeUnit bare config textSmells).1, fun host => ?_⟩
  let unit := SourceUnit.ofText host path language source (smells.any Smell.usesTree)
  have hfound : textFindings (analyzeUnit unit config smells).1 =
      (analyzeUnit bare config textSmells).1 := by
    rw [textFindings_analyzeUnit]
    refine analyzeUnit_congr config ?_ ?_ fun s hs htree => ?_
    · exact path_ofText host source path language _
    · exact text_ofText host source path language _
    · simp [hnone s hs] at htree
  have halone : analyzeSource host source path config textSmells =
      .ok ((analyzeUnit bare config textSmells).1, none) := by
    have hany : textSmells.any Smell.usesTree = false := by
      simpa only [List.any_eq_false, Bool.not_eq_true] using hnone
    rw [analyzeSource_eq host source config hpath, hany]
    rfl
  refine ⟨_, _, analyzeSource_eq host source config hpath smells, hfound, halone, ?_⟩
  rintro ⟨s, hs, huses⟩ hfails
  have hparse : smells.any Smell.usesTree = true := List.any_eq_true.2 ⟨s, hs, huses⟩
  obtain ⟨failure, htree, herror⟩ := ofText_of_failure source host path language hfails
  rw [← hparse] at htree herror
  refine ⟨(textFindings_of_tree_eq_none config smells htree).symm.trans hfound,
    ⟨unit.path, failure.message⟩, ?_, path_ofText host source path language _⟩
  rw [herror]
  rfl

/-- A source with a closure, once parsed and once given up: both runs find the same in the text, and
the second finds nothing else. -/
theorem analyzeSource_textFindings_givenUp :
    let source := "a => console.log(a)"
    let config : Config := { baseDir := .here, maxNestingDepth := 0 }
    let root : ParseNode := ⟨"program", true, none, 0, 19, 0, false, false⟩
    let closure : ParseNode := ⟨"arrow_function", true, none, 0, 19, 0, false, false⟩
    let parsed : Host := .usual fun _ _ => .node root [.node closure []]
    let givenUp : Host := .usual fun _ _ => .node { root with hasError := true } []
    Language.ofPath "a.js" = .ok .javascript ∧
      ∃ findings diagnostic found d,
        analyzeSource parsed source "a.js" config Smell.all = .ok (findings, diagnostic) ∧
        analyzeSource givenUp source "a.js" config Smell.all = .ok (found, some d) ∧
        textFindings findings = found ∧ d.file = "a.js" := by
  intro source config root closure parsed givenUp
  have hpath : Language.ofPath "a.js" = .ok .javascript := by decide
  obtain ⟨found, hfound⟩ := analyzeSource_textFindings source config Smell.all hpath
  obtain ⟨findings, diagnostic, hparsed, htext, -⟩ := hfound parsed
  obtain ⟨findings', diagnostic', hgivenUp, -, -, hfails⟩ := hfound givenUp
  obtain ⟨rfl, d, rfl, hd⟩ := hfails ⟨.longFunction, Smell.mem_all _, rfl⟩ (Or.inl rfl)
  exact ⟨hpath, findings, diagnostic, findings', d, hparsed, hgivenUp, htext, hd⟩

end Sources

end Analysis

end SmellScan
