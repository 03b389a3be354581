import Mathlib.Data.List.Basic
import SmellScan.Analysis
import SmellScan.Proofs.Analysis.Batch
import SmellScan.Proofs.Analysis.Directory
import SmellScan.Proofs.Analysis.Selection
import SmellScan.Proofs.FileSystem.ReadBack
import SmellScan.Proofs.Path.Spelling
import SmellScan.Proofs.Smell.Registry
import SmellScan.Proofs.Text.Lines
import SmellScan.Proofs.Text.Utf8

/-!
# A text in memory and in a file

A file that holds a text in UTF-8 is analysed as the text itself would be
(`analyzeSource_onDisk`). There are three places where the two ways part.

* A file is read with every line end made a line feed, a text in memory has only its pairs joined;
  where every carriage return stands in a pair, this is the same (`ofText_universalNewlines`).
* A file is known by its path, and a path may be spelled in several ways. The spelling goes into
  the findings and nowhere else (`analyzeUnit_path`).
* A blank file is passed over, a blank text is not.
-/

namespace SmellScan

/-! ## The spelling of a path -/

theorem Smell.run_path (s : Smell) (unit : SourceUnit) (path : String) (config : Config) :
    s.run { unit with path } config =
      (s.run unit config).map fun f => { f with file := path } := by
  have hocc : s.occurrences { unit with path } config = s.occurrences unit config := by
    cases hs : s.usesTree with
    | false => exact occurrences_congr_text hs rfl
    | true => exact occurrences_congr_tree hs rfl
  rw [run, run, hocc, List.map_map]
  rfl

/-- The text of the path that a text spells has the same extension. -/
theorem Language.ofPath_toString {path : String} {language : Language}
    (h : ofPath path = .ok language) :
    ofPath (Path.ofString path).toString = .ok language := by
  unfold ofPath at h ⊢
  rw [Path.ofString_toString (Path.isProper_ofString path)]
  dsimp only at h ⊢
  split at h
  · exact h
  · cases h

namespace Analysis

/-- **A unit under another path** has the same findings and the same diagnostic, with that path in
them. -/
theorem analyzeUnit_path (unit : SourceUnit) (path : String) (config : Config)
    (smells : List Smell) :
    analyzeUnit { unit with path } config smells =
      ((analyzeUnit unit config smells).1.map fun f => { f with file := path },
        (analyzeUnit unit config smells).2.map fun d => { d with file := path }) := by
  let move : Finding → Finding := fun f => { f with file := path }
  let found := smells.flatMap fun s => s.run unit config
  have hfile : ∀ f ∈ found, f.file = unit.path := by
    intro f hf
    obtain ⟨s, -, hs⟩ := List.mem_flatMap.1 hf
    exact file_eq_of_mem_run hs
  have hrun : (smells.flatMap fun s => s.run { unit with path } config) = found.map move := by
    simp only [Smell.run_path, found, List.map_flatMap, move]
  -- all findings are of one file, so neither their keys nor their order depend on its name
  have hkey : ∀ f ∈ found, ∀ g ∈ found, (move f).key = (move g).key ↔ f.key = g.key := by
    intro f hf g hg
    simp [Finding.key, move, hfile f hf, hfile g hg]
  have hfirsts : firsts Finding.key (found.map move) = (firsts Finding.key found).map move := by
    rw [firsts_map, firsts_congr_key _ hkey]
  have hsort : ((firsts Finding.key found).mergeSort Finding.le).map move =
      ((firsts Finding.key found).map move).mergeSort Finding.le := by
    refine List.map_mergeSort fun f hf g hg => ?_
    have hf' := hfile f ((firsts_sublist Finding.key found).subset hf)
    have hg' := hfile g ((firsts_sublist Finding.key found).subset hg)
    simp [Finding.le, move, hf', hg']
  refine Prod.ext ?_ ?_
  · rw [analyzeUnit_findings, analyzeUnit_findings, hrun, hfirsts, hsort]
  · simp only [analyzeUnit, Option.map_map]
    rfl

/-! ## Reading line ends -/

section Reading

variable {fs : FileSystem} {p : Path} {text : String} (host : Host) (language : Language)
  (parse : Bool)

theorem readText_of_encodeUtf8 (h : fs.readBytes p = .ok (Text.encodeUtf8 text.toList)) :
    fs.readText p = .ok (String.ofList (Text.universalNewlines text.toList)) := by
  rw [FileSystem.readText, h]
  simp only [Except.map, Text.decodeUtf8_encodeUtf8]

/-- A text whose returns are paired makes the same unit when all its line ends are line feeds. -/
theorem ofText_universalNewlines (path : String) (hpaired : Text.ReturnsPaired text.toList) :
    SourceUnit.ofText host path language
        (String.ofList (Text.universalNewlines text.toList)) parse =
      SourceUnit.ofText host path language text parse := by
  unfold SourceUnit.ofText
  rw [String.toList_ofList, Text.joinReturns_universalNewlines,
    Text.universalNewlines_eq_joinReturns hpaired]

theorem ofText_path (path path' source : String) :
    SourceUnit.ofText host path' language source parse =
      { SourceUnit.ofText host path language source parse with path := path' } := by
  unfold SourceUnit.ofText
  dsimp only
  split_ifs
  · split <;> rfl
  · rfl

end Reading

/-! ## A file and its text -/

section Disk

variable {fs : FileSystem} {path text : String} {language : Language} (host : Host)
  (config : Config) (smells : List Smell)

/-- What is read from a file that holds a text is the unit of that text. -/
theorem loadUnit_none (hlanguage : Language.ofPath path = .ok language)
    (hfile : fs.readBytes (.ofString path) = .ok (Text.encodeUtf8 text.toList))
    (hpaired : Text.ReturnsPaired text.toList) (parse : Bool) :
    loadUnit fs host path none parse =
      .ok (SourceUnit.ofText host path language text parse) := by
  unfold loadUnit
  rw [hlanguage, readText_of_encodeUtf8 hfile]
  dsimp only
  rw [ofText_universalNewlines host language parse path hpaired]

/-- The outcome for a file that holds a text is that of the text as it is read. -/
theorem analyzeFile_ofString
    (hfile : fs.readBytes (.ofString path) = .ok (Text.encodeUtf8 text.toList)) :
    analyzeFile fs host config smells (.ofString path) =
      .ok (analyzeText host config smells (Path.ofString path).toString
        (String.ofList (Text.universalNewlines text.toList))) :=
  analyzeFile_of_readText (readText_of_encodeUtf8 hfile)

/-- A text as it is read, under the text of its path, is analysed as its unit. -/
theorem analyzeText_universalNewlines (hlanguage : Language.ofPath path = .ok language)
    (hpaired : Text.ReturnsPaired text.toList) (hblank : Text.allBlank text.toList = false) :
    let unit := SourceUnit.ofText host path language text (smells.any Smell.usesTree)
    let spelled := (Path.ofString path).toString
    let outcome := analyzeText host config smells spelled
      (String.ofList (Text.universalNewlines text.toList))
    (outcome.findings, outcome.diagnostic) =
      analyzeUnit { unit with path := spelled } config smells := by
  intro unit spelled outcome
  have hsource : analyzeSource host (String.ofList (Text.universalNewlines text.toList))
      spelled config smells = .ok (analyzeUnit { unit with path := spelled } config smells) := by
    rw [analyzeSource_eq host _ config (Language.ofPath_toString hlanguage),
      ofText_universalNewlines host language _ _ hpaired, ofText_path host language _ path]
  have hfull : ¬Text.allBlank (Text.universalNewlines text.toList) = true := by
    rw [Text.allBlank_universalNewlines, hblank]
    exact Bool.false_ne_true
  unfold outcome analyzeText
  rw [String.toList_ofList, if_neg hfull, hsource]

/-- **A text is loaded and analysed the same from memory and from a file.** For a text whose
carriage returns all stand before line feeds, in a file whose extension is known, both ways give the
same unit, so the same text and the same lines. The findings, with their lines, and the diagnostic
are the same, but for the spelling of the path; only a blank file is passed over. -/
theorem analyzeSource_onDisk (hlanguage : Language.ofPath path = .ok language)
    (hfile : fs.readBytes (.ofString path) = .ok (Text.encodeUtf8 text.toList))
    (hpaired : Text.ReturnsPaired text.toList) :
    (∀ parse, ∃ unit, loadUnit fs host path (some text) parse = .ok unit ∧
      loadUnit fs host path none parse = .ok unit) ∧
    ∃ findings diagnostic outcome,
      analyzeSource host text path config smells = .ok (findings, diagnostic) ∧
      analyzeFile fs host config smells (.ofString path) = .ok outcome ∧
      let spelled := (Path.ofString path).toString
      if Text.allBlank text.toList then outcome.findings = [] ∧ outcome.diagnostic = none
      else
        outcome.findings = findings.map (fun f => { f with file := spelled }) ∧
          outcome.diagnostic = diagnostic.map (fun d => { d with file := spelled }) := by
  refine ⟨fun parse => ⟨_, ?_, loadUnit_none host hlanguage hfile hpaired parse⟩,
    _, _, _, analyzeSource_eq host text config hlanguage smells,
    analyzeFile_ofString host config smells hfile, ?_⟩
  · unfold loadUnit
    rw [hlanguage]
  · dsimp only
    split_ifs with hblank
    · refine analyzeText_of_blank host config smells _ ?_
      rw [String.toList_ofList, Text.allBlank_universalNewlines, hblank]
    · have h := analyzeText_universalNewlines host config smells hlanguage hpaired
        (eq_false_of_ne_true hblank)
      dsimp only at h
      rw [analyzeUnit_path] at h
      exact Prod.mk.inj h

/-- Lines that end in pairs, and a path with a dot in it, which is not in the findings of the
file. -/
theorem analyzeSource_onDisk_pairs :
    let text := "a();\r\nconsole.log(1);\r\n"
    let fs : FileSystem := ⟨.dir [("a.js", .file (Text.encodeUtf8 text.toList))], []⟩
    let host : Host := .usual fun _ _ =>
      .node ⟨"program", true, none, 0, 22, 0, false, false⟩ []
    let config : Config := { baseDir := .here }
    Language.ofPath "/./a.js" = .ok .javascript ∧
      fs.readBytes (.ofString "/./a.js") = .ok (Text.encodeUtf8 text.toList) ∧
      Text.ReturnsPaired text.toList ∧
      ∃ findings diagnostic outcome,
        analyzeSource host text "/./a.js" config [.debuggingCode] = .ok (findings, diagnostic) ∧
        analyzeFile fs host config [.debuggingCode] ⟨"/", ["a.js"]⟩ = .ok outcome ∧
        outcome.findings = findings.map fun f => { f with file := "/a.js" } := by
  intro text fs host config
  have hlanguage : Language.ofPath "/./a.js" = .ok .javascript := by decide
  have hspelled : Path.ofString "/./a.js" = ⟨"/", ["a.js"]⟩ := by decide
  have hfile : fs.readBytes (.ofString "/./a.js") = .ok (Text.encodeUtf8 text.toList) := by
    rw [hspelled]
    exact FileSystem.readBytes_entry (by decide) (by decide) rfl rfl
  have hpaired : Text.ReturnsPaired text.toList := by decide
  obtain ⟨-, findings, diagnostic, outcome, hsource, hread, hdisk⟩ :=
    analyzeSource_onDisk host config [.debuggingCode] hlanguage hfile hpaired
  have hblank : ¬Text.allBlank text.toList = true := by decide
  have htext : Path.toString ⟨"/", ["a.js"]⟩ = "/a.js" := by decide
  dsimp only at hdisk
  rw [if_neg hblank, hspelled, htext] at hdisk
  rw [hspelled] at hread
  exact ⟨hlanguage, hfile, hpaired, findings, diagnostic, outcome, hsource, hread, hdisk.1⟩

/-- A return on its own ends a line of a file and not of a text in memory, and a blank line that is
too long is found in a text and not in a file. -/
theorem analyzeSource_onDisk_unpaired_blank :
    let fs : FileSystem := ⟨.dir [("a.js", .file (Text.encodeUtf8 "a\rb".toList)),
      ("b.js", .file (Text.encodeUtf8 " ".toList))], []⟩
    let host : Host := .usual fun _ _ =>
      .node ⟨"program", true, none, 0, 3, 0, false, false⟩ []
    let config : Config := { baseDir := .here, maxLineLength := 0 }
    (fs.readBytes (.ofString "/a.js") = .ok (Text.encodeUtf8 "a\rb".toList) ∧
      ∃ unit unit', loadUnit fs host "/a.js" (some "a\rb") false = .ok unit ∧
        loadUnit fs host "/a.js" none false = .ok unit' ∧
        unit.lines = ["a\rb"] ∧ unit'.lines = ["a", "b"]) ∧
    fs.readBytes (.ofString "/b.js") = .ok (Text.encodeUtf8 " ".toList) ∧
      ∃ f outcome, analyzeSource host " " "/b.js" config [.lengthyLines] = .ok ([f], none) ∧
        f.line = 1 ∧ analyzeFile fs host config [.lengthyLines] (.ofString "/b.js") = .ok outcome ∧
        outcome.findings = [] := by
  intro fs host config
  have hspelled : Path.ofString "/a.js" = ⟨"/", ["a.js"]⟩ := by decide
  have hspelled' : Path.ofString "/b.js" = ⟨"/", ["b.js"]⟩ := by decide
  have hfile : fs.readBytes (.ofString "/a.js") = .ok (Text.encodeUtf8 "a\rb".toList) := by
    rw [hspelled]
    exact FileSystem.readBytes_entry (by decide) (by decide) rfl rfl
  have hfile' : fs.readBytes (.ofString "/b.js") = .ok (Text.encodeUtf8 " ".toList) := by
    rw [hspelled']
    exact FileSystem.readBytes_entry (by decide) (by decide) rfl rfl
  have hlanguage : Language.ofPath "/a.js" = .ok .javascript := by decide
  have hlanguage' : Language.ofPath "/b.js" = .ok .javascript := by decide
  refine ⟨⟨hfile, ⟨"/a.js", "a\rb", .javascript, none, none⟩,
    ⟨"/a.js", "a\nb", .javascript, none, none⟩, ?_, ?_, by decide, by decide⟩, hfile', ?_⟩
  · unfold loadUnit
    rw [hlanguage]
    rfl
  · unfold loadUnit
    rw [hlanguage, readText_of_encodeUtf8 hfile]
    rfl
  · let unit := SourceUnit.ofText host "/b.js" .javascript " " false
    have hlines : (Smell.lengthyLines.run unit config).map (·.line) = [1] := by decide +kernel
    obtain ⟨f, hf, hline⟩ := List.map_eq_singleton_iff.1 hlines
    have hfound : analyzeUnit unit config [.lengthyLines] = ([f], none) := by
      refine Prod.ext ?_ rfl
      rw [analyzeUnit_findings, List.flatMap_singleton, hf]
      exact List.mergeSort_singleton f
    have hskipped : (analyzeText host config [.lengthyLines] (Path.ofString "/b.js").toString
        (String.ofList (Text.universalNewlines " ".toList))).findings = [] := by
      refine (analyzeText_of_blank host config _ _ ?_).1
      rw [String.toList_ofList, Text.allBlank_universalNewlines]
      decide +kernel
    exact ⟨f, _, (analyzeSource_eq host " " config hlanguage' _).trans (congrArg _ hfound), hline,
      analyzeFile_ofString host config _ hfile', hskipped⟩

end Disk

end Analysis

end SmellScan
