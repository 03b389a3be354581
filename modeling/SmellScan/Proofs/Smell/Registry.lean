import Mathlib.Data.List.Basic
import SmellScan.Smell.Registry

/-!
# Names and findings of smells

What holds of every smell alike. Known names select their smells in report order, each once,
whatever the order and the repetitions of the names (`Smell.select_some`). The findings of a smell
carry its name, and they depend on the path and the text of a unit, and on its tree only if the
smell needs it (`Smell.run_congr`).
-/

namespace SmellScan

namespace Smell

theorem mem_all (s : Smell) : s ∈ all := by
  cases s <;> decide

theorem isSome_ofName? {name : String} : (ofName? name).isSome ↔ ∃ s : Smell, s.name = name := by
  rw [ofName?, List.find?_isSome]
  constructor
  · rintro ⟨s, -, hs⟩
    exact ⟨s, eq_of_beq hs⟩
  · rintro ⟨s, rfl⟩
    exact ⟨s, mem_all s, beq_self_eq_true s.name⟩

theorem ofName?_name (s : Smell) : ofName? s.name = some s := by
  cases s <;> decide

theorem name_injective : Function.Injective name := by
  intro s t h
  have hs := ofName?_name s
  rw [h, ofName?_name] at hs
  exact (Option.some.inj hs).symm

/-- **Known names select their smells in report order**, each once. -/
theorem select_some {names : List String} (h : ∀ name ∈ names, ∃ s : Smell, s.name = name) :
    select (some names) = .ok (all.filter fun s => names.contains s.name) := by
  have hknown : (names.find? fun name => (ofName? name).isNone) = none := by
    rw [List.find?_eq_none]
    intro name hname
    rw [← Option.not_isSome, isSome_ofName?.2 (h name hname)]
    exact Bool.false_ne_true
  rw [select, hknown]

section Run

variable {s : Smell} {unit unit' : SourceUnit} {config : Config}

theorem smell_of_mem_run {f : Finding} (h : f ∈ s.run unit config) : f.smell = s.name := by
  obtain ⟨o, -, rfl⟩ := List.mem_map.1 h
  rfl

/-- A check that needs no tree reads nothing of a unit but its text. -/
theorem occurrences_congr_text (hs : s.usesTree = false) (htext : unit.text = unit'.text) :
    s.occurrences unit config = s.occurrences unit' config := by
  have hlines : unit.numberedLines = unit'.numberedLines := by
    rw [SourceUnit.numberedLines, SourceUnit.numberedLines, SourceUnit.lines, SourceUnit.lines,
      htext]
  cases s with
  | nestedCallbacks | duplicateCode | longFunction => cases hs
  | lengthyLines =>
    simp only [occurrences, check, LengthyLines.check, hlines]
  | longParameterList => simp only [occurrences, check, LongParameterList.check, hlines]
  | emptyCatch => simp only [occurrences, check, EmptyCatch.check, htext]
  | missingDefault => simp only [occurrences, check, MissingDefault.check, htext]
  | largeObjects => simp only [occurrences, check, LargeObjects.check, htext]
  | sensitiveInformation => simp only [occurrences, check, SensitiveInformation.check, hlines]
  | debuggingCode => simp only [occurrences, check, DebuggingCode.check, hlines]
  | insecureFileHandling =>
    simp only [occurrences, check, InsecureFileHandling.check, Occurrence.onLines, htext, hlines]

/-- A check that needs the tree reads nothing else. -/
theorem occurrences_congr_tree (hs : s.usesTree = true) (htree : unit.tree = unit'.tree) :
    s.occurrences unit config = s.occurrences unit' config := by
  unfold usesTree at hs
  unfold occurrences
  cases hcheck : s.check with
  | text run => simp [hcheck] at hs
  | tree run => simp only [htree]

/-- Without a tree a smell that needs one finds nothing. -/
theorem run_of_tree_eq_none (hs : s.usesTree = true) (htree : unit.tree = none) :
    s.run unit config = [] := by
  unfold usesTree at hs
  unfold run occurrences
  cases hcheck : s.check with
  | text run => simp [hcheck] at hs
  | tree run => simp only [htree, List.map_nil]

/-- **What the findings of a smell depend on**: the path and the text of a unit, and its tree only
if the smell needs it. -/
theorem run_congr (hpath : unit.path = unit'.path) (htext : unit.text = unit'.text)
    (htree : s.usesTree = true → unit.tree = unit'.tree) :
    s.run unit config = s.run unit' config := by
  have hocc : s.occurrences unit config = s.occurrences unit' config := by
    cases hs : s.usesTree with
    | false => exact occurrences_congr_text hs htext
    | true => exact occurrences_congr_tree hs (htree hs)
  rw [run, run, hocc, hpath]

end Run

end Smell

end SmellScan
