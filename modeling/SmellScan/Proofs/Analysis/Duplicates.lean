import Mathlib.Order.Bounds.Basic
import SmellScan.Proofs.Analysis.Selection
import SmellScan.Proofs.CodeBlock.Extraction
import SmellScan.Proofs.Similarity.Matches

/-!
# What is found of duplicate code

From the tree of a unit to its findings, the near-copies go through the extraction of blocks, the
search for matches and the ledger. A line of the result is that of a block with a near-copy on some
later line, and the evidence is for the nearest of these lines:

* the extracted blocks are long enough, so only their scores decide (`check_eq`);
* the pairs come in dictionary order of their lines, so the first one of a line, which is the one
  that the ledger keeps, has the least second line (`isLeast_of_mem_firstCopies`);
* in that order the lines ascend already, so sorting changes nothing (`analyzeUnit_duplicateCode`).
-/

namespace SmellScan

open Similarity

/-- A score reaches a threshold, as every score does if the threshold is no number. -/
def Similarity.Reaches (threshold s : Double) : Prop :=
  threshold ≠ .nan → threshold.le s = true

instance (threshold s : Double) : Decidable (Reaches threshold s) :=
  inferInstanceAs (Decidable (_ → _))

/-- The block at the line `l` has a near-copy at the later line `l'`. -/
def BlockTable.HasCopy (table : BlockTable) (threshold : Double) (l l' : ℤ) : Prop :=
  l < l' ∧ ∃ a b, table.lookup l = some a ∧ table.lookup l' = some b ∧
    Reaches threshold (score a.text b.text)

namespace Smell.DuplicateCode

/-- The pairs of entries with a score that reaches the threshold, by ascending pair of lines. -/
def copyPairs (table : BlockTable) (threshold : Double) :
    List ((ℤ × CodeBlock) × (ℤ × CodeBlock)) :=
  (pairs (sortedEntries table)).filter fun p => Reaches threshold (score p.1.2.text p.2.2.text)

/-- The pairs that are the first of their first line. -/
def firstCopies (table : BlockTable) (threshold : Double) :
    List ((ℤ × CodeBlock) × (ℤ × CodeBlock)) :=
  firsts (·.1.1) (copyPairs table threshold)

/-- What is told of two near-copies at the line of the first. -/
def report (p : (ℤ × CodeBlock) × (ℤ × CodeBlock)) : Occurrence :=
  let s := score p.1.2.text p.2.2.text
  { line := p.1.1
    description := s!"Duplicate code detected with {percent s}% similarity."
    details := some (.ofMatch ⟨p.1.2, p.2.2, s, LineCluster.find p.1.2.text p.2.2.text⟩) }

/-! ## Pairs -/

section Pairs

variable {table : BlockTable} {threshold : Double}

theorem pairwise_copyPairs (hkeys : (table.map Prod.fst).Nodup) :
    (copyPairs table threshold).Pairwise fun p q =>
      p.1.1 < q.1.1 ∨ p.1.1 = q.1.1 ∧ p.2.1 < q.2.1 :=
  (pairwise_pairs (pairwise_sortedEntries hkeys)).filter _

theorem mem_copyPairs_iff (hkeys : (table.map Prod.fst).Nodup) {e e' : ℤ × CodeBlock} :
    (e, e') ∈ copyPairs table threshold ↔
      e ∈ table ∧ e' ∈ table ∧ e.1 < e'.1 ∧ Reaches threshold (score e.2.text e'.2.text) := by
  rw [copyPairs, List.mem_filter, mem_pairs_iff (fun _ _ => Int.lt_asymm)
    (pairwise_sortedEntries hkeys)]
  simp [sortedEntries, and_assoc]

theorem hasCopy_iff (hkeys : (table.map Prod.fst).Nodup) {l l' : ℤ} :
    table.HasCopy threshold l l' ↔
      ∃ a b, ((l, a), (l', b)) ∈ copyPairs table threshold := by
  simp only [BlockTable.HasCopy, lookup_eq_some_iff_mem hkeys, mem_copyPairs_iff hkeys]
  constructor
  · rintro ⟨hlt, a, b, ha, hb, hreach⟩
    exact ⟨a, b, ha, hb, hlt, hreach⟩
  · rintro ⟨a, b, ha, hb, hlt, hreach⟩
    exact ⟨hlt, a, b, ha, hb, hreach⟩

theorem mem_lines_firstCopies (hkeys : (table.map Prod.fst).Nodup) {l : ℤ} :
    l ∈ (firstCopies table threshold).map (·.1.1) ↔ ∃ l', table.HasCopy threshold l l' := by
  rw [firstCopies, mem_map_firsts, List.mem_map]
  simp only [hasCopy_iff hkeys]
  constructor
  · rintro ⟨⟨⟨l, a⟩, ⟨l', b⟩⟩, hp, rfl⟩
    exact ⟨l', a, b, hp⟩
  · rintro ⟨l', a, b, hp⟩
    exact ⟨_, hp, rfl⟩

/-- **The first pair of a line has the nearest copy.** -/
theorem isLeast_of_mem_firstCopies (hkeys : (table.map Prod.fst).Nodup)
    {p : (ℤ × CodeBlock) × (ℤ × CodeBlock)} (hp : p ∈ firstCopies table threshold) :
    IsLeast {l' | table.HasCopy threshold p.1.1 l'} p.2.1 := by
  have hasymm : ∀ p q : (ℤ × CodeBlock) × (ℤ × CodeBlock),
      (p.1.1 < q.1.1 ∨ p.1.1 = q.1.1 ∧ p.2.1 < q.2.1) →
        ¬(q.1.1 < p.1.1 ∨ q.1.1 = p.1.1 ∧ q.2.1 < p.2.1) := by
    intro p q
    omega
  obtain ⟨hmem, hfirst⟩ := (mem_firsts_iff _ hasymm (pairwise_copyPairs hkeys)).1 hp
  refine ⟨(hasCopy_iff hkeys).2 ⟨p.1.2, p.2.2, hmem⟩, fun l' hl' => ?_⟩
  obtain ⟨a, b, hab⟩ := (hasCopy_iff hkeys).1 hl'
  rcases hfirst _ hab rfl with heq | hlt | ⟨-, hlt⟩
  · exact (congrArg (fun q => q.2.1) heq).ge
  · exact absurd hlt (Int.lt_irrefl _)
  · exact hlt.le

theorem pairwise_firstCopies (hkeys : (table.map Prod.fst).Nodup) :
    (firstCopies table threshold).Pairwise fun p q => p.1.1 < q.1.1 := by
  have hsorted := (pairwise_copyPairs hkeys).sublist
    (firsts_sublist (fun p => p.1.1) (copyPairs table threshold))
  have hne := List.pairwise_map.1 (nodup_map_firsts (fun p => p.1.1) (copyPairs table threshold))
  refine (hsorted.and hne).imp ?_
  rintro p q ⟨hlt | ⟨heq, -⟩, hne⟩
  · exact hlt
  · exact absurd heq hne

end Pairs

/-! ## Findings -/

section Extracted

variable (tree : SyntaxNode) (config : Config)

theorem mem_extract_of_mem_pairs {p : (ℤ × CodeBlock) × (ℤ × CodeBlock)}
    (hp : p ∈ pairs (sortedEntries (CodeBlock.extract tree config.minDuplicateLength))) :
    p.1 ∈ CodeBlock.extract tree config.minDuplicateLength ∧
      p.2 ∈ CodeBlock.extract tree config.minDuplicateLength ∧ p.1.1 < p.2.1 := by
  have hsorted := pairwise_sortedEntries
    (CodeBlock.nodup_keys_extract tree config.minDuplicateLength)
  simpa [sortedEntries] using (mem_pairs_iff (fun _ _ => Int.lt_asymm) hsorted).1 hp

/-- Extracted blocks are long enough, so near-copies are told by their score alone. -/
theorem findMatches_extract :
    findMatches (CodeBlock.extract tree config.minDuplicateLength) config.minDuplicateLength
        config.similarityThreshold =
      (copyPairs (CodeBlock.extract tree config.minDuplicateLength)
        config.similarityThreshold).map fun p => plainMatch p.1.2 p.2.2 := by
  have hfilter : ∀ p ∈ pairs (sortedEntries (CodeBlock.extract tree config.minDuplicateLength)),
      decide (NearCopies config.minDuplicateLength config.similarityThreshold p.1.2 p.2.2) =
        decide (Reaches config.similarityThreshold (score p.1.2.text p.2.2.text)) := by
    intro p hp
    obtain ⟨he, he', -⟩ := mem_extract_of_mem_pairs tree config hp
    simp only [NearCopies, Reaches, score_eq_plainScore, CodeBlock.length_of_mem_extract he,
      CodeBlock.length_of_mem_extract he', true_and]
  rw [findMatches_eq, copyPairs, List.filter_congr hfilter]

/-- The check reports every pair of blocks whose score reaches the threshold. -/
theorem check_eq :
    check tree config =
      (copyPairs (CodeBlock.extract tree config.minDuplicateLength)
        config.similarityThreshold).map report := by
  rw [check, findMatches_extract, List.map_map]
  refine List.map_congr_left fun p hp => ?_
  obtain ⟨he, he', hlt⟩ := mem_extract_of_mem_pairs tree config (List.mem_of_mem_filter hp)
  have hline : (plainMatch p.1.2 p.2.2).line = p.1.1 := by
    rw [plainMatch, Match.line, CodeBlock.line_of_mem_extract he,
      CodeBlock.line_of_mem_extract he']
    exact Int.min_eq_left hlt.le
  rw [Function.comp_apply, hline, report, score_eq_plainScore]
  rfl

end Extracted

end Smell.DuplicateCode

namespace Analysis

open Smell.DuplicateCode

/-- **The findings of duplicate code** are the first pairs of their lines, as they stand. -/
theorem analyzeUnit_duplicateCode {unit : SourceUnit} {tree : SyntaxNode}
    (htree : unit.tree = some tree) (config : Config) :
    (analyzeUnit unit config [.duplicateCode]).1 =
      (firstCopies (CodeBlock.extract tree config.minDuplicateLength)
        config.similarityThreshold).map
          fun p => Smell.duplicateCode.finding unit.path (report p) := by
  have hrun : Smell.duplicateCode.run unit config =
      (copyPairs (CodeBlock.extract tree config.minDuplicateLength)
        config.similarityThreshold).map
          fun p => Smell.duplicateCode.finding unit.path (report p) := by
    rw [Smell.run, Smell.occurrences, Smell.check, htree]
    dsimp only
    rw [check_eq, List.map_map]
    rfl
  have hkey : ∀ p q : (ℤ × CodeBlock) × (ℤ × CodeBlock),
      (Smell.duplicateCode.finding unit.path (report p)).key =
        (Smell.duplicateCode.finding unit.path (report q)).key ↔ p.1.1 = q.1.1 := by
    intro p q
    simp [Finding.key, Smell.finding, report]
  rw [analyzeUnit_findings, List.flatMap_singleton, hrun, firsts_map,
    firsts_congr_key _ fun p _ q _ => hkey p q, ← firstCopies]
  refine List.mergeSort_of_pairwise (List.pairwise_map.2 ?_)
  refine (pairwise_firstCopies (CodeBlock.nodup_keys_extract _ _)).imp fun hlt => ?_
  exact Finding.le_iff.2 (Or.inr ⟨rfl, hlt.le⟩)

/-- **Duplicate code, end to end.** Of the blocks of a tree, exactly those with a near-copy on a
later line are reported, each once, by ascending line, and the evidence is for the nearest such
line. -/
theorem duplicateFindings_exact {unit : SourceUnit} {tree : SyntaxNode}
    (htree : unit.tree = some tree) (config : Config) {smells : List Smell}
    (hsmells : .duplicateCode ∈ smells) :
    let blocks := CodeBlock.extract tree config.minDuplicateLength
    let found := (analyzeUnit unit config smells).1.filter (·.smell = Smell.duplicateCode.name)
    (found.map (·.line)).Pairwise (· < ·) ∧
      (∀ l, l ∈ found.map (·.line) ↔ ∃ l', blocks.HasCopy config.similarityThreshold l l') ∧
      ∀ f ∈ found, ∃ l' a b d,
        IsLeast {l' | blocks.HasCopy config.similarityThreshold f.line l'} l' ∧
        blocks.lookup f.line = some a ∧ blocks.lookup l' = some b ∧ f.details = some d ∧
        d.block1 = .ofBlock a ∧ d.block2 = .ofBlock b ∧
        d.similarity = score a.text b.text ∧
        d.similarLines = LineCluster.find a.text b.text := by
  intro blocks found
  have hkeys : (blocks.map Prod.fst).Nodup := CodeBlock.nodup_keys_extract _ _
  have hfound : found = (firstCopies blocks config.similarityThreshold).map
      fun p => Smell.duplicateCode.finding unit.path (report p) :=
    (analyzeUnit_filter_name unit config hsmells).trans (analyzeUnit_duplicateCode htree config)
  have hlines : found.map (·.line) =
      (firstCopies blocks config.similarityThreshold).map (·.1.1) := by
    rw [hfound, List.map_map]
    rfl
  refine ⟨?_, fun l => ?_, fun f hf => ?_⟩
  · rw [hlines]
    exact List.pairwise_map.2 (pairwise_firstCopies hkeys)
  · rw [hlines]
    exact mem_lines_firstCopies hkeys
  · rw [hfound] at hf
    obtain ⟨p, hp, rfl⟩ := List.mem_map.1 hf
    have hpair := (firsts_sublist _ _).subset hp
    obtain ⟨he, he', -⟩ := (mem_copyPairs_iff hkeys).1 hpair
    exact ⟨p.2.1, p.1.2, p.2.2, _, isLeast_of_mem_firstCopies hkeys hp,
      (lookup_eq_some_iff_mem hkeys).2 he, (lookup_eq_some_iff_mem hkeys).2 he',
      rfl, rfl, rfl, rfl, rfl⟩

/-- A block with two copies, one nearer than the other, and a block that differs between them. -/
theorem duplicateFindings_exact_nearest :
    let arrow : ℤ → String → SyntaxNode := fun line text =>
      .mk ⟨.arrowFunction, "arrow_function", some line, none, some text⟩ .none [] []
    let tree : SyntaxNode := .mk ⟨.other, "program", some 1, none, none⟩ (.seq
      [arrow 1 "a => a + 1", arrow 2 "() => { run() }", arrow 3 "a => a + 2", arrow 5 "a => a + 1"])
      [] []
    let unit : SourceUnit := ⟨"a.js", "", .javascript, some tree, none⟩
    let config : Config := { baseDir := .here }
    let smells : List Smell := [.lengthyLines, .duplicateCode]
    let blocks := CodeBlock.extract tree config.minDuplicateLength
    let found := (analyzeUnit unit config smells).1.filter (·.smell = Smell.duplicateCode.name)
    unit.tree = some tree ∧ .duplicateCode ∈ smells ∧
      blocks.HasCopy config.similarityThreshold 1 3 ∧ 1 ∈ found.map (·.line) ∧
      (found.map (·.line)).Pairwise (· < ·) := by
  intro arrow tree unit config smells blocks found
  have hsmells : .duplicateCode ∈ smells := by decide
  have hcopy : blocks.HasCopy config.similarityThreshold 1 3 :=
    ⟨by decide, _, _, rfl, rfl, by decide +kernel⟩
  obtain ⟨hsorted, hlines, -⟩ :=
    duplicateFindings_exact (rfl : unit.tree = some tree) config hsmells
  exact ⟨rfl, hsmells, hcopy, (hlines 1).2 ⟨3, hcopy⟩, hsorted⟩

/-- With a threshold that is no number every block but the last is reported, although no score is at
least that threshold. -/
theorem duplicateFindings_nan :
    let arrow : ℤ → String → SyntaxNode := fun line text =>
      .mk ⟨.arrowFunction, "arrow_function", some line, none, some text⟩ .none [] []
    let tree : SyntaxNode := .mk ⟨.other, "program", some 1, none, none⟩
      (.seq [arrow 1 "a => a + 1", arrow 2 "(b, c) => b * c"]) [] []
    let unit : SourceUnit := ⟨"a.js", "", .javascript, some tree, none⟩
    let config : Config := { baseDir := .here, similarityThreshold := .nan }
    let blocks := CodeBlock.extract tree config.minDuplicateLength
    let found := (analyzeUnit unit config [.duplicateCode]).1.filter
      (·.smell = Smell.duplicateCode.name)
    ¬∀ l, l ∈ found.map (·.line) ↔ ∃ l' a b, l < l' ∧ blocks.lookup l = some a ∧
      blocks.lookup l' = some b ∧
        config.similarityThreshold.le (score a.text b.text) = true := by
  intro arrow tree unit config blocks found h
  have hkeys : (blocks.map Prod.fst).Nodup := CodeBlock.nodup_keys_extract _ _
  have hfound : found = (firstCopies blocks config.similarityThreshold).map
      fun p => Smell.duplicateCode.finding unit.path (report p) :=
    (analyzeUnit_filter_name unit config (List.mem_singleton_self _)).trans
      (analyzeUnit_duplicateCode rfl config)
  have hcopy : blocks.HasCopy config.similarityThreshold 1 2 :=
    ⟨by decide, _, _, rfl, rfl, fun hnan => absurd rfl hnan⟩
  have hline : 1 ∈ found.map (·.line) := by
    rw [hfound, List.map_map]
    exact (mem_lines_firstCopies hkeys).2 ⟨2, hcopy⟩
  obtain ⟨l', a, b, -, -, -, hle⟩ := (h 1).1 hline
  exact Bool.false_ne_true hle

end Analysis

end SmellScan
