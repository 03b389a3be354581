import SmellScan.Proofs.Analysis.Duplicates

/-!
# Which duplicates are mentioned

A line has one finding of duplicate code, for the nearest copy of its block, so a match of two
blocks need not be told. The first block of a match is always named, since its line has a finding.
The second one is named with it if no nearer block matches the first. A block that is the second one
of all its matches, and always behind a nearer copy, is not named at all. These are the only blocks
that match something and go unmentioned (`duplicateFindings_names_iff`).
-/

namespace SmellScan

open Similarity

/-- The evidence of a finding names a block. -/
def Finding.Names (f : Finding) (block : CodeBlock) : Prop :=
  ∃ d, f.details = some d ∧ (d.block1 = .ofBlock block ∨ d.block2 = .ofBlock block)

namespace Similarity

/-- One of the two blocks of a match. -/
def Match.Joins (m : Match) (block : CodeBlock) : Prop :=
  m.blockA = block ∨ m.blockB = block

/-- A block never stands first in a match, and where it stands second the first block matches one
on an earlier line as well. -/
def Overshadowed (ms : List Match) (block : CodeBlock) : Prop :=
  ∀ m ∈ ms, m.blockA ≠ block ∧
    (m.blockB = block → ∃ m' ∈ ms, m'.blockA = m.blockA ∧ m'.blockB.line < block.line)

end Similarity

namespace Smell.DuplicateCode

/-! ## Blocks of a table -/

section Tables

variable {table : BlockTable} {threshold : Double}

/-- A line has one block. -/
theorem eq_of_line_eq (hkeys : (table.map Prod.fst).Nodup) {e e' : ℤ × CodeBlock} (he : e ∈ table)
    (he' : e' ∈ table) (hline : e.1 = e'.1) : e = e' :=
  List.inj_on_of_nodup_map hkeys he he' hline

/-- A pair that reaches the threshold has a first pair on its line, of the same block and with a
copy that is no later. -/
theorem exists_mem_firstCopies (hkeys : (table.map Prod.fst).Nodup)
    {p : (ℤ × CodeBlock) × (ℤ × CodeBlock)} (hp : p ∈ copyPairs table threshold) :
    ∃ q ∈ firstCopies table threshold, q.1 = p.1 ∧ q.2.1 ≤ p.2.1 := by
  have hline : p.1.1 ∈ (firstCopies table threshold).map (·.1.1) :=
    (mem_map_firsts _).2 (List.mem_map_of_mem hp)
  obtain ⟨q, hq, heq⟩ := List.mem_map.1 hline
  have hqp := (firsts_sublist _ _).subset hq
  obtain ⟨hp₁, hp₂, -⟩ := (mem_copyPairs_iff hkeys).1 hp
  obtain ⟨hq₁, -, -⟩ := (mem_copyPairs_iff hkeys).1 hqp
  refine ⟨q, hq, eq_of_line_eq hkeys hq₁ hp₁ heq, ?_⟩
  have hcopy : table.HasCopy threshold q.1.1 p.2.1 :=
    (hasCopy_iff hkeys).2 ⟨p.1.2, p.2.2, heq ▸ hp⟩
  exact (isLeast_of_mem_firstCopies hkeys hq).2 hcopy

/-- **An entry is in the first pair of some line** unless it stands second in all its pairs, each
time behind a nearer copy. -/
theorem exists_firstCopies_iff (hkeys : (table.map Prod.fst).Nodup) (e : ℤ × CodeBlock) :
    (∃ p ∈ firstCopies table threshold, p.1 = e ∨ p.2 = e) ↔
      ¬∀ p ∈ copyPairs table threshold, p.1 ≠ e ∧
        (p.2 = e → ∃ q ∈ copyPairs table threshold, q.1 = p.1 ∧ q.2.1 < e.1) := by
  constructor
  · rintro ⟨p, hp, rfl | rfl⟩ hshadow
    · exact (hshadow p ((firsts_sublist _ _).subset hp)).1 rfl
    · obtain ⟨q, hq, hfirst, hlt⟩ := (hshadow p ((firsts_sublist _ _).subset hp)).2 rfl
      have hcopy : table.HasCopy threshold p.1.1 q.2.1 :=
        (hasCopy_iff hkeys).2 ⟨q.1.2, q.2.2, hfirst ▸ hq⟩
      have hle : p.2.1 ≤ q.2.1 := (isLeast_of_mem_firstCopies hkeys hp).2 hcopy
      omega
  · intro hshadow
    push Not at hshadow
    obtain ⟨p, hp, hcase⟩ := hshadow
    obtain ⟨q, hq, hfirst, hle⟩ := exists_mem_firstCopies hkeys hp
    by_cases hpe : p.1 = e
    · exact ⟨q, hq, Or.inl (hfirst.trans hpe)⟩
    · obtain ⟨rfl, hnone⟩ := hcase hpe
      have hqp := (firsts_sublist _ _).subset hq
      obtain ⟨-, hp₂, -⟩ := (mem_copyPairs_iff hkeys).1 hp
      obtain ⟨-, hq₂, -⟩ := (mem_copyPairs_iff hkeys).1 hqp
      have hline : q.2.1 = p.2.1 := Int.le_antisymm hle (hnone q hqp hfirst)
      exact ⟨q, hq, Or.inr (eq_of_line_eq hkeys hq₂ hp₂ hline)⟩

end Tables

/-! ## Blocks of a tree -/

section Extracted

variable {tree : SyntaxNode} {config : Config}

theorem mem_findMatches_extract {m : Match} :
    m ∈ findMatches (CodeBlock.extract tree config.minDuplicateLength) config.minDuplicateLength
        config.similarityThreshold ↔
      ∃ p ∈ copyPairs (CodeBlock.extract tree config.minDuplicateLength)
        config.similarityThreshold, plainMatch p.1.2 p.2.2 = m := by
  rw [findMatches_extract, List.mem_map]

theorem mem_extract_of_mem_copyPairs {p : (ℤ × CodeBlock) × (ℤ × CodeBlock)}
    (hp : p ∈ copyPairs (CodeBlock.extract tree config.minDuplicateLength)
      config.similarityThreshold) :
    p.1 ∈ CodeBlock.extract tree config.minDuplicateLength ∧
      p.2 ∈ CodeBlock.extract tree config.minDuplicateLength := by
  obtain ⟨hp₁, hp₂, -⟩ := mem_extract_of_mem_pairs tree config (List.mem_of_mem_filter hp)
  exact ⟨hp₁, hp₂⟩

/-- A reference to a block of a tree tells it from all others, since it holds the line. -/
theorem eq_of_ofBlock_eq {e e' : ℤ × CodeBlock}
    (he : e ∈ CodeBlock.extract tree config.minDuplicateLength)
    (he' : e' ∈ CodeBlock.extract tree config.minDuplicateLength)
    (hrefs : BlockRef.ofBlock e.2 = .ofBlock e'.2) : e = e' := by
  have hline : e.2.line = e'.2.line := congrArg BlockRef.startLine hrefs
  rw [CodeBlock.line_of_mem_extract he, CodeBlock.line_of_mem_extract he'] at hline
  exact eq_of_line_eq (CodeBlock.nodup_keys_extract _ _) he he' hline

/-- What the finding of a pair names is the two blocks of the pair. -/
theorem names_report_iff {path : String} {e : ℤ × CodeBlock}
    {p : (ℤ × CodeBlock) × (ℤ × CodeBlock)}
    (he : e ∈ CodeBlock.extract tree config.minDuplicateLength)
    (hp : p ∈ copyPairs (CodeBlock.extract tree config.minDuplicateLength)
      config.similarityThreshold) :
    (Smell.duplicateCode.finding path (report p)).Names e.2 ↔ p.1 = e ∨ p.2 = e := by
  obtain ⟨hp₁, hp₂⟩ := mem_extract_of_mem_copyPairs hp
  constructor
  · rintro ⟨d, hd, hnames⟩
    obtain rfl := Option.some.inj hd
    exact hnames.imp (eq_of_ofBlock_eq hp₁ he) (eq_of_ofBlock_eq hp₂ he)
  · rintro (rfl | rfl)
    · exact ⟨_, rfl, Or.inl rfl⟩
    · exact ⟨_, rfl, Or.inr rfl⟩

/-- What matches say of a block, their pairs say of its entry. -/
theorem overshadowed_iff {e : ℤ × CodeBlock}
    (he : e ∈ CodeBlock.extract tree config.minDuplicateLength) :
    Overshadowed (findMatches (CodeBlock.extract tree config.minDuplicateLength)
        config.minDuplicateLength config.similarityThreshold) e.2 ↔
      ∀ p ∈ copyPairs (CodeBlock.extract tree config.minDuplicateLength)
          config.similarityThreshold, p.1 ≠ e ∧
        (p.2 = e → ∃ q ∈ copyPairs (CodeBlock.extract tree config.minDuplicateLength)
          config.similarityThreshold, q.1 = p.1 ∧ q.2.1 < e.1) := by
  have hsame : ∀ {e e' : ℤ × CodeBlock}, e ∈ CodeBlock.extract tree config.minDuplicateLength →
      e' ∈ CodeBlock.extract tree config.minDuplicateLength → (e.2 = e'.2 ↔ e = e') :=
    fun he he' => ⟨fun h => eq_of_ofBlock_eq he he' (congrArg _ h), congrArg _⟩
  simp only [Overshadowed, findMatches_extract, List.forall_mem_map, plainMatch]
  refine forall₂_congr fun p hp => ?_
  obtain ⟨hp₁, hp₂⟩ := mem_extract_of_mem_copyPairs hp
  simp only [ne_eq, hsame hp₁ he, hsame hp₂ he, List.mem_map, exists_exists_and_eq_and]
  refine and_congr_right fun _ => imp_congr_right fun _ => exists_congr fun q => ?_
  refine and_congr_right fun hq => ?_
  obtain ⟨hq₁, hq₂⟩ := mem_extract_of_mem_copyPairs hq
  rw [hsame hq₁ hp₁, CodeBlock.line_of_mem_extract hq₂, CodeBlock.line_of_mem_extract he]

end Extracted

end Smell.DuplicateCode

namespace Analysis

open Smell.DuplicateCode

variable {unit : SourceUnit} {tree : SyntaxNode} {smells : List Smell}

/-- A block of a tree is named if and only if it is in the first pair of some line. -/
theorem exists_names_iff (htree : unit.tree = some tree) (config : Config)
    (hsmells : .duplicateCode ∈ smells) {e : ℤ × CodeBlock}
    (he : e ∈ CodeBlock.extract tree config.minDuplicateLength) :
    (∃ f ∈ (analyzeUnit unit config smells).1.filter (·.smell = Smell.duplicateCode.name),
        f.Names e.2) ↔
      ∃ p ∈ firstCopies (CodeBlock.extract tree config.minDuplicateLength)
        config.similarityThreshold, p.1 = e ∨ p.2 = e := by
  rw [analyzeUnit_filter_name unit config hsmells, analyzeUnit_duplicateCode htree config]
  constructor
  · rintro ⟨f, hf, hnames⟩
    obtain ⟨p, hp, rfl⟩ := List.mem_map.1 hf
    exact ⟨p, hp, (names_report_iff he ((firsts_sublist _ _).subset hp)).1 hnames⟩
  · rintro ⟨p, hp, hpe⟩
    refine ⟨_, List.mem_map_of_mem hp, ?_⟩
    exact (names_report_iff he ((firsts_sublist _ _).subset hp)).2 hpe

/-- **Which duplicates are mentioned.** A block that belongs to a match is named in a finding of
duplicate code, unless it is the second block of all its matches and each time a nearer block
matches the first one as well. -/
theorem duplicateFindings_names_iff (htree : unit.tree = some tree) (config : Config)
    (hsmells : .duplicateCode ∈ smells) (block : CodeBlock) :
    let ms := findMatches (CodeBlock.extract tree config.minDuplicateLength)
      config.minDuplicateLength config.similarityThreshold
    let found := (analyzeUnit unit config smells).1.filter (·.smell = Smell.duplicateCode.name)
    (∃ m ∈ ms, m.Joins block) → ((∃ f ∈ found, f.Names block) ↔ ¬Overshadowed ms block) := by
  rintro ms found ⟨m, hm, hblock⟩
  obtain ⟨p, hp, rfl⟩ := mem_findMatches_extract.1 hm
  obtain ⟨hp₁, hp₂⟩ := mem_extract_of_mem_copyPairs hp
  obtain ⟨e, he, rfl⟩ : ∃ e ∈ CodeBlock.extract tree config.minDuplicateLength, e.2 = block := by
    rcases hblock with hblock | hblock
    · exact ⟨p.1, hp₁, hblock⟩
    · exact ⟨p.2, hp₂, hblock⟩
  rw [exists_names_iff htree config hsmells he, overshadowed_iff he]
  exact exists_firstCopies_iff (CodeBlock.nodup_keys_extract _ _) e

/-! ## A program of three functions -/

section Program

/-- The first function. -/
def original : CodeBlock := ⟨1, .arrowFunction, CodeBlock.anonymous, "x => g(1, 2)"⟩

/-- A copy of it on the next line. -/
def nearCopy : CodeBlock := ⟨2, .arrowFunction, CodeBlock.anonymous, "x => h(3, 2)"⟩

/-- A copy of the original further down, which differs from the near copy in four characters. -/
def farCopy : CodeBlock := ⟨3, .arrowFunction, CodeBlock.anonymous, "y => g(1, 4)"⟩

/-- The tree of a program of the three functions. -/
def copiesTree : SyntaxNode :=
  let arrow : CodeBlock → SyntaxNode := fun block =>
    .mk ⟨block.kind, "arrow_function", some block.line, none, some block.text⟩ .none [] []
  .mk ⟨.other, "program", some 1, none, none⟩
    (.seq [arrow original, arrow nearCopy, arrow farCopy]) [] []

/-- The program, with its tree. -/
def copiesUnit : SourceUnit :=
  ⟨"a.js", "x => g(1, 2)\nx => h(3, 2)\ny => g(1, 4)", .javascript, some copiesTree, none⟩

theorem extract_copiesTree :
    CodeBlock.extract copiesTree defaultMinLength =
      [(1, original), (2, nearCopy), (3, farCopy)] := by
  decide

/-- The copies match the original and not each other. -/
theorem copyPairs_copiesTree :
    copyPairs (CodeBlock.extract copiesTree defaultMinLength) defaultThreshold =
      [((1, original), (2, nearCopy)), ((1, original), (3, farCopy))] := by
  have hsorted : sortedEntries [(1, original), (2, nearCopy), (3, farCopy)] =
      [(1, original), (2, nearCopy), (3, farCopy)] :=
    List.mergeSort_of_pairwise (by decide)
  rw [extract_copiesTree, copyPairs, hsorted]
  decide +kernel

theorem findMatches_copiesTree :
    findMatches (CodeBlock.extract copiesTree defaultMinLength) defaultMinLength
      defaultThreshold = [plainMatch original nearCopy, plainMatch original farCopy] := by
  have h := findMatches_extract copiesTree { baseDir := .here }
  dsimp only at h
  rw [h, copyPairs_copiesTree, List.map_cons, List.map_cons, List.map_nil]

/-- The copy on the next line is named, since nothing matches the original before it. -/
theorem duplicateFindings_names_nearCopy :
    let config : Config := { baseDir := .here }
    let smells : List Smell := [.longFunction, .duplicateCode]
    let ms := findMatches (CodeBlock.extract copiesTree config.minDuplicateLength)
      config.minDuplicateLength config.similarityThreshold
    let found := (analyzeUnit copiesUnit config smells).1.filter
      (·.smell = Smell.duplicateCode.name)
    copiesUnit.tree = some copiesTree ∧ .duplicateCode ∈ smells ∧
      (∃ m ∈ ms, m.Joins nearCopy) ∧ ∃ f ∈ found, f.Names nearCopy := by
  intro config smells ms found
  have hsmells : .duplicateCode ∈ smells := by decide
  have hmatches : ms = [plainMatch original nearCopy, plainMatch original farCopy] := by
    dsimp only [ms, config]
    exact findMatches_copiesTree
  have hjoined : ∃ m ∈ ms, m.Joins nearCopy := by
    rw [hmatches]
    exact ⟨_, List.mem_cons_self, Or.inr rfl⟩
  have hshadow : ¬Overshadowed ms nearCopy := by
    intro h
    rw [hmatches] at h
    obtain ⟨m, hm, -, hlt⟩ := (h _ List.mem_cons_self).2 rfl
    simp only [List.mem_cons, List.not_mem_nil, or_false] at hm
    rcases hm with rfl | rfl
    · exact absurd hlt (by decide)
    · exact absurd hlt (by decide)
  exact ⟨rfl, hsmells, hjoined,
    (duplicateFindings_names_iff rfl config hsmells nearCopy hjoined).2 hshadow⟩

/-- The copy further down matches the original, and no finding names it. -/
theorem duplicateFindings_unnamed :
    let config : Config := { baseDir := .here }
    let ms := findMatches (CodeBlock.extract copiesTree config.minDuplicateLength)
      config.minDuplicateLength config.similarityThreshold
    let found := (analyzeUnit copiesUnit config Smell.all).1.filter
      (·.smell = Smell.duplicateCode.name)
    ¬∀ block, (∃ m ∈ ms, m.Joins block) → ∃ f ∈ found, f.Names block := by
  intro config ms found hnamed
  have hmatches : ms = [plainMatch original nearCopy, plainMatch original farCopy] := by
    dsimp only [ms, config]
    exact findMatches_copiesTree
  have hjoined : ∃ m ∈ ms, m.Joins farCopy := by
    rw [hmatches]
    exact ⟨_, List.mem_cons_of_mem _ List.mem_cons_self, Or.inr rfl⟩
  have hentry : (3, farCopy) ∈ CodeBlock.extract copiesTree config.minDuplicateLength := by
    dsimp only [config]
    rw [extract_copiesTree]
    simp
  have hshadow : Overshadowed ms farCopy := by
    rw [hmatches]
    intro m hm
    have hfirst : m.blockA = original := by
      simp only [List.mem_cons, List.not_mem_nil, or_false] at hm
      rcases hm with rfl | rfl <;> rfl
    rw [hfirst]
    exact ⟨by decide, fun _ => ⟨_, List.mem_cons_self, rfl, by decide⟩⟩
  have hfirst := (exists_names_iff rfl config (Smell.mem_all _) hentry).1 (hnamed farCopy hjoined)
  exact (exists_firstCopies_iff (CodeBlock.nodup_keys_extract _ _) _).1 hfirst
    ((overshadowed_iff hentry).1 hshadow)

end Program

end Analysis

end SmellScan
