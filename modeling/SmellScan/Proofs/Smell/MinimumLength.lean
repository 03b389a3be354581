import SmellScan.Proofs.Analysis.Mentions
import SmellScan.Proofs.CodeBlock.Outermost

/-!
# Duplicates and the least length of a block

A greater least length takes short nodes out before the first node of each line is kept, so it may
also bring a block in: that of a longer node behind a short one on its line. The nodes that are long
enough for the greater length are those that are so for the smaller one, less the short ones
(`filterMap_keyedBlock?_of_le`). So a block at the greater length is there at the smaller one too,
unless a short node holds its line then (`exists_mem_extract_of_le`). The pairs that are reported at
the greater length are reported at the smaller one with just the same exception
(`reportsPair_of_le`).
-/

namespace SmellScan

namespace CodeBlock

open SyntaxNode

/-- Of the nodes on a line with at least `minLength` characters, the one that is kept has fewer than
`greater`. -/
def HeldByShorter (minLength greater : ℤ) (tree : SyntaxNode) (line : ℤ) : Prop :=
  ∃ v text, IsOutermost minLength tree line v ∧ v.node.info.text = some text ∧
    text.length < greater

variable {minLength greater : ℤ} {tree : SyntaxNode} {e : ℤ × CodeBlock}

/-! ## Blocks at two lengths -/

/-- A greater length leaves out what is shorter than it. -/
theorem keyedBlock?_of_le (h : minLength ≤ greater) (n : SyntaxNode) :
    keyedBlock? greater n =
      (keyedBlock? minLength n).filter fun e => greater ≤ e.2.text.length := by
  unfold keyedBlock? ofInfo?
  by_cases hkind : n.info.kind.isBlock = true
  · rw [if_pos hkind, if_pos hkind]
    cases n.info.line with
    | none => rfl
    | some line =>
      cases n.info.text with
      | none => rfl
      | some text =>
        by_cases hgreater : text.length < greater
        · by_cases hleast : text.length < minLength <;> simp [hgreater, hleast, Option.filter]
        · have hleast : ¬text.length < minLength := by omega
          have hle : greater ≤ text.length := by omega
          simp [hgreater, hleast, hle, Option.filter]
  · rw [if_neg hkind, if_neg hkind]
    rfl

/-- **The nodes for a greater length are those for a smaller one, less the short ones.** -/
theorem filterMap_keyedBlock?_of_le (h : minLength ≤ greater) (ns : List SyntaxNode) :
    ns.filterMap (keyedBlock? greater) =
      (ns.filterMap (keyedBlock? minLength)).filter fun e => greater ≤ e.2.text.length := by
  rw [List.filter_filterMap]
  exact List.filterMap_congr fun n _ => keyedBlock?_of_le h n

/-- **A block at a greater length is there at a smaller one**, unless a shorter block is there on
its line. -/
theorem exists_mem_extract_of_le (h : minLength ≤ greater) (he : e ∈ extract tree greater) :
    ∃ e' ∈ extract tree minLength, e'.1 = e.1 ∧ (e' = e ∨ e'.2.text.length < greater) := by
  rw [extract_eq_firsts, filterMap_keyedBlock?_of_le h] at he
  obtain ⟨e', he', hline, hor⟩ := exists_mem_firsts_of_filter _ he
  rw [← extract_eq_firsts] at he'
  exact ⟨e', he', hline, hor.imp_right fun hshort => Int.not_le.1 (of_decide_eq_false hshort)⟩

/-! ## The node that holds a line -/

/-- A line is held by one node. -/
theorem IsOutermost.unique {line : ℤ} {v w : Visit} (hv : IsOutermost minLength tree line v)
    (hw : IsOutermost minLength tree line w) : v = w := by
  have hfind : ∀ u, IsOutermost minLength tree line u →
      (tour slotOrder [] tree).find? (fun x => eligibleLine? minLength x.node = some line) =
        some u := by
    intro u hu
    obtain ⟨before, after, hsplit, hbefore⟩ := hu.first
    refine List.find?_eq_some_iff_append.2 ⟨by simpa using hu.eligible, before, after, hsplit, ?_⟩
    simpa using hbefore
  exact Option.some.inj ((hfind v hv).symm.trans (hfind w hw))

/-- The block on a line tells whether a short node holds it. -/
theorem heldByShorter_iff (he : e ∈ extract tree minLength) :
    HeldByShorter minLength greater tree e.1 ↔ e.2.text.length < greater := by
  obtain ⟨v, hv, hblock⟩ := (holdsOutermost_extract tree minLength).blocks e.1 e.2 he
  constructor
  · rintro ⟨w, text, hw, htext, hshort⟩
    rw [← hv.unique hw, hblock.text] at htext
    obtain rfl := Option.some.inj htext
    exact hshort
  · exact fun hshort => ⟨v, e.2.text, hv, hblock.text, hshort⟩

/-- No short node holds a line on which blocks of the same text are there at both lengths. -/
theorem not_heldByShorter {line : ℤ} {a a' : CodeBlock} (ha : (line, a) ∈ extract tree greater)
    (ha' : (line, a') ∈ extract tree minLength) (htext : a'.text = a.text) :
    ¬HeldByShorter minLength greater tree line := by
  intro hheld
  have hshort := (heldByShorter_iff ha').1 hheld
  have hlong := length_of_mem_extract ha
  rw [htext] at hshort
  exact absurd hshort (Int.not_lt.2 hlong)

/-- A block at a greater length is there at a smaller one if no short node holds its line. -/
theorem mem_extract_of_le (h : minLength ≤ greater) (he : e ∈ extract tree greater)
    (hheld : ¬HeldByShorter minLength greater tree e.1) : e ∈ extract tree minLength := by
  obtain ⟨e', he', hline, rfl | hshort⟩ := exists_mem_extract_of_le h he
  · exact he'
  · rw [← hline, heldByShorter_iff he'] at hheld
    exact absurd hshort hheld

end CodeBlock

namespace Smell.DuplicateCode

open CodeBlock

/-- The check reports two blocks, which are given by line and text: they are blocks of the tree, and
the evidence of some occurrence names them in this order. -/
def ReportsPair (tree : SyntaxNode) (config : Config) (p q : ℤ × String) : Prop :=
  ∃ a b, (p.1, a) ∈ extract tree config.minDuplicateLength ∧ a.text = p.2 ∧
    (q.1, b) ∈ extract tree config.minDuplicateLength ∧ b.text = q.2 ∧
    ∃ o ∈ check tree config, ∃ d ∈ o.details, d.block1 = .ofBlock a ∧ d.block2 = .ofBlock b

/-- The check reports the pairs of blocks whose score reaches the threshold. -/
theorem reportsPair_iff {tree : SyntaxNode} {config : Config} {p q : ℤ × String} :
    ReportsPair tree config p q ↔ ∃ a b, a.text = p.2 ∧ b.text = q.2 ∧
      ((p.1, a), (q.1, b)) ∈ copyPairs (extract tree config.minDuplicateLength)
        config.similarityThreshold := by
  constructor
  · rintro ⟨a, b, ha, hp, hb, hq, o, ho, d, hd, hrefs⟩
    rw [check_eq] at ho
    obtain ⟨r, hr, rfl⟩ := List.mem_map.1 ho
    obtain rfl := Option.some.inj hd
    obtain ⟨hr₁, hr₂⟩ := mem_extract_of_mem_copyPairs hr
    have hfirst : r.1 = (p.1, a) := eq_of_ofBlock_eq hr₁ ha hrefs.1
    have hsecond : r.2 = (q.1, b) := eq_of_ofBlock_eq hr₂ hb hrefs.2
    exact ⟨a, b, hp, hq, hfirst ▸ hsecond ▸ hr⟩
  · rintro ⟨a, b, hp, hq, hr⟩
    obtain ⟨ha, hb⟩ := mem_extract_of_mem_copyPairs hr
    refine ⟨a, b, ha, hp, hb, hq, report ((p.1, a), (q.1, b)), ?_, _, rfl, rfl, rfl⟩
    rw [check_eq]
    exact List.mem_map_of_mem hr

theorem reportsPair_of_mem {tree : SyntaxNode} {config : Config} {l l' : ℤ} {a b : CodeBlock}
    (ha : (l, a) ∈ extract tree config.minDuplicateLength)
    (hb : (l', b) ∈ extract tree config.minDuplicateLength) (hlt : l < l')
    (hreach : Similarity.Reaches config.similarityThreshold (Similarity.score a.text b.text)) :
    ReportsPair tree config (l, a.text) (l', b.text) :=
  reportsPair_iff.2 ⟨a, b, rfl, rfl,
    (mem_copyPairs_iff (nodup_keys_extract _ _)).2 ⟨ha, hb, hlt, hreach⟩⟩

/-- **A greater least length reports no new pair, shorter blocks apart.** A pair that is reported at
the greater length is reported at the smaller one if and only if neither of its lines is held by a
shorter node then. -/
theorem reportsPair_of_le (tree : SyntaxNode) (config : Config) {minLength greater : ℤ}
    (h : minLength ≤ greater) {p q : ℤ × String}
    (hr : ReportsPair tree { config with minDuplicateLength := greater } p q) :
    ReportsPair tree { config with minDuplicateLength := minLength } p q ↔
      ¬HeldByShorter minLength greater tree p.1 ∧ ¬HeldByShorter minLength greater tree q.1 := by
  obtain ⟨l, s⟩ := p
  obtain ⟨l', s'⟩ := q
  obtain ⟨a, b, rfl, rfl, hr⟩ := reportsPair_iff.1 hr
  obtain ⟨ha, hb, hlt, hreach⟩ := (mem_copyPairs_iff (nodup_keys_extract _ _)).1 hr
  constructor
  · rintro ⟨a', b', ha', htext, hb', htext', -⟩
    exact ⟨not_heldByShorter ha ha' htext, not_heldByShorter hb hb' htext'⟩
  · rintro ⟨hl, hl'⟩
    exact reportsPair_of_mem (mem_extract_of_le h ha hl) (mem_extract_of_le h hb hl') hlt hreach

/-- The short function stands behind the long one on its line, so the long one holds the line at
both lengths. -/
theorem reportsPair_of_le_behind :
    let arrow : ℤ → String → SyntaxNode := fun line text =>
      .mk ⟨.arrowFunction, "arrow_function", some line, none, some text⟩ .none [] []
    let tree : SyntaxNode := .mk ⟨.other, "program", some 1, none, none⟩ (.seq
      [arrow 1 "(x, y) => x * y + 1", arrow 1 "a => a", arrow 2 "(x, y) => x * y + 1"]) [] []
    let config : Config := { baseDir := .here }
    let p : ℤ × String := (1, "(x, y) => x * y + 1")
    let q : ℤ × String := (2, "(x, y) => x * y + 1")
    (5 : ℤ) ≤ 10 ∧ ReportsPair tree { config with minDuplicateLength := 10 } p q ∧
      ReportsPair tree { config with minDuplicateLength := 5 } p q := by
  intro arrow tree config p q
  let a : CodeBlock := ⟨1, .arrowFunction, anonymous, "(x, y) => x * y + 1"⟩
  let b : CodeBlock := ⟨2, .arrowFunction, anonymous, "(x, y) => x * y + 1"⟩
  have hreports : ReportsPair tree { config with minDuplicateLength := 10 } p q :=
    reportsPair_of_mem (a := a) (b := b) (by decide) (by decide) (by decide) (by decide +kernel)
  have ha : (1, a) ∈ extract tree 5 := by decide
  have hb : (2, b) ∈ extract tree 5 := by decide
  refine ⟨by decide, hreports, (reportsPair_of_le tree config (by decide) hreports).2 ⟨?_, ?_⟩⟩
  · rw [heldByShorter_iff ha]
    decide
  · rw [heldByShorter_iff hb]
    decide

/-- The short function stands first on its line and holds it at the smaller length, so the pair of
the two long ones is reported at the greater length alone. -/
theorem reportsPair_of_le_hidden :
    let arrow : ℤ → String → SyntaxNode := fun line text =>
      .mk ⟨.arrowFunction, "arrow_function", some line, none, some text⟩ .none [] []
    let tree : SyntaxNode := .mk ⟨.other, "program", some 1, none, none⟩ (.seq
      [arrow 1 "a => a", arrow 1 "(x, y) => x * y + 1", arrow 2 "(x, y) => x * y + 1"]) [] []
    let config : Config := { baseDir := .here }
    (5 : ℤ) ≤ 10 ∧ ¬∀ p q, ReportsPair tree { config with minDuplicateLength := 10 } p q →
      ReportsPair tree { config with minDuplicateLength := 5 } p q := by
  intro arrow tree config
  refine ⟨by decide, fun hall => ?_⟩
  let a : CodeBlock := ⟨1, .arrowFunction, anonymous, "(x, y) => x * y + 1"⟩
  let b : CodeBlock := ⟨2, .arrowFunction, anonymous, "(x, y) => x * y + 1"⟩
  have hreports : ReportsPair tree { config with minDuplicateLength := 10 } (1, a.text)
      (2, b.text) :=
    reportsPair_of_mem (by decide) (by decide) (by decide) (by decide +kernel)
  obtain ⟨a', -, ha', htext, -⟩ := hall _ _ hreports
  have hshort : (1, ⟨1, .arrowFunction, anonymous, "a => a"⟩) ∈ extract tree 5 := by decide
  have heq := eq_of_line_eq (nodup_keys_extract tree 5) ha' hshort rfl
  rw [(Prod.mk.inj heq).2] at htext
  exact absurd htext (by decide)

end Smell.DuplicateCode

end SmellScan
