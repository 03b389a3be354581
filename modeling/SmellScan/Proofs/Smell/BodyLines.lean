import SmellScan.Proofs.SyntaxNode.Origin
import SmellScan.Proofs.Text.BlockLines
import SmellScan.Smell.LongFunction

/-!
# Long functions by their source

The check of long functions counts line feeds in the text that a node carries, which is not its
source but the block made of it. The worklist finds the functions of the tagged tree, all of them
and nothing else (`mem_functions`). Each comes from a node of the parse tree (`exists_comesFrom`)
and carries the block of its source (`text_convert`), and a block has the line feeds of a source
that ends in ink. So the check goes by the lines of the source (`blockText_keepsLines`).
-/

namespace SmellScan

/-! ## Where functions come from -/

namespace SyntaxNode

open ParseTree

variable {source : List UInt8} {parent : Option String} {t c : ParseTree} {n m : SyntaxNode}
  {ns : List SyntaxNode}

theorem mem_directChildren : m ∈ n.directChildren ↔ ∃ s, m ∈ n.slot s := by
  rw [directChildren, List.mem_append, List.mem_append]
  constructor
  · rintro ((h | h) | h)
    · exact ⟨.children, h⟩
    · exact ⟨.arguments, h⟩
    · exact ⟨.body, h⟩
  · rintro ⟨s, h⟩
    cases s with
    | children => exact Or.inl (Or.inl h)
    | arguments => exact Or.inl (Or.inr h)
    | body => exact Or.inr h

/-- A node stands somewhere in a tree. -/
def IsIn (n root : SyntaxNode) : Prop :=
  ∃ place, root.nodeAt? place = some n

/-- What stands in a tree is its root or stands in what is right below the root. -/
theorem isIn_iff : n.IsIn m ↔ n = m ∨ ∃ m' ∈ m.directChildren, n.IsIn m' := by
  constructor
  · rintro ⟨_ | ⟨⟨s, i⟩, place⟩, h⟩
    · exact Or.inl (Option.some.inj h).symm
    · obtain ⟨m', hm', hplace⟩ := Option.bind_eq_some_iff.1 h
      exact Or.inr ⟨m', mem_directChildren.2 ⟨s, List.mem_of_getElem? hm'⟩, place, hplace⟩
  · rintro (rfl | ⟨m', hm', place, hplace⟩)
    · exact ⟨[], rfl⟩
    · obtain ⟨s, hs⟩ := mem_directChildren.1 hm'
      obtain ⟨i, hi⟩ := List.mem_iff_getElem?.1 hs
      exact ⟨(s, i) :: place, Option.bind_eq_some_iff.2 ⟨m', hi, hplace⟩⟩

/-- A step of the worklist, from a node to what is right below it, loses nothing but the node. -/
theorem exists_isIn_cons : (∃ m' ∈ m :: ns, n.IsIn m') ↔
    n = m ∨ ∃ m' ∈ m.directChildren ++ ns, n.IsIn m' := by
  simp only [List.exists_mem_cons_iff, List.mem_append, or_and_right, exists_or]
  rw [isIn_iff, or_assoc]

/-- The worklist finds the functions at or below its nodes. -/
theorem mem_functionsFrom : n ∈ functionsFrom ns ↔
    n.info.kind.isFunction = true ∧ ∃ m ∈ ns, n.IsIn m := by
  fun_induction functionsFrom ns with
  | case1 => simp
  | case2 m rest found hm ih =>
    rw [List.mem_cons, ih, exists_isIn_cons, and_or_left]
    refine or_congr_left ⟨?_, And.right⟩
    rintro rfl
    exact ⟨hm, rfl⟩
  | case3 m rest found hm ih =>
    rw [ih, exists_isIn_cons, and_or_left]
    refine (or_iff_right ?_).symm
    rintro ⟨hn, rfl⟩
    exact hm hn

/-- **The worklist finds all functions of a tree** and nothing else. -/
theorem mem_functions : n ∈ m.functions ↔ n.info.kind.isFunction = true ∧ n.IsIn m := by
  rw [functions, mem_functionsFrom, List.exists_mem_cons_iff]
  simp

/-- A tagged node comes from the node `c` of the parse tree `t`. -/
def ComesFrom (source : List UInt8) (t : ParseTree) (n : SyntaxNode) (c : ParseTree) : Prop :=
  ∃ addr parent, t.nodeAt? addr = some c ∧ n = convert source parent c

/-- **All that stands in a converted tree comes from the parse tree.** -/
theorem exists_comesFrom (h : n.IsIn (convert source parent t)) :
    ∃ c, ComesFrom source t n c := by
  obtain ⟨place, h⟩ := h
  induction place generalizing t parent with
  | nil => exact ⟨t, [], parent, rfl, (Option.some.inj h).symm⟩
  | cons e place ih =>
    obtain ⟨way, d, -, hfills, -, hbelow⟩ := exists_source h
    obtain ⟨c, addr, parent', hc, hn⟩ := ih hbelow
    refine ⟨c, way ++ addr, parent', ?_, hn⟩
    rw [ParseTree.nodeAt?_append hfills.nodeAt?, hc]

/-- A container is no function. -/
theorem isFunction_of_isSequence {info : ParseNode} (h : info.isSequence = true)
    (parent : Option String) : (NodeKind.ofType parent info.type).isFunction = false := by
  simp only [ParseNode.isSequence, Bool.or_eq_true, beq_iff_eq] at h
  rcases h with (h | h) | h <;> rw [h] <;> rfl

/-- A function carries the block of its source. -/
theorem text_convert
    (h : (convert source parent c).info.kind.isFunction = true) :
    (convert source parent c).info.text = some (Text.blockText (c.info.sourceText source)) := by
  obtain ⟨info, children⟩ := c
  rw [convert] at h ⊢
  split_ifs at h ⊢ with hseq
  · change (NodeKind.ofType parent info.type).isFunction = true at h
    rw [isFunction_of_isSequence hseq] at h
    cases h
  · exact if_pos h

end SyntaxNode

/-! ## The check -/

namespace Smell.LongFunction

open Text

/-- The block of a source keeps its lines: there are as many, each is the same but for blanks at its
ends, and the block of the block is the block. -/
structure KeepsLines (raw : String) : Prop where
  count : (blockText raw).toList.count '\n' = raw.toList.count '\n'
  lines : (Text.lines (blockText raw)).map (fun l => trim l.toList) =
    (Text.lines raw).map fun l => trim l.toList
  again : blockText (blockText raw) = blockText raw

/-- The check of a tagged tree goes by the source of its functions: it reports of each of them, in
their order, what `occurrence?` gives. Each comes from the parse tree, and of one whose source ends
in ink something is reported where the line feeds of its source less one are more than the
limit. -/
structure GoesBySource (source : List UInt8) (t : ParseTree) (tree : SyntaxNode)
    (config : Config) : Prop where
  reports : check tree config = tree.functions.filterMap (occurrence? config)
  functions : ∀ n, n ∈ tree.functions ↔ n.info.kind.isFunction = true ∧ n.IsIn tree
  origin : ∀ n ∈ tree.functions, ∃ c, SyntaxNode.ComesFrom source t n c
  flags : ∀ n ∈ tree.functions, ∀ c, SyntaxNode.ComesFrom source t n c →
    EndsInInk (c.info.sourceText source).toList → ((occurrence? config n).isSome = true ↔
      config.maxFunctionLines < ((c.info.sourceText source).toList.count '\n' : ℤ) - 1)

theorem keepsLines {raw : String} (h : EndsInInk raw.toList) : KeepsLines raw where
  count := by
    rw [blockText, String.toList_ofList]
    exact count_blockChars h
  lines := by
    have hlines := map_trim_blockChars h
    simpa [Text.lines, split, blockText, Function.comp_def] using hlines
  again := by
    rw [blockText, blockText, String.toList_ofList, blockChars_blockChars h]

theorem isSome_occurrence? {config : Config} {n : SyntaxNode} {line : ℤ} {text : String}
    (hline : n.info.line = some line) (htext : n.info.text = some text) :
    (occurrence? config n).isSome = true ↔ config.maxFunctionLines < bodyLines text := by
  simp only [occurrence?, hline, htext]
  split_ifs with h
  · simp [h]
  · simp [h]

/-- **The block of a source that ends in ink keeps its lines**, and so the check of long functions
goes by the lines of their source. -/
theorem blockText_keepsLines :
    (∀ raw : String, EndsInInk raw.toList → KeepsLines raw) ∧
      ∀ (refuses : ParseTree → Bool) (text : String) (t : ParseTree) (tree : SyntaxNode)
        (config : Config), SyntaxNode.build refuses text t = .ok tree →
          GoesBySource (encodeUtf8 text.toList) t tree config := by
  refine ⟨fun raw h => keepsLines h, fun refuses text t tree config hbuild => ?_⟩
  constructor
  · rfl
  · exact fun n => SyntaxNode.mem_functions
  · intro n hn
    have hin := (SyntaxNode.mem_functions.1 hn).2
    rw [SyntaxNode.eq_convert_of_build hbuild] at hin
    exact SyntaxNode.exists_comesFrom hin
  · rintro n hn c ⟨addr, parent, -, rfl⟩ hink
    have htext := SyntaxNode.text_convert (SyntaxNode.mem_functions.1 hn).1
    rw [isSome_occurrence? (SyntaxNode.line_convert parent c) htext, bodyLines,
      (keepsLines hink).count]

/-- A function over three lines, the second of which loses its margin, under a limit of none. -/
theorem blockText_keepsLines_arrow :
    let text := "x =>\n  f(\n    x)"
    let t : ParseTree :=
      .node ⟨"program", true, none, 0, 16, 0, false, false⟩
        [.node ⟨"arrow_function", true, none, 0, 16, 0, false, false⟩ []]
    let config : Config := { baseDir := .ofString "/", maxFunctionLines := 0 }
    EndsInInk text.toList ∧ KeepsLines text ∧ blockText text = "x =>\nf(\n  x)" ∧
      ∃ tree, SyntaxNode.build (ParseTree.isDeeperThan 300) text t = .ok tree ∧
        (check tree config).map (·.line) = [1] ∧
        GoesBySource (encodeUtf8 text.toList) t tree config := by
  intro text t config
  have hink : EndsInInk text.toList := ⟨')', by decide, by decide⟩
  have hbuild : SyntaxNode.build (ParseTree.isDeeperThan 300) text t =
      .ok (SyntaxNode.ofParseTree (encodeUtf8 text.toList) t) := rfl
  refine ⟨hink, blockText_keepsLines.1 text hink, by decide, _, hbuild, ?_, ?_⟩
  · decide +kernel
  · exact blockText_keepsLines.2 _ text t _ config hbuild

end Smell.LongFunction

end SmellScan
