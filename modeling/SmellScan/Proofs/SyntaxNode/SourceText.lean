import SmellScan.Proofs.Smell.BodyLines
import SmellScan.Proofs.Text.Utf8

/-!
# Names and texts as they stand in the source

The parser counts in bytes, everything else in characters. The bytes of a text fall into those
before a position, those between it and a later one, and the rest. A node whose byte positions are
those of two characters cuts out the bytes of what stands between them (`slice_encodeUtf8`), and
these are read as they were written. So a tagged node has the name that stands in the source, and a
function the block of what stands there (`sourceText_between`).
-/

namespace SmellScan

namespace Text

/-- The number of bytes before the character at a position. -/
def byteOffset (cs : List Char) (i : ℕ) : ℕ :=
  ((cs.take i).map Char.utf8Size).sum

/-- What stands in a text from the character at `i` up to the one at `j`. -/
def between (s : String) (i j : ℕ) : String :=
  String.ofList ((s.toList.take j).drop i)

theorem encodeUtf8_append (cs ds : List Char) :
    encodeUtf8 (cs ++ ds) = encodeUtf8 cs ++ encodeUtf8 ds :=
  List.flatMap_append

theorem length_encodeUtf8 (cs : List Char) :
    (encodeUtf8 cs).length = (cs.map Char.utf8Size).sum := by
  rw [encodeUtf8, List.length_flatMap]
  simp only [String.length_utf8EncodeChar]

/-- A slice between two places that lie within a list. -/
theorem slice_append {α : Type} (as bs cs : List α) :
    slice (as ++ (bs ++ cs)) as.length (as.length + bs.length) = bs := by
  have hplace : ∀ n ≤ (as ++ (bs ++ cs)).length,
      (if (n : ℤ) < 0 then max (n + ((as ++ (bs ++ cs)).length : ℤ)) 0
        else min (n : ℤ) (as ++ (bs ++ cs)).length).toNat = n := by
    intro n hn
    rw [if_neg (by omega)]
    omega
  have hsum : ((as.length : ℤ) + bs.length) = ((as.length + bs.length : ℕ) : ℤ) := by omega
  rw [slice, hsum]
  simp only [hplace _ (by simp : as.length ≤ _), hplace _ (by simp : as.length + bs.length ≤ _)]
  rw [← List.append_assoc, ← List.length_append, List.take_left, List.drop_left]

/-- **The bytes between two characters** are those of the characters between them. -/
theorem slice_encodeUtf8 (cs : List Char) {i j : ℕ} (h : i ≤ j) :
    slice (encodeUtf8 cs) (byteOffset cs i) (byteOffset cs j) =
      encodeUtf8 ((cs.take j).drop i) := by
  have htake : cs.take j = cs.take i ++ (cs.take j).drop i := by
    conv_lhs => rw [← List.take_append_drop i (cs.take j), List.take_take, Nat.min_eq_left h]
  have hparts : encodeUtf8 cs = encodeUtf8 (cs.take i) ++
      (encodeUtf8 ((cs.take j).drop i) ++ encodeUtf8 (cs.drop j)) := by
    rw [← encodeUtf8_append, ← encodeUtf8_append, ← List.append_assoc, ← htake,
      List.take_append_drop]
  have hstop : byteOffset cs j =
      (encodeUtf8 (cs.take i)).length + (encodeUtf8 ((cs.take j).drop i)).length := by
    rw [← List.length_append, ← encodeUtf8_append, ← htake, length_encodeUtf8, byteOffset]
  have hstart : byteOffset cs i = (encodeUtf8 (cs.take i)).length := (length_encodeUtf8 _).symm
  rw [hparts, hstop, hstart, Nat.cast_add]
  exact slice_append _ _ _

/-- A piece between separators holds no character that the text does not hold. -/
theorem mem_of_mem_splitOn {sep c : Char} {cs piece : List Char} (hpiece : piece ∈ splitOn sep cs)
    (hc : c ∈ piece) : c ∈ cs := by
  rw [← joinWith_splitOn sep cs]
  generalize splitOn sep cs = pieces at hpiece
  fun_induction joinWith [sep] pieces with
  | case1 => cases hpiece
  | case2 first => rwa [← List.mem_singleton.1 hpiece]
  | case3 first pieces hne ih =>
    rcases List.mem_cons.1 hpiece with rfl | hpiece
    · exact List.mem_append_left _ (List.mem_append_left _ hc)
    · exact List.mem_append_right _ (ih hpiece)

/-- The block of a text holds nothing that the text does not hold, line feeds apart. -/
theorem mem_of_mem_blockChars {c : Char} (hc : c ≠ '\n') {raw : List Char}
    (h : c ∈ blockChars raw) : c ∈ raw := by
  by_contra hraw
  have hlines : ∀ line ∈ splitOn '\n' raw, c ∉ line :=
    fun line hline hmem => hraw (mem_of_mem_splitOn hline hmem)
  rw [blockChars_eq] at h
  generalize splitOn '\n' raw = ls at h hlines
  fun_cases blockOfLines ls with
  | case1 => cases h
  | case2 first =>
    exact hlines first List.mem_cons_self ((trimRight_isPrefix first).subset h)
  | case3 first ls hne =>
    obtain ⟨hfirst, hrest⟩ := List.forall_mem_cons.1 hlines
    rw [blockOfLines_cons first hne, List.mem_append, List.mem_cons] at h
    rcases h with h | h | h
    · exact hfirst ((trimRight_isPrefix first).subset h)
    · exact hc h
    · exact not_mem_joinWith (by simpa using hc) (not_mem_dedentLines hrest)
        ((trimRight_isPrefix _).subset h)

end Text

namespace ParseNode

/-- The byte positions of a node are those of the characters at `i` and `j`. -/
structure Spans (text : String) (info : ParseNode) (i j : ℕ) : Prop where
  le : i ≤ j
  start : info.start = Text.byteOffset text.toList i
  stop : info.stop = Text.byteOffset text.toList j

/-- **The source of a node** is what stands between the characters at its positions. -/
theorem Spans.sourceText_eq {text : String} {info : ParseNode} {i j : ℕ}
    (h : info.Spans text i j) :
    info.sourceText (Text.encodeUtf8 text.toList) = Text.between text i j := by
  rw [sourceText, h.start, h.stop, Text.slice_encodeUtf8 _ h.le, Text.decodeUtf8_encodeUtf8]
  rfl

end ParseNode

/-- The child that gives a node its name, the first in the field `name`. -/
def ParseTree.nameChild? (c : ParseTree) : Option ParseTree :=
  c.children.find? (·.info.field == some "name")

namespace SyntaxNode

open Text

/-- What a tagged node `n` that comes from `c` carries of the source. -/
structure CarriesSource (text : String) (c : ParseTree) (n : SyntaxNode) : Prop where
  /-- A node has a name if it is no container and one of its children is in the field `name`. -/
  isSome_name : n.info.name.isSome = true ↔
    c.info.isSequence = false ∧ c.nameChild?.isSome = true
  /-- The name stands in the source where that child stands. -/
  name : ∀ s m i j, n.info.name = some s → c.nameChild? = some m → m.info.Spans text i j →
    s = between text i j
  /-- Functions have a text, and only they. -/
  isSome_text : n.info.text.isSome = true ↔ n.info.kind.isFunction = true
  /-- The text is the block of what stands in the source where the node stands, and has a
  replacement character only where there is one in the source. -/
  text : ∀ s i j, n.info.text = some s → c.info.Spans text i j →
    s = blockText (between text i j) ∧
      (replacement ∈ s.toList → replacement ∈ (between text i j).toList)

theorem name_convert (source : List UInt8) (parent : Option String) (c : ParseTree) :
    (convert source parent c).info.name =
      if c.info.isSequence then none else c.nameChild?.map (·.info.sourceText source) := by
  obtain ⟨info, children⟩ := c
  rw [convert, ParseTree.info_node]
  split_ifs <;> rfl

theorem text_convert_eq_none {source : List UInt8} {parent : Option String} {c : ParseTree}
    (h : ¬(convert source parent c).info.kind.isFunction = true) :
    (convert source parent c).info.text = none := by
  obtain ⟨info, children⟩ := c
  rw [convert] at h ⊢
  split_ifs at h ⊢
  · rfl
  · exact if_neg h

theorem isSome_text_convert {source : List UInt8} {parent : Option String} {c : ParseTree} :
    (convert source parent c).info.text.isSome = true ↔
      (convert source parent c).info.kind.isFunction = true := by
  by_cases h : (convert source parent c).info.kind.isFunction = true
  · rw [text_convert h]
    simp [h]
  · rw [text_convert_eq_none h]
    simp [h]

/-- A tagged node carries the source of the node that it comes from. -/
theorem carriesSource_convert (text : String) (parent : Option String) (c : ParseTree) :
    CarriesSource text c (convert (encodeUtf8 text.toList) parent c) where
  isSome_name := by
    rw [name_convert]
    cases hseq : c.info.isSequence <;> simp
  name := by
    intro s m i j hs hm hspans
    rw [name_convert] at hs
    split_ifs at hs
    rw [hm, Option.map_some, hspans.sourceText_eq] at hs
    exact (Option.some.inj hs).symm
  isSome_text := isSome_text_convert
  text := by
    intro s i j hs hspans
    have hkind := isSome_text_convert.1 (Option.isSome_iff_exists.2 ⟨s, hs⟩)
    rw [text_convert hkind, hspans.sourceText_eq] at hs
    obtain rfl := (Option.some.inj hs).symm
    refine ⟨rfl, fun h => mem_of_mem_blockChars (by decide) ?_⟩
    rwa [blockText, String.toList_ofList] at h

/-- **Names and texts are those of the source.** A node whose byte positions are those of two
characters is cut out of the source as what stands between these characters. So in a tagged tree the
name of a node is what stands where its name stands in the source, and the text of a function is the
block of what stands there, and no replacement character comes in. -/
theorem sourceText_between (text : String) :
    (∀ (info : ParseNode) (i j : ℕ), info.Spans text i j →
      info.sourceText (encodeUtf8 text.toList) = between text i j) ∧
    ∀ (refuses : ParseTree → Bool) (t : ParseTree) (tree : SyntaxNode),
      build refuses text t = .ok tree → ∀ n, n.IsIn tree →
      (∃ c, ComesFrom (encodeUtf8 text.toList) t n c) ∧
        ∀ c, ComesFrom (encodeUtf8 text.toList) t n c → CarriesSource text c n := by
  refine ⟨fun info i j h => h.sourceText_eq, fun refuses t tree hbuild n hn => ⟨?_, ?_⟩⟩
  · rw [eq_convert_of_build hbuild] at hn
    exact exists_comesFrom hn
  · rintro c ⟨addr, parent, -, rfl⟩
    exact carriesSource_convert text parent c

/-- A function with characters of one, two, three and four bytes. -/
theorem sourceText_between_wide :
    let text := "function é€()\x7b'😀'\x7d"
    let name : ParseNode := ⟨"identifier", true, some "name", 9, 14, 0, false, false⟩
    let function : ParseNode := ⟨"function_declaration", true, none, 0, 24, 0, false, false⟩
    let t : ParseTree :=
      .node ⟨"program", true, none, 0, 24, 0, false, false⟩ [.node function [.node name []]]
    name.Spans text 9 11 ∧ function.Spans text 0 18 ∧
      name.sourceText (encodeUtf8 text.toList) = "é€" ∧
      ∃ tree n, build (ParseTree.isDeeperThan 300) text t = .ok tree ∧
        tree.nodeAt? [(.body, 0)] = some n ∧
        CarriesSource text (.node function [.node name []]) n ∧
        n.info.name = some "é€" ∧ n.info.text = some text := by
  intro text name function t
  have hname : name.Spans text 9 11 := ⟨by decide, by decide, by decide⟩
  have hfunction : function.Spans text 0 18 := ⟨by decide, by decide, by decide⟩
  obtain ⟨hslice, htree⟩ := sourceText_between text
  let n := convert (encodeUtf8 text.toList) (some "program") (.node function [.node name []])
  have hbuild : build (ParseTree.isDeeperThan 300) text t =
      .ok (ofParseTree (encodeUtf8 text.toList) t) := rfl
  have hcarries : CarriesSource text (.node function [.node name []]) n :=
    (htree _ t _ hbuild n ⟨[(.body, 0)], rfl⟩).2 _ ⟨[0], some "program", rfl, rfl⟩
  obtain ⟨s, hs⟩ := Option.isSome_iff_exists.1 (hcarries.isSome_name.2 ⟨rfl, rfl⟩)
  obtain ⟨b, hb⟩ := Option.isSome_iff_exists.1 (hcarries.isSome_text.2 rfl)
  refine ⟨hname, hfunction, ?_, _, n, hbuild, rfl, hcarries, ?_, ?_⟩
  · rw [hslice name 9 11 hname]
    decide
  · rw [hs, hcarries.name s (.node name []) 9 11 hs rfl hname]
    decide
  · rw [hb, (hcarries.text b 0 18 hb hfunction).1]
    decide

end SyntaxNode

end SmellScan
