import SmellScan.Proofs.Text.Braced
import SmellScan.Proofs.Text.Lines
import SmellScan.Proofs.Text.Runs
import SmellScan.Smell.LargeObjects

/-!
# How many properties a literal is said to have

What the check takes for an object literal is a head, which declares a constant and ends in an
opening brace, and the text behind it up to the first closing brace (`literal?_eq_some`). The
literals that it reports are those of the scan with enough properties (`check_eq`).

A flat literal has entries that hold neither commas nor closing braces. Two things make the check
right about one that nothing is declared before:

* its entries are counted, and a comma behind the last one is not (`countProperties_listed`);
* the search finds it first (`exists_findAll_eq_cons`): what is read as a literal begins with the
  word `const`, whose first character stands nowhere else in it, so the word cannot begin before the
  literal and end inside it.

Hence it is reported by the number of its entries, and before all others (`check_flatLiteral`).
-/

namespace SmellScan.Smell.LargeObjects

open Text

/-- The head of a literal, up to its opening brace. -/
inductive IsHead : List Char → Prop where
  | intro {w name w' v : List Char} (hw : IsGap w) (hne : w ≠ []) (hname : IsName name)
      (hw' : IsGap w') (hv : IsGap v) :
      IsHead ("const".toList ++ w ++ name ++ w' ++ '=' :: (v ++ ['\x7b']))

/-- A head of a literal, and an inside that is not empty and goes up to the first closing brace. -/
def IsLiteral (head inside : List Char) : Prop :=
  IsHead head ∧ inside ≠ [] ∧ '\x7d' ∉ inside

variable {cs inside rest : List Char}

/-! ## Reading a literal -/

theorem exists_of_literal? (h : literal? cs = some (inside, rest)) :
    ∃ head, IsLiteral head inside ∧ cs = head ++ inside ++ '\x7d' :: rest := by
  unfold literal? at h
  split at h
  · rename_i c behind hconst
    obtain rfl := stripStart?_eq_some.1 hconst
    split_ifs at h with hc
    obtain ⟨w, hw, hbehind⟩ := exists_gap behind
    have hblanks : IsGap (c :: w) := List.forall_mem_cons.2 ⟨hc, hw⟩
    split at h
    · rename_i d named hnamed
      split_ifs at h with hd
      obtain ⟨name, hname, hsplit⟩ := exists_name hd named
      obtain ⟨w', hw', hgap⟩ := exists_gap (named.dropWhile isWord)
      split at h
      · rename_i bound hbound
        obtain ⟨v, hv, hgap'⟩ := exists_gap bound
        split at h
        · rename_i opened hopened
          split at h
          · rename_i e inner closed hclosed
            obtain ⟨rfl, rfl⟩ := Prod.mk.inj (Option.some.inj h)
            obtain ⟨hinside, rfl⟩ := upTo?_eq_some.1 hclosed
            refine ⟨_, ⟨.intro hblanks (List.cons_ne_nil c w) hname hw' hv,
              List.cons_ne_nil e inner, hinside⟩, ?_⟩
            rw [hbehind, hnamed, hsplit, hgap, hbound, hgap', hopened]
            simp
          · cases h
        · cases h
      · cases h
    · cases h
  · cases h

theorem literal?_append {head : List Char} (h : IsLiteral head inside) (rest : List Char) :
    literal? (head ++ inside ++ '\x7d' :: rest) = some (inside, rest) := by
  obtain ⟨@⟨w, name, w', v, hw, hne, hname, hw', hv⟩, hinside, hclose⟩ := h
  obtain ⟨b, w, rfl⟩ := List.exists_cons_of_ne_nil hne
  obtain ⟨hb, hw⟩ := List.forall_mem_cons.1 hw
  let bound := '=' :: (v ++ '\x7b' :: (inside ++ '\x7d' :: rest))
  have hequals : isWord '=' = false := by decide
  have hread : trimLeft (w ++ (name ++ (w' ++ bound))) = name ++ (w' ++ bound) := by
    rw [IsGap.trimLeft_append hw, hname.trimLeft_append]
  obtain ⟨d, name, rfl, hd, -⟩ := hname.exists_cons
  obtain ⟨-, hname⟩ := List.forall_mem_cons.1 hname.2
  have hbound : trimLeft ((name ++ (w' ++ bound)).dropWhile isWord) = bound := by
    rw [List.dropWhile_append_of_pos hname, (hw'.endsName_append hequals _).dropWhile_eq,
      hw'.trimLeft_append, trimLeft_cons (by decide)]
  have hopened : trimLeft (v ++ '\x7b' :: (inside ++ '\x7d' :: rest)) =
      '\x7b' :: (inside ++ '\x7d' :: rest) := by
    rw [hv.trimLeft_append, trimLeft_cons (by decide)]
  have htext : "const".toList ++ b :: w ++ d :: name ++ w' ++ '=' :: (v ++ ['\x7b']) ++ inside ++
      '\x7d' :: rest = "const".toList ++ b :: (w ++ (d :: name ++ (w' ++ bound))) := by
    simp [bound]
  rw [htext, literal?, stripStart?_eq_some.2 rfl]
  simp only [hb, if_true]
  rw [hread]
  simp only [List.cons_append, hd, if_true]
  rw [hbound]
  simp only [bound]
  rw [hopened]
  simp only
  rw [upTo?_eq_some.2 ⟨hclose, rfl⟩]
  obtain ⟨e, inside, rfl⟩ := List.exists_cons_of_ne_nil hinside
  rfl

/-- **The reader of literals reads a head, and an inside up to the first closing brace.** -/
theorem literal?_eq_some : literal? cs = some (inside, rest) ↔
    ∃ head, IsLiteral head inside ∧ cs = head ++ inside ++ '\x7d' :: rest := by
  constructor
  · exact exists_of_literal?
  · rintro ⟨head, hliteral, rfl⟩
    exact literal?_append hliteral rest

theorem readsBraced_literal? : ReadsBraced literal? IsLiteral :=
  fun _ _ _ => literal?_eq_some

/-! ## What is reported -/

/-- What is said of a literal with too many properties. -/
def describe (properties : ℕ) : String :=
  s!"Object has too many properties ({properties} properties). Consider " ++
    "breaking it into smaller objects to reduce complexity and potential security risks."

/-- What is reported of a literal, given by its offset and its inside. -/
def occurrence (cs : List Char) (literal : ℕ × List Char) : Occurrence where
  line := lineOf cs literal.1
  description := describe (countProperties literal.2)

/-- The literals of a text that are reported, with their offsets. -/
def large (config : Config) (cs : List Char) : List (ℕ × List Char) :=
  (findAll literal? cs).filter fun e => config.largeObjectProperties ≤ countProperties e.2

/-- **The check reports the literals of the scan with enough properties.** -/
theorem check_eq (unit : SourceUnit) (config : Config) :
    check unit config = (large config unit.text.toList).map (occurrence unit.text.toList) := by
  rw [check, large, ← List.filterMap_eq_filter, List.map_filterMap]
  refine List.filterMap_congr fun e _ => ?_
  by_cases he : config.largeObjectProperties ≤ countProperties e.2
  · simp only [he, if_true, Option.guard, decide_true, Option.map_some]
    rfl
  · simp only [he, if_false, Option.guard, decide_false, Bool.false_eq_true, Option.map_none]

/-! ## Counting properties -/

/-- Text that can stand between the commas of a literal as one entry. -/
def IsEntry (text : List Char) : Prop :=
  ¬IsGap text ∧ ',' ∉ text ∧ '\x7d' ∉ text

instance (text : List Char) : Decidable (IsEntry text) :=
  inferInstanceAs (Decidable (¬_ ∧ _ ∧ _))

/-- What can stand behind the last entry: nothing, or a comma and a gap. A gap before the comma, or
without one, is part of the last entry. -/
def IsTrailing (text : List Char) : Prop :=
  text = [] ∨ ∃ w, IsGap w ∧ text = ',' :: w

/-- The entries of a literal as they are written. -/
def listed (entries : List (List Char)) (trailing : List Char) : List Char :=
  joinWith [','] entries ++ trailing

theorem allBlank_iff {text : List Char} : allBlank text = true ↔ IsGap text :=
  List.all_eq_true

theorem countProperties_of_not_mem {text : List Char} (h : ',' ∉ text) :
    countProperties text = if IsGap text then 0 else 1 := by
  rw [countProperties, splitOn_of_not_mem h, List.countP_singleton]
  by_cases hgap : IsGap text
  · simp [hgap, allBlank_iff.2 hgap]
  · simp [hgap, mt allBlank_iff.1 hgap]

/-- A comma behind an entry adds the properties behind it to the one before it. -/
theorem IsEntry.countProperties_append {entry : List Char} (h : IsEntry entry)
    (text : List Char) :
    countProperties (entry ++ ',' :: text) = countProperties text + 1 := by
  have hink : (!allBlank entry) = true := by
    rw [Bool.not_eq_true', ← Bool.not_eq_true, allBlank_iff]
    exact h.1
  rw [countProperties, splitOn_append_cons h.2.1, List.countP_cons, if_pos hink]
  rfl

/-- **Every entry counts, and a comma behind the last one does not.** -/
theorem countProperties_listed {entries : List (List Char)} {trailing : List Char}
    (hne : entries ≠ []) (hentries : ∀ e ∈ entries, IsEntry e) (htrailing : IsTrailing trailing) :
    countProperties (listed entries trailing) = entries.length := by
  unfold listed
  fun_induction joinWith [','] entries with
  | case1 => exact absurd rfl hne
  | case2 entry =>
    have hentry := hentries entry List.mem_cons_self
    rcases htrailing with rfl | ⟨w, hw, rfl⟩
    · rw [List.append_nil, countProperties_of_not_mem hentry.2.1, if_neg hentry.1]
      rfl
    · rw [hentry.countProperties_append, countProperties_of_not_mem (hw.not_mem (by decide)),
        if_pos hw]
      rfl
  | case3 entry entries hentries' ih =>
    obtain ⟨hentry, hrest⟩ := List.forall_mem_cons.1 hentries
    rw [List.append_assoc, List.append_assoc, List.singleton_append, hentry.countProperties_append,
      ih hentries' hrest, List.length_cons]

/-! ## The first declaration of a text -/

/-- Before the word `const` no literal begins where this word does not stand. -/
theorem literal?_eq_none {later : List Char} (hne : later ≠ [])
    (hword : ¬"const".toList <+: later) (rest : List Char) :
    literal? (later ++ ("const".toList ++ rest)) = none := by
  have hstrip : stripStart? "const".toList (later ++ ("const".toList ++ rest)) = none :=
    stripStart?_append_head (by decide) hne hword _
  rw [literal?, hstrip]

/-- **The first literal of a text is found first**, and all others begin behind it. -/
theorem exists_findAll_eq_cons {pre head : List Char} (hpre : ¬"const".toList <:+: pre)
    (h : IsLiteral head inside) (rest : List Char) :
    ∃ later, findAll literal? (pre ++ (head ++ inside ++ '\x7d' :: rest)) =
      (pre.length, inside) :: later ∧ ∀ e ∈ later, pre.length < e.1 := by
  have hnone : ∀ later, later ≠ [] → later <:+ pre →
      literal? (later ++ (head ++ inside ++ '\x7d' :: rest)) = none := by
    intro later hne hlater
    obtain ⟨⟨hw, -, hname, hw', hv⟩, -⟩ := h
    simp only [List.append_assoc]
    refine literal?_eq_none hne (fun hword => hpre ?_) _
    exact hword.isInfix.trans hlater.isInfix
  have hfound := findAllFrom_append hnone 0
  rw [findAllFrom_of_eq_some readsBraced_literal?.eats (literal?_append h rest), Nat.zero_add]
    at hfound
  have hscan := readsBraced_literal?.isScan (pre ++ (head ++ inside ++ '\x7d' :: rest))
  have hapart := hscan.pairwise_lt fun _ _ _ hspan => hspan.lt
  rw [findAll, hfound] at hapart
  exact ⟨_, hfound, (List.pairwise_cons.1 hapart).1⟩

/-- The first literal of a text is reported by its own properties, and before all others. -/
theorem exists_large_eq (config : Config) {pre head : List Char}
    (hpre : ¬"const".toList <:+: pre) (h : IsLiteral head inside) (rest : List Char) :
    ∃ others, large config (pre ++ (head ++ inside ++ '\x7d' :: rest)) =
        (if config.largeObjectProperties ≤ countProperties inside then [(pre.length, inside)]
          else []) ++ others ∧
      ∀ e ∈ others, pre.length < e.1 := by
  obtain ⟨later, hfound, hlater⟩ := exists_findAll_eq_cons hpre h rest
  refine ⟨later.filter fun e => config.largeObjectProperties ≤ countProperties e.2, ?_,
    fun e he => hlater e (List.mem_of_mem_filter he)⟩
  rw [large, hfound, List.filter_cons]
  simp only [decide_eq_true_eq]
  split_ifs <;> rfl

/-- A constant that is declared with a literal, as it is written. -/
def flatLiteral (name : List Char) (entries : List (List Char)) (trailing : List Char) :
    List Char :=
  "const ".toList ++ name ++ " = \x7b".toList ++ listed entries trailing ++ ['\x7d']

/-- A flat literal is read up to its own closing brace. -/
theorem isLiteral_listed {name : List Char} {entries : List (List Char)} {trailing : List Char}
    (hname : IsName name) (hne : entries ≠ []) (hentries : ∀ e ∈ entries, IsEntry e)
    (htrailing : IsTrailing trailing) :
    IsLiteral ("const ".toList ++ name ++ " = \x7b".toList) (listed entries trailing) := by
  have hspace : IsGap [' '] := by decide
  have hhead := IsHead.intro hspace (List.cons_ne_nil ' ' []) hname hspace hspace
  refine ⟨by simpa using hhead, fun hnil => hne ?_, ?_⟩
  · have hcount := countProperties_listed hne hentries htrailing
    rw [hnil] at hcount
    exact List.length_eq_zero_iff.1 hcount.symm
  · have hjoin : '\x7d' ∉ joinWith [','] entries :=
      not_mem_joinWith (by decide) fun e he => (hentries e he).2.2
    rcases htrailing with rfl | ⟨w, hw, rfl⟩
    · simpa [listed] using hjoin
    · simp [listed, hjoin, hw.not_mem (show isBlank '\x7d' = false by decide)]

/-- **A flat literal that nothing is declared before is reported by the number of its entries**, at
the line on which it begins and before all others. -/
theorem check_flatLiteral (unit : SourceUnit) (config : Config)
    {pre name trailing post : List Char} {entries : List (List Char)}
    (htext : unit.text.toList = pre ++ flatLiteral name entries trailing ++ post)
    (hpre : ¬"const".toList <:+: pre) (hname : IsName name) (hne : entries ≠ [])
    (hentries : ∀ e ∈ entries, IsEntry e) (htrailing : IsTrailing trailing) :
    check unit config = (large config unit.text.toList).map (occurrence unit.text.toList) ∧
      (pre.length ∈ (large config unit.text.toList).map Prod.fst ↔
        config.largeObjectProperties ≤ entries.length) ∧
      (config.largeObjectProperties ≤ entries.length →
        ∃ later, large config unit.text.toList =
            (pre.length, listed entries trailing) :: later ∧
          check unit config = ⟨pre.count '\n' + 1, describe entries.length, none⟩ ::
            later.map (occurrence unit.text.toList)) := by
  have hcount := countProperties_listed hne hentries htrailing
  have hcs : unit.text.toList = pre ++ ("const ".toList ++ name ++ " = \x7b".toList ++
      listed entries trailing ++ '\x7d' :: post) := by
    rw [htext]
    change pre ++ ("const ".toList ++ name ++ " = \x7b".toList ++ listed entries trailing ++
      ['\x7d']) ++ post = _
    simp only [List.append_assoc, List.singleton_append]
  obtain ⟨others, hlarge, hbehind⟩ := exists_large_eq config hpre
    (isLiteral_listed hname hne hentries htrailing) post
  rw [← hcs, hcount] at hlarge
  have hothers : pre.length ∉ others.map Prod.fst := by
    intro hmem
    obtain ⟨e, he, hoffset⟩ := List.mem_map.1 hmem
    have hlt := hbehind e he
    omega
  refine ⟨check_eq unit config, ?_, fun hmany => ⟨others, ?_, ?_⟩⟩
  · rw [hlarge]
    split_ifs with hmany
    · simp [hmany]
    · simpa [hmany] using hothers
  · rw [hlarge, if_pos hmany, List.singleton_append]
  · have hline : lineOf unit.text.toList pre.length = pre.count '\n' + 1 := by
      rw [lineOf, hcs, List.take_left]
    rw [check_eq, hlarge, if_pos hmany, List.singleton_append, List.map_cons, occurrence, hline,
      hcount]
    rfl

/-- Entries over several lines, one of which looks like a declaration, and a comma behind the
last. -/
theorem check_flatLiteral_lines :
    let text := "cons;\n\nconst box = \x7b\n  a: 1,\n  b: const c = \x7b 2,\n  d,\n\x7d; f(\x7d"
    let unit : SourceUnit := ⟨"a.js", text, .javascript, none, none⟩
    let config : Config := { baseDir := .here, largeObjectProperties := 3 }
    config.largeObjectProperties ≤ 3 ∧
      ∃ later, check unit config = ⟨3, describe 3, none⟩ :: later := by
  intro text unit config
  have htext : unit.text.toList = "cons;\n\n".toList ++ flatLiteral "box".toList
      ["\n  a: 1".toList, "\n  b: const c = \x7b 2".toList, "\n  d".toList] ",\n".toList ++
        "; f(\x7d".toList := by
    decide
  have hpre : ¬"const".toList <:+: "cons;\n\n".toList :=
    fun h => absurd (h.subset (show 't' ∈ "const".toList by decide)) (by decide)
  have htrailing : IsTrailing ",\n".toList := Or.inr ⟨['\n'], by decide, rfl⟩
  have h := check_flatLiteral unit config htext hpre (by decide) (by decide) (by decide) htrailing
  obtain ⟨later, -, hcheck⟩ := h.2.2 (by decide)
  exact ⟨by decide, _, hcheck⟩

end SmellScan.Smell.LargeObjects
