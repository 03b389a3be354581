import SmellScan.Proofs.Text.Braced
import SmellScan.Proofs.Text.Runs
import SmellScan.Smell.MissingDefault

/-!
# Switches and their default labels

What the check takes for a switch is a head, which ends in an opening brace, and the text behind it
up to the first closing brace, wherever that one belongs (`statement?_eq_some`). The switches that
it reports are those of the scan without a default label in that text (`check_eq`).

So a switch with a default label is not reported where its first inner block comes after the label,
and it is reported where an inner block that is closed before the label has hidden it, unless
another label stands in front of the first closing brace (`check_switch`).
-/

namespace SmellScan.Smell.MissingDefault

open Text

/-- The head of a switch, up to its opening brace. -/
inductive IsHead : List Char → Prop where
  | intro {w subject w' : List Char} (hw : IsGap w) (hne : subject ≠ []) (hsubject : ')' ∉ subject)
      (hw' : IsGap w') :
      IsHead ("switch".toList ++ w ++ '(' :: (subject ++ ')' :: (w' ++ ['\x7b'])))

/-- A head of a switch, and a body that goes up to the first closing brace. -/
def IsStatement (head body : List Char) : Prop :=
  IsHead head ∧ '\x7d' ∉ body

/-- The text does not end in a word. -/
def EndsApart (text : List Char) : Prop :=
  ∀ c, text.getLast? = some c → isWord c = false

/-- A default label stands in the text. -/
def HasLabel (text : List Char) : Prop :=
  ∃ pre w post, text = pre ++ ("default".toList ++ w ++ ':' :: post) ∧ EndsApart pre ∧ IsGap w

variable {cs body rest : List Char}

/-! ## Reading a switch -/

/-- **The reader of switches reads a head, and a body up to the first closing brace.** -/
theorem statement?_eq_some : statement? cs = some (body, rest) ↔
    ∃ head, IsStatement head body ∧ cs = head ++ body ++ '\x7d' :: rest := by
  constructor
  · intro h
    unfold statement? at h
    split at h
    · cases h
    · rename_i behind hswitch
      obtain rfl := stripStart?_eq_some.1 hswitch
      obtain ⟨w, hw, hbehind⟩ := exists_gap behind
      split at h
      · rename_i opened hopened
        split at h
        · rename_i c subject closed hclosed
          obtain ⟨hsubject, rfl⟩ := upTo?_eq_some.1 hclosed
          obtain ⟨w', hw', hgap⟩ := exists_gap closed
          split at h
          · rename_i inside hinside
            obtain ⟨hbody, rfl⟩ := upTo?_eq_some.1 h
            refine ⟨_, ⟨.intro hw (List.cons_ne_nil c subject) hsubject hw', hbody⟩, ?_⟩
            rw [hbehind, hopened, hgap, hinside]
            simp
          · cases h
        · cases h
      · cases h
  · rintro ⟨head, ⟨@⟨w, subject, w', hw, hne, hsubject, hw'⟩, hbody⟩, rfl⟩
    simp only [List.append_assoc, List.cons_append, List.nil_append]
    rw [statement?, stripStart?_eq_some.2 rfl]
    simp only
    rw [hw.trimLeft_append, trimLeft_cons (by decide)]
    simp only
    rw [upTo?_eq_some.2 ⟨hsubject, rfl⟩]
    obtain ⟨c, subject, rfl⟩ := List.exists_cons_of_ne_nil hne
    simp only
    rw [hw'.trimLeft_append, trimLeft_cons (by decide)]
    exact upTo?_eq_some.2 ⟨hbody, rfl⟩

theorem readsBraced_statement? : ReadsBraced statement? IsStatement :=
  fun _ _ _ => statement?_eq_some

/-! ## Reading a label -/

theorem startsDefault_iff : startsDefault cs = true ↔
    ∃ w post, cs = "default".toList ++ w ++ ':' :: post ∧ IsGap w := by
  have hcolon : isBlank ':' = false := by decide
  rw [startsDefault]
  constructor
  · intro h
    split at h
    · rename_i behind hword
      obtain rfl := stripStart?_eq_some.1 hword
      obtain ⟨w, hw, hbehind⟩ := exists_gap behind
      obtain ⟨post, hpost⟩ := List.head?_eq_some_iff.1 (beq_iff_eq.1 h)
      refine ⟨w, post, ?_, hw⟩
      rw [List.append_assoc, ← hpost, ← hbehind]
    · cases h
  · rintro ⟨w, post, rfl, hw⟩
    rw [List.append_assoc, stripStart?_eq_some.2 rfl]
    simp only
    rw [hw.trimLeft_append, trimLeft_cons hcolon]
    rfl

/-- The text, behind a word character or not, does not end in a word. -/
def EndsApartFrom (afterWord : Bool) (text : List Char) : Prop :=
  (text.getLast?.map isWord).getD afterWord = false

theorem endsApartFrom_cons (afterWord : Bool) (c : Char) (text : List Char) :
    EndsApartFrom afterWord (c :: text) ↔ EndsApartFrom (isWord c) text := by
  rw [EndsApartFrom, EndsApartFrom, List.getLast?_cons, Option.map_some, Option.getD_some]
  cases text.getLast? <;> rfl

theorem hasDefaultFrom_iff {afterWord : Bool} : hasDefaultFrom afterWord cs = true ↔
    ∃ pre w post, cs = pre ++ ("default".toList ++ w ++ ':' :: post) ∧
      EndsApartFrom afterWord pre ∧ IsGap w := by
  induction cs generalizing afterWord with
  | nil => simp [hasDefaultFrom]
  | cons c cs ih =>
    rw [hasDefaultFrom, Bool.or_eq_true, Bool.and_eq_true, Bool.not_eq_true', startsDefault_iff, ih]
    constructor
    · rintro (⟨hafter, w, post, hlabel, hw⟩ | ⟨pre, w, post, rfl, hpre, hw⟩)
      · exact ⟨[], w, post, hlabel, hafter, hw⟩
      · exact ⟨c :: pre, w, post, rfl, (endsApartFrom_cons ..).2 hpre, hw⟩
    · rintro ⟨pre, w, post, hsplit, hpre, hw⟩
      cases pre with
      | nil => exact Or.inl ⟨hpre, w, post, hsplit, hw⟩
      | cons d pre =>
        obtain ⟨rfl, rfl⟩ := List.cons.inj hsplit
        exact Or.inr ⟨pre, w, post, rfl, (endsApartFrom_cons ..).1 hpre, hw⟩

theorem hasDefault_iff : hasDefault body = true ↔ HasLabel body := by
  have hapart : ∀ pre, EndsApartFrom false pre ↔ EndsApart pre := by
    intro pre
    rw [EndsApartFrom, EndsApart]
    cases pre.getLast? <;> simp
  simp only [hasDefault, hasDefaultFrom_iff, HasLabel, hapart]

instance : DecidablePred HasLabel :=
  fun body => decidable_of_iff (hasDefault body = true) hasDefault_iff

/-! ## What is reported -/

/-- What is reported of a switch, given by its offset and its body. -/
def occurrence (cs : List Char) (switch : ℕ × List Char) : Occurrence where
  line := lineOf cs switch.1
  description := "Missing default case in the switch statement. Consider adding a default " ++
    "case to handle unexpected input."

/-- The switches of a text that are reported, with their offsets. -/
def unlabelled (cs : List Char) : List (ℕ × List Char) :=
  (findAll statement? cs).filter fun e => ¬HasLabel e.2

/-- **The check reports the switches of the scan without a label.** -/
theorem check_eq (unit : SourceUnit) (config : Config) :
    check unit config = (unlabelled unit.text.toList).map (occurrence unit.text.toList) := by
  rw [check, unlabelled, ← List.filterMap_eq_filter, List.map_filterMap]
  refine List.filterMap_congr fun e _ => ?_
  by_cases he : HasLabel e.2
  · simp [hasDefault_iff.2 he, he, Option.guard]
  · simp [hasDefault_iff.not.2 he, he, Option.guard, occurrence]

/-- A switch that is read before the offset goes beyond it. -/
def Hidden (cs : List Char) (offset : ℕ) : Prop :=
  ∃ e ∈ findAll statement? cs, e.1 < offset ∧
    ∃ stop, Braced IsStatement cs e.1 e.2 stop ∧ offset < stop

/-- A switch is reported unless it is hidden by another one or has a label in its body. -/
theorem mem_unlabelled_iff {start stop : ℕ} (h : Braced IsStatement cs start body stop) :
    start ∈ (unlabelled cs).map Prod.fst ↔ ¬Hidden cs start ∧ ¬HasLabel body := by
  have hscan := readsBraced_statement?.isScan cs
  have hread : (start, body) ∈ findAll statement? cs ↔ ¬Hidden cs start :=
    hscan.mem_iff (fun _ _ _ hspan => hspan.lt) (Nat.zero_le start) h
  rw [← hread]
  simp only [unlabelled, List.mem_map, List.mem_filter, decide_eq_true_eq]
  constructor
  · rintro ⟨e, ⟨he, hlabel⟩, rfl⟩
    obtain ⟨-, stop', hspan⟩ := hscan.sound e he
    obtain rfl := readsBraced_statement?.unique hspan h
    exact ⟨he, hlabel⟩
  · rintro ⟨hmem, hlabel⟩
    exact ⟨(start, body), ⟨hmem, hlabel⟩, rfl⟩

/-! ## Switches with a default label -/

/-- The braces of the text close each other and the `depth` ones that are open before it. -/
def closesFrom (depth : ℕ) : List Char → Bool
  | [] => depth == 0
  | c :: cs =>
    if c = '\x7b' then closesFrom (depth + 1) cs
    else if c = '\x7d' then depth != 0 && closesFrom (depth - 1) cs
    else closesFrom depth cs

/-- Every brace of the text has its counterpart in it. -/
def Balanced (text : List Char) : Prop :=
  closesFrom 0 text = true

instance (text : List Char) : Decidable (Balanced text) :=
  inferInstanceAs (Decidable (closesFrom 0 text = true))

/-- Behind the text `pre`, and outside all inner braces, the body has a default label. -/
structure OuterLabel (body pre : List Char) : Prop where
  label : ∃ post, body = pre ++ ("default".toList ++ ':' :: post)
  apart : EndsApart pre
  outside : Balanced pre

/-- A body with a default label outside all inner braces, and without the texts in which a brace is
no brace. -/
structure IsLabelledBody (body : List Char) : Prop where
  balanced : Balanced body
  noQuote : '\x27' ∉ body ∧ '"' ∉ body ∧ '\x60' ∉ body
  noLineComment : ¬['/', '/'] <:+: body
  noBlockComment : ¬['/', '*'] <:+: body
  labelled : ∃ pre, OuterLabel body pre

/-- A switch with the given subject and body. -/
def switchText (subject body : List Char) : List Char :=
  "switch".toList ++ ' ' :: '(' :: (subject ++ ')' :: ' ' :: '\x7b' :: (body ++ ['\x7d']))

/-- The text up to its first closing brace. -/
def upToBrace (text : List Char) : List Char :=
  text.takeWhile (· ≠ '\x7d')

theorem count_of_closesFrom {depth : ℕ} (h : closesFrom depth cs = true) :
    cs.count '\x7d' = cs.count '\x7b' + depth := by
  induction cs generalizing depth with
  | nil =>
    rw [closesFrom, beq_iff_eq] at h
    rw [h]
    rfl
  | cons c cs ih =>
    rw [closesFrom] at h
    split_ifs at h with hopen hclose
    · subst hopen
      rw [List.count_cons_of_ne (by decide), List.count_cons_self, ih h]
      omega
    · subst hclose
      rw [Bool.and_eq_true, bne_iff_ne] at h
      rw [List.count_cons_self, List.count_cons_of_ne (by decide), ih h.2]
      omega
    · rw [List.count_cons_of_ne hclose, List.count_cons_of_ne hopen, ih h]

/-- Where no block is opened none is closed. -/
theorem Balanced.not_mem (h : Balanced cs) (hopen : '\x7b' ∉ cs) : '\x7d' ∉ cs := by
  rw [← List.count_eq_zero, count_of_closesFrom h, List.count_eq_zero.2 hopen]

theorem not_mem_upToBrace (text : List Char) : '\x7d' ∉ upToBrace text := by
  intro hmem
  have hne := List.mem_takeWhile_imp hmem
  simp at hne

theorem upToBrace_append {pre : List Char} (h : '\x7d' ∉ pre) (text : List Char) :
    upToBrace (pre ++ text) = pre ++ upToBrace text :=
  List.takeWhile_append_of_pos (forall_ne_of_not_mem h)

/-- The first closing brace is that of an inner block or the one behind the body. -/
theorem exists_upToBrace (body after : List Char) :
    ∃ rest, body ++ '\x7d' :: after = upToBrace body ++ '\x7d' :: rest := by
  by_cases hclose : '\x7d' ∈ body
  · obtain ⟨first, tail, rfl, hfirst⟩ := List.eq_append_cons_of_mem hclose
    refine ⟨tail ++ '\x7d' :: after, ?_⟩
    have hnil : upToBrace ('\x7d' :: tail) = [] := List.takeWhile_cons_of_neg (by decide)
    rw [upToBrace_append hfirst, hnil]
    simp
  · have hall : upToBrace body = body := by
      simpa [upToBrace] using upToBrace_append hclose []
    exact ⟨after, by rw [hall]⟩

theorem exists_braced_switchText {subject : List Char} (hne : subject ≠ [])
    (hsubject : ')' ∉ subject) (before body after : List Char) :
    ∃ stop, Braced IsStatement (before ++ switchText subject body ++ after) before.length
      (upToBrace body) stop := by
  obtain ⟨rest, hrest⟩ := exists_upToBrace body after
  have hspace : IsGap [' '] := by decide
  refine ⟨_, before, _, rest, ?_, ⟨.intro hspace hne hsubject hspace, not_mem_upToBrace body⟩, rfl,
    rfl⟩
  change before ++ ("switch".toList ++ ' ' :: '(' ::
    (subject ++ ')' :: ' ' :: '\x7b' :: (body ++ ['\x7d']))) ++ after = _
  simp only [List.append_assoc, List.cons_append, List.nil_append, hrest]

/-- A label that no block stands before is read. -/
theorem OuterLabel.hasLabel {pre : List Char} (h : OuterLabel body pre) (hopen : '\x7b' ∉ pre) :
    HasLabel (upToBrace body) := by
  obtain ⟨post, rfl⟩ := h.label
  have hword : '\x7d' ∉ "default".toList ++ [':'] := by decide
  refine ⟨pre, [], upToBrace post, ?_, h.apart, by simp [IsGap]⟩
  rw [upToBrace_append (h.outside.not_mem hopen), List.append_cons, upToBrace_append hword]
  simp

/-- **A switch is reported by what stands before the first closing brace behind its head**, be it
the brace of the switch or that of an inner block. So a switch with a default label that stands
before its first inner block is never reported. -/
theorem check_switch (unit : SourceUnit) (config : Config) {before subject body after : List Char}
    (htext : unit.text.toList = before ++ switchText subject body ++ after) (hne : subject ≠ [])
    (hsubject : ')' ∉ subject) :
    check unit config = (unlabelled unit.text.toList).map (occurrence unit.text.toList) ∧
      (before.length ∉ (unlabelled unit.text.toList).map Prod.fst ↔
        Hidden unit.text.toList before.length ∨ HasLabel (upToBrace body)) ∧
      ∀ pre, OuterLabel body pre → '\x7b' ∉ pre →
        before.length ∉ (unlabelled unit.text.toList).map Prod.fst := by
  obtain ⟨stop, hspan⟩ := exists_braced_switchText hne hsubject before body after
  rw [← htext] at hspan
  have hreported : before.length ∉ (unlabelled unit.text.toList).map Prod.fst ↔
      Hidden unit.text.toList before.length ∨ HasLabel (upToBrace body) := by
    rw [mem_unlabelled_iff hspan, not_and_or, not_not, not_not]
  exact ⟨check_eq unit config, hreported,
    fun pre hlabel hopen => hreported.2 (Or.inr (hlabel.hasLabel hopen))⟩

/-- Blocks behind the label do not hide it. -/
theorem check_switch_labelFirst :
    let text := "f();\nswitch (x) \x7b default: \x7b g(); \x7d case 1: \x7b h(); \x7d \x7d"
    let body := " default: \x7b g(); \x7d case 1: \x7b h(); \x7d ".toList
    let unit : SourceUnit := ⟨"a.js", text, .javascript, none, none⟩
    let config : Config := { baseDir := .here }
    IsLabelledBody body ∧
      check unit config = (unlabelled text.toList).map (occurrence text.toList) ∧
      5 ∉ (unlabelled text.toList).map Prod.fst := by
  intro text body unit config
  have htext : unit.text.toList = "f();\n".toList ++ switchText ['x'] body ++ [] := by decide
  have hlabel : OuterLabel body [' '] :=
    ⟨⟨" \x7b g(); \x7d case 1: \x7b h(); \x7d ".toList, by decide⟩,
      fun c hc => by obtain rfl := Option.some.inj hc; decide, by decide⟩
  have hbody : IsLabelledBody body :=
    ⟨by decide, by decide, fun h => absurd (h.mem List.mem_cons_self) (by decide),
      fun h => absurd (h.mem List.mem_cons_self) (by decide), _, hlabel⟩
  have h := check_switch unit config htext (by decide) (by decide)
  exact ⟨hbody, h.1, h.2.2 [' '] hlabel (by decide)⟩

/-- A block before the label hides it. -/
theorem check_switch_blockFirst :
    let text := "switch (x) \x7b case 1: \x7b f(); \x7d default: g(); \x7d"
    let body := " case 1: \x7b f(); \x7d default: g(); ".toList
    let unit : SourceUnit := ⟨"example.js", text, .javascript, none, none⟩
    let config : Config := { baseDir := .here }
    text.toList = switchText ['x'] body ∧ IsLabelledBody body ∧
      check unit config = [occurrence text.toList (0, " case 1: \x7b f(); ".toList)] := by
  intro text body unit config
  have hlabel : OuterLabel body " case 1: \x7b f(); \x7d ".toList :=
    ⟨⟨" g(); ".toList, by decide⟩,
      fun c hc => by obtain rfl := Option.some.inj hc; decide, by decide⟩
  have hbody : IsLabelledBody body :=
    ⟨by decide, by decide, fun h => absurd (h.mem List.mem_cons_self) (by decide),
      fun h => absurd (h.mem List.mem_cons_self) (by decide), _, hlabel⟩
  have hunlabelled : unlabelled text.toList = [(0, " case 1: \x7b f(); ".toList)] := by decide
  have hcheck : check unit config = (unlabelled text.toList).map (occurrence text.toList) :=
    check_eq unit config
  exact ⟨by decide, hbody, by rw [hcheck, hunlabelled]; rfl⟩

end SmellScan.Smell.MissingDefault
