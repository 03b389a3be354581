import SmellScan.Proofs.Json.Number
import SmellScan.Proofs.Json.Quoting

/-!
# Values are read as they are written

A text `Reads` as a value if the reader finds the value at its front, behind blanks and in front of
whatever cannot go on with a number. The texts of null, truth values, numbers and strings do. Arrays
and objects whose parts do read as well (`reads_arr`, `reads_obj`): their two readers are one kind
of reader of lists (`ReadsList`), which takes texts with commas between them one by one
(`ReadsList.read_separated`). Each step takes a character, so fuel for every character suffices.

Hence every value whose doubles are finite is read back from its text over several lines
(`parse_indented`).
-/

namespace SmellScan.Json

/-! ## Blanks -/

/-- Nothing but blanks. -/
def Blank (cs : List Char) : Prop :=
  ∀ c ∈ cs, isSpace c = true

theorem Blank.skipSpace_append {bs : List Char} (h : Blank bs) (cs : List Char) :
    skipSpace (bs ++ cs) = skipSpace cs :=
  List.dropWhile_append_of_pos h

theorem skipSpace_cons {c : Char} (hc : isSpace c = false) (cs : List Char) :
    skipSpace (c :: cs) = c :: cs := by
  simp [skipSpace, hc]

theorem skipSpace_skipSpace (cs : List Char) : skipSpace (skipSpace cs) = skipSpace cs :=
  List.dropWhile_idempotent ..

theorem blank_newline (depth : ℕ) : Blank (newline depth) := by
  intro c hc
  rcases List.mem_cons.1 hc with rfl | hc
  · rfl
  · rw [List.eq_of_mem_replicate hc]
    rfl

theorem endsNumber_cons {c : Char} (hc : isDigit c = false ∧ c ≠ '.' ∧ c ≠ 'e' ∧ c ≠ 'E')
    (cs : List Char) : EndsNumber (c :: cs) := by
  intro d hd
  obtain rfl : c = d := by simpa using hd
  exact hc

theorem Blank.endsNumber_append {bs rest : List Char} (h : Blank bs) (hrest : EndsNumber rest) :
    EndsNumber (bs ++ rest) := by
  cases bs with
  | nil => exact hrest
  | cons b bs =>
    have hb : isSpace b = true := h b (by simp)
    have hcases : b = ' ' ∨ b = '\n' ∨ b = '\r' ∨ b = '\t' := by simpa [isSpace, or_assoc] using hb
    apply endsNumber_cons
    rcases hcases with rfl | rfl | rfl | rfl <;> decide

/-! ## Steps of the reader -/

theorem readValue_skipSpace (fuel : ℕ) (cs : List Char) :
    readValue fuel (skipSpace cs) = readValue fuel cs := by
  cases fuel with
  | zero => rfl
  | succ fuel => rw [readValue, readValue, skipSpace_skipSpace]

theorem readValue_quote {cs rest : List Char} {s : String} (h : readString cs = some (s, rest))
    (fuel : ℕ) : readValue (fuel + 1) ('"' :: cs) = some (.str s, rest) := by
  change (readString cs).map _ = _
  rw [h]
  rfl

/-- A number begins with its sign or a digit. -/
theorem exists_cons_of_readNumber {cs : List Char} {r : Json × List Char}
    (h : readNumber cs = some r) : ∃ c tail, cs = c :: tail ∧ (c = '-' ∨ isDigit c = true) := by
  cases cs with
  | nil => simp [readNumber, readMagnitude, isWhole] at h
  | cons c tail =>
    refine ⟨c, tail, rfl, ?_⟩
    by_contra hnot
    obtain ⟨hminus, hdigit⟩ := not_or.1 hnot
    unfold readNumber at h
    split at h
    case h_1 heq => exact hminus (List.cons.inj heq).1
    case h_2 => simp [readMagnitude, hdigit, isWhole] at h

theorem readValue_of_readNumber {cs : List Char} {r : Json × List Char}
    (h : readNumber cs = some r) (fuel : ℕ) : readValue (fuel + 1) cs = some r := by
  obtain ⟨c, tail, rfl, hc⟩ := exists_cons_of_readNumber h
  have hne : ∀ d, isDigit d = false → d ≠ '-' → c ≠ d := by
    intro d hd hminus
    rcases hc with rfl | hc
    · exact hminus.symm
    · exact isDigit_ne hc hd
  have hspace : isSpace c = false := by
    simp [isSpace, hne ' ' rfl (by decide), hne '\n' rfl (by decide), hne '\r' rfl (by decide),
      hne '\t' rfl (by decide)]
  rw [readValue, skipSpace_cons hspace]
  split
  case h_1 heq => cases heq
  case h_2 heq | h_3 heq | h_4 heq | h_5 heq | h_6 heq | h_7 heq =>
    exact absurd (List.cons.inj heq).1 (hne _ rfl (by decide))
  case h_8 => exact h

/-- An array that is not closed at once has items. -/
theorem readValue_items {fuel : ℕ} {cs rest : List Char} {items : List Json}
    (hopen : ∀ tail, skipSpace cs ≠ ']' :: tail)
    (h : readItems fuel (skipSpace cs) = some (items, rest)) :
    readValue (fuel + 1) ('[' :: cs) = some (.arr items, rest) := by
  rw [readValue, skipSpace_cons rfl]
  -- `hopen` rules out the branch of the empty array
  simp only [h, Option.map_some]

/-- An object that is not closed at once has fields. -/
theorem readValue_fields {fuel : ℕ} {cs rest : List Char} {fields : List (String × Json)}
    (hopen : ∀ tail, skipSpace cs ≠ '\x7d' :: tail)
    (h : readFields fuel (skipSpace cs) = some (fields, rest)) :
    readValue (fuel + 1) ('\x7b' :: cs) = some (.obj fields, rest) := by
  rw [readValue, skipSpace_cons rfl]
  simp only [h, Option.map_some]

/-- A value stands at the front of a text, and `rest` follows it. -/
def ValueFront (fuel : ℕ) (cs : List Char) (j : Json) (rest : List Char) : Prop :=
  readValue fuel cs = some (j, rest)

/-- A field stands at the front of a text, and `rest` follows it. -/
def FieldFront (fuel : ℕ) (cs : List Char) (field : String × Json) (rest : List Char) : Prop :=
  ∃ inner behind value, skipSpace cs = '"' :: inner ∧
    readString inner = some (field.1, behind) ∧ skipSpace behind = ':' :: value ∧
    readValue fuel value = some (field.2, rest)

/-- A reader of lists: a comma behind what stands at the front leads to the next, and a closing sign
ends the list. -/
structure ReadsList {α : Type} (front : ℕ → List Char → α → List Char → Prop) (close : Char)
    (read : ℕ → List Char → Option (List α × List Char)) : Prop where
  last : ∀ {fuel cs a rest tail}, front fuel cs a rest → skipSpace rest = close :: tail →
    read (fuel + 1) cs = some ([a], tail)
  next : ∀ {fuel cs a rest tail as final}, front fuel cs a rest → skipSpace rest = ',' :: tail →
    read fuel tail = some (as, final) → read (fuel + 1) cs = some (a :: as, final)

theorem readsList_items : ReadsList ValueFront ']' readItems where
  last := by
    intro fuel cs j rest tail hvalue hclose
    rw [ValueFront] at hvalue
    simp only [readItems, hvalue, hclose]
  next := by
    intro fuel cs j rest tail js final hvalue hcomma hread
    rw [ValueFront] at hvalue
    simp only [readItems, hvalue, hcomma, hread, Option.map_some]

theorem readsList_fields : ReadsList FieldFront '\x7d' readFields where
  last := by
    rintro fuel cs ⟨key, j⟩ rest tail ⟨inner, behind, value, hquote, hkey, hcolon, hvalue⟩ hclose
    simp only [readFields, hquote, hkey, hcolon, hvalue, hclose]
  next := by
    rintro fuel cs ⟨key, j⟩ rest tail fields final
      ⟨inner, behind, value, hquote, hkey, hcolon, hvalue⟩ hcomma hread
    simp only [readFields, hquote, hkey, hcolon, hvalue, hcomma, hread, Option.map_some]

/-! ## Texts that read -/

/-- The text has something at its front wherever it stands: behind blanks and in front of what
cannot go on with a number, with fuel for every character. -/
def Fronts {α : Type} (front : ℕ → List Char → α → List Char → Prop) (t : List Char) (a : α) :
    Prop :=
  ∀ fuel cs rest, t.length < fuel → EndsNumber rest → skipSpace cs = skipSpace (t ++ rest) →
    front fuel cs a rest

/-- The text reads as the value. -/
abbrev Reads : List Char → Json → Prop :=
  Fronts ValueFront

theorem Fronts.blank_append {α : Type} {front : ℕ → List Char → α → List Char → Prop}
    {t bs : List Char} {a : α} (h : Fronts front t a) (hbs : Blank bs) :
    Fronts front (bs ++ t) a := by
  intro fuel cs rest hfuel hrest hcs
  rw [List.length_append] at hfuel
  rw [List.append_assoc, hbs.skipSpace_append] at hcs
  exact h fuel cs rest (by omega) hrest hcs

theorem reads_of_readValue {t : List Char} {j : Json}
    (h : ∀ fuel rest, t.length ≤ fuel → EndsNumber rest →
      readValue (fuel + 1) (t ++ rest) = some (j, rest)) : Reads t j := by
  intro fuel cs rest hfuel hrest hcs
  obtain ⟨fuel, rfl⟩ := Nat.exists_eq_succ_of_ne_zero (Nat.ne_zero_of_lt hfuel)
  rw [ValueFront, ← readValue_skipSpace, hcs, readValue_skipSpace]
  exact h fuel rest (by omega) hrest

theorem Reads.readValue_eq {t : List Char} {j : Json} (h : Reads t j) {fuel : ℕ}
    {rest : List Char} (hfuel : t.length < fuel) (hrest : EndsNumber rest) :
    readValue fuel (t ++ rest) = some (j, rest) :=
  h fuel (t ++ rest) rest hfuel hrest rfl

theorem reads_of_readNumber {t : List Char} {j : Json}
    (h : ∀ rest, EndsNumber rest → readNumber (t ++ rest) = some (j, rest)) : Reads t j :=
  reads_of_readValue fun fuel rest _ hrest => readValue_of_readNumber (h rest hrest) fuel

theorem reads_null : Reads "null".toList .null :=
  reads_of_readValue fun _ _ _ _ => rfl

theorem reads_bool (b : Bool) : Reads (if b then "true".toList else "false".toList) (.bool b) := by
  cases b with
  | false => exact reads_of_readValue fun _ _ _ _ => rfl
  | true => exact reads_of_readValue fun _ _ _ _ => rfl

section Plain

variable {plain : Char → Bool} (hplain : ∀ c, plain c = true → 0x20 ≤ c.toNat)
include hplain

theorem reads_str (s : String) : Reads (writeString plain s) (.str s) := by
  refine reads_of_readValue fun fuel rest _ _ => ?_
  rw [writeString_append]
  exact readValue_quote (readString_flatMap hplain s rest) fuel

/-- A field is its key in quotes, a colon and its value. -/
theorem fronts_field (key : String) {v : List Char} {j : Json} (hv : Reads v j) :
    Fronts FieldFront (writeString plain key ++ ':' :: ' ' :: v) (key, j) := by
  intro fuel cs rest hfuel hrest hcs
  rw [List.append_assoc, writeString_append, skipSpace_cons rfl] at hcs
  refine ⟨_, _, _, hcs, readString_flatMap hplain key _, skipSpace_cons rfl _, ?_⟩
  have hspace : Blank [' '] := by simp [Blank, isSpace]
  simp only [List.length_append, List.length_cons] at hfuel
  exact Reads.readValue_eq (hv.blank_append hspace) (by simp; omega) hrest

end Plain

/-! ## Arrays and objects -/

/-- What follows the first of several texts: a comma, or what follows them all. -/
theorem exists_separated_append (gap t : List Char) (ts : List (List Char)) {rest : List Char}
    (hrest : EndsNumber rest) :
    ∃ tail, separated (',' :: gap) (t :: ts) ++ rest = t ++ tail ∧ EndsNumber tail := by
  cases ts with
  | nil => exact ⟨rest, rfl, hrest⟩
  | cons u ts =>
    refine ⟨',' :: (gap ++ (separated (',' :: gap) (u :: ts) ++ rest)), ?_,
      endsNumber_cons (by decide) _⟩
    simp only [separated, List.append_assoc, List.cons_append]

/-- **Texts with commas between them are read one by one**, up to the closing sign. -/
theorem ReadsList.read_separated {α : Type} {front : ℕ → List Char → α → List Char → Prop}
    {close : Char} {read : ℕ → List Char → Option (List α × List Char)}
    (h : ReadsList front close read) (hspace : isSpace close = false) {gap bs rest : List Char}
    (hgap : Blank gap) (hbs : Blank bs) (hclose : EndsNumber (close :: rest)) {t : List Char}
    {a : α} {ts : List (List Char)} {as : List α} (ht : Fronts front t a)
    (hts : List.Forall₂ (Fronts front) ts as) (fuel : ℕ) (cs : List Char)
    (hfuel : (separated (',' :: gap) (t :: ts)).length + 1 < fuel)
    (hcs : skipSpace cs = skipSpace (separated (',' :: gap) (t :: ts) ++ (bs ++ close :: rest))) :
    read fuel cs = some (a :: as, rest) := by
  induction hts generalizing t a fuel cs with
  | nil =>
    obtain ⟨fuel, rfl⟩ := Nat.exists_eq_succ_of_ne_zero (Nat.ne_zero_of_lt hfuel)
    have hlast := hbs.endsNumber_append hclose
    refine h.last (ht fuel cs _ (by simp only [separated] at hfuel; omega) hlast hcs) ?_
    rw [hbs.skipSpace_append, skipSpace_cons hspace]
  | cons hu hts ih =>
    obtain ⟨fuel, rfl⟩ := Nat.exists_eq_succ_of_ne_zero (Nat.ne_zero_of_lt hfuel)
    simp only [separated, List.length_append, List.length_cons] at hfuel
    simp only [separated, List.append_assoc, List.cons_append] at hcs
    refine h.next (ht _ cs _ (by omega) (endsNumber_cons (by decide) _) hcs)
      (skipSpace_cons rfl _) (ih hu fuel _ (by omega) ?_)
    rw [hgap.skipSpace_append]

/-- No value begins with the bracket that closes an array. -/
theorem Reads.skipSpace_ne_close {t : List Char} {j : Json} (h : Reads t j) {rest : List Char}
    (hrest : EndsNumber rest) (tail : List Char) : skipSpace (t ++ rest) ≠ ']' :: tail := by
  intro heq
  have hread := h.readValue_eq (Nat.lt_succ_self t.length) hrest
  rw [← readValue_skipSpace, heq] at hread
  have hnone : readValue (t.length + 1) (']' :: tail) = none := rfl
  rw [hnone] at hread
  cases hread

/-- No field begins with the brace that closes an object. -/
theorem Fronts.skipSpace_ne_close {t : List Char} {field : String × Json}
    (h : Fronts FieldFront t field) {rest : List Char} (hrest : EndsNumber rest)
    (tail : List Char) : skipSpace (t ++ rest) ≠ '\x7d' :: tail := by
  intro heq
  obtain ⟨inner, _, _, hquote, -⟩ := h (t.length + 1) (t ++ rest) rest (by omega) hrest rfl
  rw [heq] at hquote
  simp at hquote

/-- **An array reads if its items do.** -/
theorem reads_arr {gap bs : List Char} (hgap : Blank gap) (hbs : Blank bs) {t : List Char}
    {j : Json} {ts : List (List Char)} {js : List Json} (ht : Reads t j)
    (hts : List.Forall₂ Reads ts js) :
    Reads ('[' :: (separated (',' :: gap) (t :: ts) ++ bs ++ [']'])) (.arr (j :: js)) := by
  refine reads_of_readValue fun fuel rest hfuel _ => ?_
  have hclose : EndsNumber (']' :: rest) := endsNumber_cons (by decide) rest
  simp only [List.length_cons, List.length_append, List.length_nil] at hfuel
  simp only [List.cons_append, List.append_assoc, List.nil_append]
  refine readValue_items ?_ (readsList_items.read_separated rfl hgap hbs hclose ht hts fuel _
    (by omega) (skipSpace_skipSpace _))
  obtain ⟨tail, htail, hend⟩ := exists_separated_append gap t ts (hbs.endsNumber_append hclose)
  rw [htail]
  exact ht.skipSpace_ne_close hend

/-- **An object reads if its fields do.** -/
theorem reads_obj {gap bs : List Char} (hgap : Blank gap) (hbs : Blank bs) {t : List Char}
    {field : String × Json} {ts : List (List Char)} {fields : List (String × Json)}
    (ht : Fronts FieldFront t field) (hts : List.Forall₂ (Fronts FieldFront) ts fields) :
    Reads ('\x7b' :: (separated (',' :: gap) (t :: ts) ++ bs ++ ['\x7d']))
      (.obj (field :: fields)) := by
  refine reads_of_readValue fun fuel rest hfuel _ => ?_
  have hclose : EndsNumber ('\x7d' :: rest) := endsNumber_cons (by decide) rest
  simp only [List.length_cons, List.length_append, List.length_nil] at hfuel
  simp only [List.cons_append, List.append_assoc, List.nil_append]
  refine readValue_fields ?_ (readsList_fields.read_separated rfl hgap hbs hclose ht hts fuel _
    (by omega) (skipSpace_skipSpace _))
  obtain ⟨tail, htail, hend⟩ := exists_separated_append gap t ts (hbs.endsNumber_append hclose)
  rw [htail]
  exact ht.skipSpace_ne_close hend

theorem reads_arr_nil : Reads ['[', ']'] (.arr []) :=
  reads_of_readValue fun _ _ _ _ => rfl

theorem reads_obj_nil : Reads ['\x7b', '\x7d'] (.obj []) :=
  reads_of_readValue fun _ _ _ _ => rfl

/-- **A text that reads as a value is parsed as it.** -/
theorem Reads.parseChars_eq {t : List Char} {j : Json} (h : Reads t j) : parseChars t = some j := by
  have hread : readValue (2 * t.length + 1) (t ++ []) = some (j, []) :=
    h.readValue_eq (by omega) (by simp [EndsNumber])
  rw [List.append_nil] at hread
  simp only [parseChars, hread]
  rfl

/-! ## The layout over several lines -/

/-- Every double in the value is finite. -/
inductive FiniteFloats : Json → Prop
  | null : FiniteFloats .null
  | bool (b : Bool) : FiniteFloats (.bool b)
  | int (i : ℤ) : FiniteFloats (.int i)
  | float {x : Double} (h : x.IsDouble) : FiniteFloats (.float x)
  | str (s : String) : FiniteFloats (.str s)
  | arr {items : List Json} (h : ∀ j ∈ items, FiniteFloats j) : FiniteFloats (.arr items)
  | obj {fields : List (String × Json)} (h : ∀ field ∈ fields, FiniteFloats field.2) :
    FiniteFloats (.obj fields)

theorem writeIndentedItems_eq_map (depth : ℕ) (items : List Json) :
    writeIndentedItems depth items = items.map fun j => newline depth ++ writeIndented depth j := by
  induction items with
  | nil => rfl
  | cons j items ih => rw [writeIndentedItems, ih, List.map_cons]

theorem writeIndentedFields_eq_map (depth : ℕ) (fields : List (String × Json)) :
    writeIndentedFields depth fields = fields.map fun field =>
      newline depth ++ (writeString isNotControl field.1 ++
        ':' :: ' ' :: writeIndented depth field.2) := by
  induction fields with
  | nil => rfl
  | cons field fields ih => rw [writeIndentedFields, ih, List.map_cons, List.append_assoc]

theorem writeIndented_arr_cons (depth : ℕ) (j : Json) (items : List Json) :
    writeIndented depth (.arr (j :: items)) =
      '[' :: (separated [','] (writeIndentedItems (depth + 1) (j :: items)) ++
        newline depth ++ [']']) := rfl

theorem writeIndented_obj_cons (depth : ℕ) (field : String × Json)
    (fields : List (String × Json)) :
    writeIndented depth (.obj (field :: fields)) =
      '\x7b' :: (separated [','] (writeIndentedFields (depth + 1) (field :: fields)) ++
        newline depth ++ ['\x7d']) := rfl

theorem forall₂_map_self {α β : Type*} {r : β → α → Prop} {f : α → β} {xs : List α}
    (h : ∀ x ∈ xs, r (f x) x) : List.Forall₂ r (xs.map f) xs := by
  rw [List.forall₂_map_left_iff]
  exact List.forall₂_same.2 h

/-- A value whose doubles are finite reads at every depth. -/
theorem reads_writeIndented {j : Json} (h : FiniteFloats j) (depth : ℕ) :
    Reads (writeIndented depth j) j := by
  have hplain : ∀ c, isNotControl c = true → 0x20 ≤ c.toNat := fun c hc => of_decide_eq_true hc
  induction h generalizing depth with
  | null => exact reads_null
  | bool b => exact reads_bool b
  | int i => exact reads_of_readNumber fun rest => readNumber_writeInt i
  | @float x hx =>
    cases x with
    | nan => exact hx.elim
    | infinite negative => exact hx.elim
    | finite negative units =>
      exact reads_of_readNumber fun rest => readNumber_write indentedFloat hx
  | str s => exact reads_str hplain s
  | @arr items _ ih =>
    cases items with
    | nil => exact reads_arr_nil
    | cons j items =>
      have hitems : ∀ x ∈ j :: items,
          Reads (newline (depth + 1) ++ writeIndented (depth + 1) x) x := fun x hx =>
        (ih x hx (depth + 1)).blank_append (blank_newline (depth + 1))
      rw [writeIndented_arr_cons, writeIndentedItems_eq_map, List.map_cons]
      exact reads_arr (by simp [Blank]) (blank_newline depth) (hitems j List.mem_cons_self)
        (forall₂_map_self fun x hx => hitems x (List.mem_cons_of_mem j hx))
  | @obj fields _ ih =>
    cases fields with
    | nil => exact reads_obj_nil
    | cons field fields =>
      have hfields : ∀ x ∈ field :: fields, Fronts FieldFront (newline (depth + 1) ++
          (writeString isNotControl x.1 ++ ':' :: ' ' :: writeIndented (depth + 1) x.2)) x :=
        fun x hx => (fronts_field hplain x.1 (ih x hx (depth + 1))).blank_append
          (blank_newline (depth + 1))
      rw [writeIndented_obj_cons, writeIndentedFields_eq_map, List.map_cons]
      exact reads_obj (by simp [Blank]) (blank_newline depth) (hfields field List.mem_cons_self)
        (forall₂_map_self fun x hx => hfields x (List.mem_cons_of_mem field hx))

/-- **Every value whose doubles are finite is read back from its text over several lines.** -/
theorem parse_indented {j : Json} (h : FiniteFloats j) : parse j.indented = some j := by
  rw [parse, indented, String.toList_ofList, (reads_writeIndented h 0).parseChars_eq]

end SmellScan.Json
