import SmellScan.Proofs.Json.RoundTrip

/-!
# Values on one line

The compact text of a value is made of printable characters of ASCII (`graphic_writeCompact`):
digits and signs in numbers, and in strings whatever is not printable is escaped. So it is one line,
and it is read back as the value (`parse_compact`).
-/

namespace SmellScan.Json

/-- Nothing but printable characters of ASCII. -/
def Graphic (cs : List Char) : Prop :=
  ∀ c ∈ cs, isAsciiGraphic c = true

instance (cs : List Char) : Decidable (Graphic cs) :=
  List.decidableBAll (fun c => isAsciiGraphic c = true) cs

theorem Graphic.append {cs ds : List Char} (hcs : Graphic cs) (hds : Graphic ds) :
    Graphic (cs ++ ds) :=
  List.forall_mem_append.2 ⟨hcs, hds⟩

theorem Graphic.cons {c : Char} {cs : List Char} (hcs : Graphic cs)
    (hc : isAsciiGraphic c = true) : Graphic (c :: cs) :=
  List.forall_mem_cons.2 ⟨hc, hcs⟩

/-- A printable text has one line. -/
theorem Graphic.newline_not_mem {cs : List Char} (h : Graphic cs) : '\n' ∉ cs :=
  fun hmem => absurd (h '\n' hmem) (by decide)

/-! ## Numbers -/

theorem graphic_of_digits {cs : List Char} (h : ∀ c ∈ cs, isDigit c = true) : Graphic cs := by
  intro c hc
  have hdigit : '0' ≤ c ∧ c ≤ '9' := by simpa [isDigit] using h c hc
  have hrange : 0x30 ≤ c.toNat ∧ c.toNat ≤ 0x39 := hdigit
  simp only [isAsciiGraphic, Bool.and_eq_true, decide_eq_true_eq]
  omega

theorem graphic_zeros (k : ℕ) : Graphic (List.replicate k '0') :=
  graphic_of_digits fun _ => isDigit_of_mem_zeros

theorem graphic_toDigits (n : ℕ) : Graphic (Nat.toDigits 10 n) :=
  graphic_of_digits fun _ => isDigit_of_mem_toDigits

theorem graphic_writeInt (i : ℤ) : Graphic (writeInt i) := by
  unfold writeInt
  split_ifs
  · exact (graphic_toDigits _).cons (by decide)
  · exact graphic_toDigits _

theorem graphic_positional {cs : List Char} (hcs : ∀ c ∈ cs, isDigit c = true) (lead : ℤ) :
    Graphic (FloatStyle.positional cs lead) := by
  unfold FloatStyle.positional
  dsimp only
  split_ifs
  · exact (((graphic_zeros _).append (graphic_of_digits hcs)).cons (by decide)).cons (by decide)
  all_goals
    refine Graphic.append (Graphic.append ?_ (graphic_zeros _)) (Graphic.cons ?_ (by decide))
  · exact graphic_of_digits fun c hc => hcs c (List.mem_of_mem_take hc)
  · decide
  · exact graphic_of_digits fun c hc => hcs c (List.mem_of_mem_take hc)
  · exact graphic_of_digits fun c hc => hcs c (List.mem_of_mem_drop hc)

theorem graphic_scientific (style : FloatStyle) {cs : List Char}
    (hcs : ∀ c ∈ cs, isDigit c = true) (lead : ℤ) : Graphic (style.scientific cs lead) := by
  unfold FloatStyle.scientific
  dsimp only
  refine Graphic.append ?_ (Graphic.cons ?_ (by decide))
  · split
    · rename_i c d rest
      obtain ⟨hc, hrest⟩ := List.forall_mem_cons.1 (graphic_of_digits hcs)
      exact ((show Graphic (d :: rest) from hrest).cons (by decide)).cons hc
    · exact graphic_of_digits hcs
  · refine Graphic.append (Graphic.append ?_ (graphic_zeros _)) (graphic_toDigits _)
    split_ifs <;> decide

theorem graphic_write (style : FloatStyle) {x : Double} (hx : x.IsDouble) :
    Graphic (style.write x).toList := by
  cases x with
  | nan => exact hx.elim
  | infinite negative => exact hx.elim
  | finite negative units =>
    obtain ⟨c, cs, hcons, hdigits, -⟩ := exists_significant_shortest hx
    simp only [FloatStyle.write, String.toList_ofList, hcons]
    have hbody : ∀ lead : ℤ, Graphic (if style.leastPositional ≤ lead &&
        lead ≤ style.greatestPositional then FloatStyle.positional (c :: cs) lead
        else style.scientific (c :: cs) lead) := by
      intro lead
      split_ifs
      · exact graphic_positional hdigits lead
      · exact graphic_scientific style hdigits lead
    cases negative with
    | false => exact hbody _
    | true => exact (hbody _).cons (by decide)

/-! ## Strings -/

theorem isAsciiGraphic_hexDigit (n : ℕ) : isAsciiGraphic (hexDigit n) = true := by
  have hlt : n % 16 < 16 := Nat.mod_lt n (by omega)
  unfold hexDigit
  interval_cases n % 16 <;> rfl

theorem graphic_unitEscape (n : ℕ) : Graphic (unitEscape n) := by
  have hlead : isAsciiGraphic '\\' = true ∧ isAsciiGraphic 'u' = true := by decide
  simp [Graphic, unitEscape, isAsciiGraphic_hexDigit, hlead]

theorem graphic_writeChar (c : Char) : Graphic (writeChar isAsciiGraphic c) := by
  unfold writeChar
  split
  · rename_i e he
    unfold shortEscape? at he
    split_ifs at he <;> obtain rfl := Option.some.inj he <;> decide
  · split_ifs with hc
    · simpa [Graphic] using hc
    · unfold charEscape
      dsimp only
      split_ifs
      · exact graphic_unitEscape _
      · exact (graphic_unitEscape _).append (graphic_unitEscape _)

theorem graphic_writeString (s : String) : Graphic (writeString isAsciiGraphic s) := by
  have hchars : Graphic (s.toList.flatMap (writeChar isAsciiGraphic)) := by
    intro c hc
    obtain ⟨d, -, hd⟩ := List.mem_flatMap.1 hc
    exact graphic_writeChar d c hd
  exact (hchars.append (by decide)).cons (by decide)

/-! ## Values -/

theorem graphic_separated {sep : List Char} (hsep : Graphic sep) {ts : List (List Char)}
    (hts : ∀ t ∈ ts, Graphic t) : Graphic (separated sep ts) := by
  induction ts with
  | nil => exact fun c hc => absurd hc List.not_mem_nil
  | cons t ts ih =>
    obtain ⟨ht, hts⟩ := List.forall_mem_cons.1 hts
    cases ts with
    | nil => exact ht
    | cons u us => exact (ht.append hsep).append (ih hts)

theorem writeCompactItems_eq_map (items : List Json) :
    writeCompactItems items = items.map writeCompact := by
  induction items with
  | nil => rfl
  | cons j items ih => rw [writeCompactItems, ih, List.map_cons]

theorem writeCompactFields_eq_map (fields : List (String × Json)) :
    writeCompactFields fields = fields.map fun field =>
      writeString isAsciiGraphic field.1 ++ ':' :: ' ' :: writeCompact field.2 := by
  induction fields with
  | nil => rfl
  | cons field fields ih => rw [writeCompactFields, ih, List.map_cons]

/-- **A value on one line is printable.** -/
theorem graphic_writeCompact {j : Json} (h : FiniteFloats j) : Graphic (writeCompact j) := by
  induction h with
  | null => decide
  | bool b => cases b <;> decide
  | int i => exact graphic_writeInt i
  | float hx => exact graphic_write compactFloat hx
  | str s => exact graphic_writeString s
  | @arr items _ ih =>
    have hitems : ∀ t ∈ items.map writeCompact, Graphic t := by
      simpa only [List.forall_mem_map] using ih
    rw [writeCompact, writeCompactItems_eq_map]
    exact ((graphic_separated (by decide) hitems).append (by decide)).cons (by decide)
  | @obj fields _ ih =>
    have hfields : ∀ t ∈ fields.map fun field =>
        writeString isAsciiGraphic field.1 ++ ':' :: ' ' :: writeCompact field.2, Graphic t := by
      simp only [List.forall_mem_map]
      intro field hfield
      exact (graphic_writeString _).append (((ih field hfield).cons (by decide)).cons (by decide))
    rw [writeCompact, writeCompactFields_eq_map]
    exact ((graphic_separated (by decide) hfields).append (by decide)).cons (by decide)

/-- A value whose doubles are finite reads on one line. -/
theorem reads_writeCompact {j : Json} (h : FiniteFloats j) : Reads (writeCompact j) j := by
  have hplain : ∀ c, isAsciiGraphic c = true → 0x20 ≤ c.toNat := by
    intro c hc
    simp only [isAsciiGraphic, Bool.and_eq_true, decide_eq_true_eq] at hc
    exact hc.1
  have hgap : Blank [' '] := by simp [Blank, isSpace]
  have hnone : Blank [] := by simp [Blank]
  induction h with
  | null => exact reads_null
  | bool b => exact reads_bool b
  | int i => exact reads_of_readNumber fun rest => readNumber_writeInt i
  | float hx => exact reads_of_readNumber fun rest => readNumber_write compactFloat hx
  | str s => exact reads_str hplain s
  | @arr items _ ih =>
    rw [writeCompact, writeCompactItems_eq_map]
    cases items with
    | nil => exact reads_arr_nil
    | cons j items =>
      have hreads := reads_arr hgap hnone (ih j List.mem_cons_self)
        (forall₂_map_self fun x hx => ih x (List.mem_cons_of_mem j hx))
      rwa [List.append_nil] at hreads
  | @obj fields _ ih =>
    rw [writeCompact, writeCompactFields_eq_map]
    cases fields with
    | nil => exact reads_obj_nil
    | cons field fields =>
      have hfields : ∀ x ∈ field :: fields, Fronts FieldFront
          (writeString isAsciiGraphic x.1 ++ ':' :: ' ' :: writeCompact x.2) x :=
        fun x hx => fronts_field hplain x.1 (ih x hx)
      have hreads := reads_obj hgap hnone (hfields field List.mem_cons_self)
        (forall₂_map_self fun x hx => hfields x (List.mem_cons_of_mem field hx))
      rwa [List.append_nil] at hreads

/-- **Every value whose doubles are finite is read back from its line.** -/
theorem parse_compact {j : Json} (h : FiniteFloats j) : parse j.compact = some j := by
  rw [parse, compact, String.toList_ofList, (reads_writeCompact h).parseChars_eq]

theorem newline_not_mem_compact {j : Json} (h : FiniteFloats j) : '\n' ∉ j.compact.toList := by
  rw [compact, String.toList_ofList]
  exact (graphic_writeCompact h).newline_not_mem

end SmellScan.Json
