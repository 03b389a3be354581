import SmellScan.Json.Parser
import SmellScan.Json.Printer
import SmellScan.Proofs.Numeric.Shortest

/-!
# Numbers are read as they are written

Reading inverts the decimal text of every integer (`readNumber_writeInt`) and, in every style, the
text of every finite double (`readNumber_write`), whatever follows that cannot go on with the
number. Both layouts of a double spell its shortest digits times a power of ten, so they are read as
one decimal (`readMagnitude_positional`, `readMagnitude_scientific`).
-/

namespace SmellScan.Json

/-- The text does not go on with a number that stands in front of it. -/
def EndsNumber (rest : List Char) : Prop :=
  ∀ c ∈ rest.head?, isDigit c = false ∧ c ≠ '.' ∧ c ≠ 'e' ∧ c ≠ 'E'

/-- The text does not begin with a digit. -/
def NoDigit (rest : List Char) : Prop :=
  ∀ c ∈ rest.head?, isDigit c = false

theorem noDigit_cons {c : Char} (hc : isDigit c = false) (rest : List Char) :
    NoDigit (c :: rest) := by
  intro d hd
  obtain rfl : c = d := by simpa using hd
  exact hc

theorem EndsNumber.noDigit {rest : List Char} (h : EndsNumber rest) : NoDigit rest :=
  fun c hc => (h c hc).1

theorem takeWhile_isDigit {cs rest : List Char} (hcs : ∀ c ∈ cs, isDigit c = true)
    (hrest : NoDigit rest) : (cs ++ rest).takeWhile isDigit = cs := by
  rw [List.takeWhile_append_of_pos hcs]
  cases rest with
  | nil => simp
  | cons c rest => simp [hrest c (by simp)]

theorem dropWhile_isDigit {cs rest : List Char} (hcs : ∀ c ∈ cs, isDigit c = true)
    (hrest : NoDigit rest) : (cs ++ rest).dropWhile isDigit = rest := by
  rw [List.dropWhile_append_of_pos hcs]
  cases rest with
  | nil => simp
  | cons c rest => simp [hrest c (by simp)]

theorem isDigit_of_mem_zeros {k : ℕ} {c : Char} (hc : c ∈ List.replicate k '0') :
    isDigit c = true := by
  rw [List.eq_of_mem_replicate hc, isDigit_zero]

/-! ## Parts of a number -/

theorem readFraction_dot {ds rest : List Char} (hne : ds ≠ [])
    (hds : ∀ c ∈ ds, isDigit c = true) (hrest : NoDigit rest) :
    readFraction ('.' :: (ds ++ rest)) = some (ds, rest) := by
  simp only [readFraction, takeWhile_isDigit hds hrest, dropWhile_isDigit hds hrest]
  rw [if_neg (by simpa using hne)]

theorem readFraction_of_ne_dot {rest : List Char} (h : rest.head? ≠ some '.') :
    readFraction rest = none := by
  unfold readFraction
  split
  · simp at h
  · rfl

theorem EndsNumber.readFraction_eq {rest : List Char} (h : EndsNumber rest) :
    readFraction rest = none :=
  readFraction_of_ne_dot fun hdot => (h '.' hdot).2.1 rfl

theorem EndsNumber.readExponent_eq {rest : List Char} (h : EndsNumber rest) :
    readExponent rest = none := by
  cases rest with
  | nil => rfl
  | cons c rest =>
    obtain ⟨-, -, he, hE⟩ := h c (by simp)
    simp [readExponent, he, hE]

theorem isDigit_ne {c d : Char} (hc : isDigit c = true) (hd : isDigit d = false) : c ≠ d := by
  rintro rfl
  rw [hc] at hd
  cases hd

theorem readSign_digit {d : Char} (hd : isDigit d = true) (rest : List Char) :
    readSign (d :: rest) = (false, d :: rest) := by
  have hminus : d ≠ '-' := isDigit_ne hd (by decide)
  have hplus : d ≠ '+' := isDigit_ne hd (by decide)
  unfold readSign
  split
  case h_1 _ h => exact absurd (List.cons.inj h).1 hminus
  case h_2 _ h => exact absurd (List.cons.inj h).1 hplus
  case h_3 => rfl

/-- Digits behind an `e` and a sign. -/
theorem readExponent_e {cs ds rest : List Char} {negative : Bool}
    (hsign : readSign cs = (negative, ds ++ rest)) (hne : ds ≠ [])
    (hds : ∀ c ∈ ds, isDigit c = true) (hrest : NoDigit rest) :
    readExponent ('e' :: cs) =
      some (if negative then -(digitsValue ds : ℤ) else digitsValue ds, rest) := by
  simp only [readExponent, hsign, takeWhile_isDigit hds hrest, dropWhile_isDigit hds hrest]
  simp [hne]

/-! ## Magnitudes -/

/-- Digits, a point and digits, with or without an exponent. -/
theorem readMagnitude_point (negative : Bool) {whole ds tail rest : List Char} {power : ℤ}
    (hwhole : isWhole whole = true) (hdigits : ∀ c ∈ whole, isDigit c = true) (hne : ds ≠ [])
    (hds : ∀ c ∈ ds, isDigit c = true) (htail : NoDigit tail)
    (hpower : (readExponent tail).getD (0, tail) = (power, rest)) :
    readMagnitude negative (whole ++ '.' :: (ds ++ tail)) = some
      (.float (.ofDecimal negative (digitsValue (whole ++ ds)) (power - ds.length)), rest) := by
  have hdot : NoDigit ('.' :: (ds ++ tail)) := noDigit_cons rfl _
  simp only [readMagnitude, takeWhile_isDigit hdigits hdot, dropWhile_isDigit hdigits hdot,
    readFraction_dot hne hds htail, hpower, hwhole]
  rfl

/-- Digits, a point and digits. -/
theorem readMagnitude_fraction (negative : Bool) {whole ds rest : List Char}
    (hwhole : isWhole whole = true) (hdigits : ∀ c ∈ whole, isDigit c = true) (hne : ds ≠ [])
    (hds : ∀ c ∈ ds, isDigit c = true) (hrest : EndsNumber rest) :
    readMagnitude negative (whole ++ '.' :: (ds ++ rest)) =
      some (.float (.ofDecimal negative (digitsValue (whole ++ ds)) (-ds.length)), rest) := by
  have hpower : (readExponent rest).getD (0, rest) = (0, rest) := by
    rw [hrest.readExponent_eq, Option.getD_none]
  rw [readMagnitude_point negative hwhole hdigits hne hds hrest.noDigit hpower, Int.zero_sub]

/-- Digits and an exponent. -/
theorem readMagnitude_power (negative : Bool) {whole tail rest : List Char} {power : ℤ}
    (hwhole : isWhole whole = true) (hdigits : ∀ c ∈ whole, isDigit c = true)
    (htail : NoDigit tail) (hdot : tail.head? ≠ some '.')
    (hpower : readExponent tail = some (power, rest)) :
    readMagnitude negative (whole ++ tail) =
      some (.float (.ofDecimal negative (digitsValue whole) power), rest) := by
  simp only [readMagnitude, takeWhile_isDigit hdigits htail, dropWhile_isDigit hdigits htail,
    readFraction_of_ne_dot hdot, hpower, hwhole]
  rfl

/-- Digits alone. -/
theorem readMagnitude_whole (negative : Bool) {whole rest : List Char}
    (hwhole : isWhole whole = true) (hdigits : ∀ c ∈ whole, isDigit c = true)
    (hrest : EndsNumber rest) :
    readMagnitude negative (whole ++ rest) =
      some (.int (if negative then -(digitsValue whole : ℤ) else digitsValue whole), rest) := by
  simp only [readMagnitude, takeWhile_isDigit hdigits hrest.noDigit,
    dropWhile_isDigit hdigits hrest.noDigit, hrest.readFraction_eq, hrest.readExponent_eq, hwhole]
  rfl

/-! ## Integers -/

theorem isWhole_cons {c : Char} (hc : c ≠ '0') (cs : List Char) : isWhole (c :: cs) = true := by
  simp [isWhole, hc]

theorem isWhole_toDigits (n : ℕ) : isWhole (Nat.toDigits 10 n) = true := by
  rcases Nat.eq_zero_or_pos n with rfl | hn
  · rfl
  · obtain ⟨c, cs, hcons⟩ :=
      List.exists_cons_of_ne_nil (Nat.toDigits_ne_nil (n := n) (b := 10))
    have hhead := head?_toDigits_ne hn
    rw [hcons] at hhead ⊢
    exact isWhole_cons (by simpa using hhead) cs

/-- A magnitude with the sign in front of it. -/
theorem readNumber_of_readMagnitude {negative : Bool} {cs : List Char} {r : Json × List Char}
    (h : readMagnitude negative cs = some r) :
    readNumber (if negative then '-' :: cs else cs) = some r := by
  cases negative with
  | true => exact h
  | false =>
    unfold readNumber
    split
    case h_1 rest hminus =>
      -- a sign is no magnitude
      have hcs : cs = '-' :: rest := by simpa using hminus
      rw [hcs] at h
      simp [readMagnitude, isDigit, isWhole] at h
    case h_2 => exact h

/-- **Every integer is read as it is written.** -/
theorem readNumber_writeInt (i : ℤ) {rest : List Char} (hrest : EndsNumber rest) :
    readNumber (writeInt i ++ rest) = some (.int i, rest) := by
  have hread := readNumber_of_readMagnitude (readMagnitude_whole (decide (i < 0))
    (isWhole_toDigits i.natAbs) (fun c hc => isDigit_of_mem_toDigits hc) hrest)
  rw [digitsValue_toDigits] at hread
  by_cases hi : i < 0
  · have habs : -(i.natAbs : ℤ) = i := by omega
    simpa only [writeInt, hi, decide_true, if_true, habs, List.cons_append] using hread
  · have habs : (i.natAbs : ℤ) = i := by omega
    simpa only [writeInt, hi, decide_false, Bool.false_eq_true, if_false, habs] using hread

/-! ## Doubles -/

/-- A number below one: the point has a zero in front of it and zeros behind it. -/
theorem readMagnitude_zeros (negative : Bool) {cs rest : List Char} (k : ℕ) (hne : cs ≠ [])
    (hdigits : ∀ x ∈ cs, isDigit x = true) (hrest : EndsNumber rest) :
    readMagnitude negative ('0' :: '.' :: (List.replicate k '0' ++ cs ++ rest)) =
      some (.float (.ofDecimal negative (digitsValue cs) (-(k + cs.length))), rest) := by
  have hds : ∀ x ∈ List.replicate k '0' ++ cs, isDigit x = true :=
    List.forall_mem_append.2 ⟨fun _ => isDigit_of_mem_zeros, hdigits⟩
  have hread := readMagnitude_fraction negative (show isWhole ['0'] = true from rfl) (by simp)
    (by simp [hne]) hds hrest
  have hvalue : digitsValue (['0'] ++ (List.replicate k '0' ++ cs)) = digitsValue cs := by
    rw [← List.append_assoc]
    exact digitsValue_zeros_append (k + 1) cs
  rw [hvalue, List.length_append, List.length_replicate, Nat.cast_add] at hread
  exact hread

/-- A number whose digits reach behind the point. -/
theorem readMagnitude_long (negative : Bool) {c : Char} {cs rest : List Char} {n : ℕ}
    (hdigits : ∀ x ∈ c :: cs, isDigit x = true) (hc : c ≠ '0') (hlong : n < cs.length)
    (hrest : EndsNumber rest) :
    readMagnitude negative ((c :: cs).take (n + 1) ++ '.' :: ((c :: cs).drop (n + 1) ++ rest)) =
      some (.float (.ofDecimal negative (digitsValue (c :: cs)) (n + 1 - (c :: cs).length)),
        rest) := by
  have hread := readMagnitude_fraction negative (isWhole_cons hc (cs.take n))
    (fun x hx => hdigits x (List.mem_of_mem_take (i := n + 1) hx))
    (show (c :: cs).drop (n + 1) ≠ [] by simpa using hlong)
    (fun x hx => hdigits x (List.mem_of_mem_drop hx)) hrest
  have hexponent : -(((c :: cs).drop (n + 1)).length : ℤ) = n + 1 - (c :: cs).length := by
    rw [List.length_drop, List.length_cons]
    omega
  rw [hexponent, ← List.take_succ_cons, List.take_append_drop] at hread
  exact hread

/-- A number whose digits end before the point: zeros fill the gap, and one stands behind it. -/
theorem readMagnitude_short (negative : Bool) {cs rest : List Char} (k : ℕ)
    (hwhole : isWhole (cs ++ List.replicate k '0') = true)
    (hdigits : ∀ x ∈ cs, isDigit x = true) (hrest : EndsNumber rest) :
    readMagnitude negative (cs ++ List.replicate k '0' ++ '.' :: '0' :: rest) =
      some (.float (.ofDecimal negative (digitsValue cs) k), rest) := by
  have hds : ∀ x ∈ cs ++ List.replicate k '0', isDigit x = true :=
    List.forall_mem_append.2 ⟨hdigits, fun _ => isDigit_of_mem_zeros⟩
  have hread := readMagnitude_fraction negative hwhole hds (List.cons_ne_nil '0' [])
    (by simp) hrest
  have hvalue : digitsValue (cs ++ List.replicate k '0' ++ ['0']) =
      digitsValue cs * 10 ^ (k + 1) := by
    rw [List.append_assoc, ← List.replicate_succ']
    exact digitsValue_append_zeros cs (k + 1)
  have hexponent : -([('0' : Char)].length : ℤ) + (k + 1 : ℕ) = k := by simp
  rw [hvalue, Double.ofDecimal_mul_ten_pow, hexponent] at hread
  exact hread

/-- **Positional notation spells its digits times a power of ten.** -/
theorem readMagnitude_positional (negative : Bool) {c : Char} {cs rest : List Char} {lead : ℤ}
    (hdigits : ∀ x ∈ c :: cs, isDigit x = true) (hzero : c = '0' → cs = [] ∧ lead = 0)
    (hrest : EndsNumber rest) :
    readMagnitude negative (FloatStyle.positional (c :: cs) lead ++ rest) =
      some (.float (.ofDecimal negative (digitsValue (c :: cs)) (lead + 1 - (c :: cs).length)),
        rest) := by
  unfold FloatStyle.positional
  split_ifs with hlead
  · have hread := readMagnitude_zeros negative (lead.natAbs - 1) (List.cons_ne_nil c cs) hdigits
      hrest
    have hexponent : -((lead.natAbs - 1 : ℕ) + (c :: cs).length : ℤ) =
        lead + 1 - (c :: cs).length := by omega
    rw [hexponent] at hread
    exact hread
  obtain ⟨n, rfl⟩ := Int.eq_ofNat_of_zero_le (Int.not_lt.1 hlead)
  simp only [Int.natAbs_natCast]
  rcases Nat.lt_or_ge n cs.length with hlong | hshort
  · have hc : c ≠ '0' := by
      intro hc
      simp [(hzero hc).1] at hlong
    have hzeros : n + 1 - (c :: cs).length = 0 := by
      rw [List.length_cons]
      omega
    have hread := readMagnitude_long negative hdigits hc hlong hrest
    rw [hzeros, if_neg (by simpa using hlong), List.replicate_zero, List.append_nil,
      List.append_assoc, List.cons_append]
    exact hread
  · have hwhole : isWhole (c :: cs ++ List.replicate (n + 1 - (c :: cs).length) '0') = true := by
      by_cases hc : c = '0'
      · obtain ⟨rfl, hn⟩ := hzero hc
        obtain rfl : n = 0 := by omega
        simp [isWhole]
      · exact isWhole_cons hc _
    have hread := readMagnitude_short negative _ hwhole hdigits hrest
    have hexponent : ((n + 1 - (c :: cs).length : ℕ) : ℤ) = n + 1 - (c :: cs).length := by
      rw [List.length_cons]
      omega
    rw [hexponent] at hread
    rw [List.take_of_length_le (by simpa using hshort), if_pos (by simpa using hshort),
      List.append_assoc]
    exact hread

/-- The exponent of every style, padded or not, with a plus sign or without. -/
theorem readExponent_signed (lead : ℤ) (plusSign : Bool) (k : ℕ) {rest : List Char}
    (hrest : NoDigit rest) :
    readExponent ('e' :: ((if lead < 0 then ['-'] else if plusSign then ['+'] else []) ++
      (List.replicate k '0' ++ Nat.toDigits 10 lead.natAbs ++ rest))) = some (lead, rest) := by
  have hds : ∀ x ∈ List.replicate k '0' ++ Nat.toDigits 10 lead.natAbs, isDigit x = true :=
    List.forall_mem_append.2 ⟨fun _ => isDigit_of_mem_zeros, fun _ => isDigit_of_mem_toDigits⟩
  have hne : List.replicate k '0' ++ Nat.toDigits 10 lead.natAbs ≠ [] := by simp
  have hvalue : digitsValue (List.replicate k '0' ++ Nat.toDigits 10 lead.natAbs) =
      lead.natAbs := by
    rw [digitsValue_zeros_append, digitsValue_toDigits]
  generalize List.replicate k '0' ++ Nat.toDigits 10 lead.natAbs = ds at *
  have hsign : readSign ((if lead < 0 then ['-'] else if plusSign then ['+'] else []) ++
      (ds ++ rest)) = (decide (lead < 0), ds ++ rest) := by
    split_ifs with hneg hplus
    · simp [readSign, hneg]
    · simp [readSign, hneg]
    · obtain ⟨d, tail, rfl⟩ := List.exists_cons_of_ne_nil hne
      rw [List.nil_append, List.cons_append, readSign_digit (hds d (by simp))]
      simp [hneg]
  rw [readExponent_e hsign hne hds hrest, hvalue]
  congr 2
  split_ifs with hneg
  · have : lead < 0 := of_decide_eq_true hneg
    omega
  · have : ¬lead < 0 := fun h => hneg (decide_eq_true h)
    omega

/-- **Scientific notation spells its digits times a power of ten.** -/
theorem readMagnitude_scientific (style : FloatStyle) (negative : Bool) {c : Char}
    {cs rest : List Char} (lead : ℤ) (hdigits : ∀ x ∈ c :: cs, isDigit x = true)
    (hrest : EndsNumber rest) :
    readMagnitude negative (style.scientific (c :: cs) lead ++ rest) =
      some (.float (.ofDecimal negative (digitsValue (c :: cs)) (lead + 1 - (c :: cs).length)),
        rest) := by
  have hexponent := readExponent_signed lead style.plusSign
    (style.exponentWidth - (Nat.toDigits 10 lead.natAbs).length) hrest.noDigit
  have hfirst : isWhole [c] = true := by simp [isWhole]
  have hc : ∀ x ∈ [c], isDigit x = true := fun x hx => hdigits x (by simp_all)
  cases cs with
  | nil =>
    have hread := readMagnitude_power negative hfirst hc (noDigit_cons rfl _) (by simp) hexponent
    simpa [FloatStyle.scientific] using hread
  | cons d ds =>
    have hread := readMagnitude_point negative hfirst hc (List.cons_ne_nil d ds)
      (fun x hx => hdigits x (List.mem_cons_of_mem c hx)) (noDigit_cons rfl _)
      (by rw [hexponent, Option.getD_some])
    have hpower : lead - ((d :: ds).length : ℤ) = lead + 1 - (c :: d :: ds).length := by
      simp only [List.length_cons]
      omega
    rw [hpower] at hread
    simpa [FloatStyle.scientific] using hread

/-- The digits of a finite double: a zero in front stands alone. -/
theorem exists_significant_shortest {units : ℕ} (hx : (Double.finite false units).IsDouble) :
    ∃ c cs, (Decimal.shortest units).significant = c :: cs ∧
      (∀ x ∈ c :: cs, isDigit x = true) ∧ (c = '0' → cs = [] ∧ units = 0) := by
  rcases Nat.eq_zero_or_pos units with rfl | hpos
  · exact ⟨'0', [], rfl, by simp, fun _ => ⟨rfl, rfl⟩⟩
  · obtain ⟨c, cs, hcons, hc, hdigits⟩ :=
      Decimal.exists_significant_eq_cons (Decimal.shortest_digits_pos hpos hx)
    exact ⟨c, cs, hcons, hdigits, fun h => absurd h hc⟩

/-- **Every finite double is read as it is written**, in every style. -/
theorem readNumber_write (style : FloatStyle) {x : Double} (hx : x.IsDouble) {rest : List Char}
    (hrest : EndsNumber rest) :
    readNumber ((style.write x).toList ++ rest) = some (.float x, rest) := by
  cases x with
  | nan => exact hx.elim
  | infinite negative => exact hx.elim
  | finite negative units =>
    obtain ⟨c, cs, hcons, hdigits, hzero⟩ := exists_significant_shortest hx
    simp only [FloatStyle.write, String.toList_ofList]
    set lead : ℤ := if units = 0 then 0 else
      (Nat.toDigits 10 (Decimal.shortest units).digits).length - 1 +
        (Decimal.shortest units).exponent with hlead
    have hvalue := Decimal.ofDecimal_significant hx negative hlead
    have hzero' : c = '0' → cs = [] ∧ lead = 0 := by
      intro hc
      obtain ⟨hcs, hunits⟩ := hzero hc
      exact ⟨hcs, by rw [hlead, if_pos hunits]⟩
    rw [hcons] at hvalue ⊢
    have hread : readMagnitude negative ((if style.leastPositional ≤ lead &&
        lead ≤ style.greatestPositional then FloatStyle.positional (c :: cs) lead
        else style.scientific (c :: cs) lead) ++ rest) =
        some (.float (.finite negative units), rest) := by
      split_ifs
      · rw [readMagnitude_positional negative hdigits hzero' hrest, hvalue]
      · rw [readMagnitude_scientific style negative lead hdigits hrest, hvalue]
    rw [← readNumber_of_readMagnitude hread]
    cases negative <;> rfl

end SmellScan.Json
