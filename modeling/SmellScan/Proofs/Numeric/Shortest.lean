import SmellScan.Proofs.Numeric.Digits
import SmellScan.Proofs.Numeric.Rounding

/-!
# The shortest decimal reads back

A quotient that differs from a number of 53 significant bits by less than its `2 ^ 54`th part is
rounded to that number (`roundUnits_of_near`). Seventeen digits come that near, so the search for
the fewest digits that read back ends with some (`readsAs_shortest`).

What a decimal reads as depends on its value alone: a power of ten may move between its digits and
its exponent (`ofDecimal_mul_ten_pow`).
-/

namespace SmellScan.Double

/-- The number is finite and one of the format: its magnitude has at most 53 significant bits and
is below the limit. -/
def IsDouble : Double → Prop
  | .finite _ units => 2 ^ (units.log2 - 52) ∣ units ∧ units < limit
  | _ => False

instance : DecidablePred IsDouble
  | .nan => inferInstanceAs (Decidable False)
  | .infinite _ => inferInstanceAs (Decidable False)
  | .finite _ units => inferInstanceAs (Decidable (2 ^ (units.log2 - 52) ∣ units ∧ units < limit))

/-! ## Quotients near a number -/

/-- A quotient less than a half away from an integer is rounded to it. -/
theorem roundHalfEven_eq_of_near {num den k : ℕ} (hlo : 2 * (k * den) < 2 * num + den)
    (hhi : 2 * num < 2 * (k * den) + den) : roundHalfEven num den = k := by
  have hden : 0 < den := by omega
  have hdiv := Nat.div_add_mod num den
  have hmod := Nat.mod_lt num hden
  set q := num / den with hq
  rw [Nat.mul_comm] at hdiv
  have hqk : q ≤ k := by
    by_contra hlt
    have := Nat.mul_le_mul_right den (show k + 1 ≤ q by omega)
    rw [Nat.add_mul] at this
    omega
  have hkq : k ≤ q + 1 := by
    by_contra hlt
    have := Nat.mul_le_mul_right den (show q + 2 ≤ k by omega)
    rw [Nat.add_mul] at this
    omega
  simp only [roundHalfEven, ← hq]
  obtain rfl | rfl : k = q ∨ k = q + 1 := by omega
  · rw [if_pos (by omega)]
  · rw [Nat.add_mul] at hlo hhi
    rw [if_neg (by omega), if_pos (by omega)]

/-- Rounding to an integer moves a quotient by a half at most. -/
theorem roundHalfEven_error (num : ℕ) {den : ℕ} (hden : 0 < den) :
    2 * num ≤ 2 * (roundHalfEven num den * den) + den ∧
      2 * (roundHalfEven num den * den) ≤ 2 * num + den := by
  have hdiv := Nat.div_add_mod num den
  have hmod := Nat.mod_lt num hden
  have hsucc : (num / den + 1) * den = num / den * den + den := Nat.succ_mul _ _
  rw [Nat.mul_comm] at hdiv
  simp only [roundHalfEven]
  split_ifs <;> omega

/-- On a grid that is fine enough for a number, quotients near the number are rounded to it. -/
theorem roundUnits_of_near_grid {num den units s : ℕ}
    (hs : (num / den).log2 - 52 = s) (hdvd : 2 ^ s ∣ units) (hle : units ≤ 2 ^ 53 * 2 ^ s)
    (hlo : 2 ^ 54 * (units * den) < 2 ^ 54 * num + units * den)
    (hhi : 2 ^ 54 * num < 2 ^ 54 * (units * den) + units * den) : roundUnits num den = units := by
  obtain ⟨k, rfl⟩ := hdvd
  have hstep : 2 ^ s * k * den ≤ 2 ^ 53 * (den * 2 ^ s) :=
    calc 2 ^ s * k * den ≤ 2 ^ 53 * 2 ^ s * den := Nat.mul_le_mul_right den hle
      _ = 2 ^ 53 * (den * 2 ^ s) := by ring
  have hk : 2 ^ s * k * den = k * (den * 2 ^ s) := by ring
  rw [hk] at hstep hlo hhi
  rw [roundUnits_eq, hs, Nat.mul_comm (2 ^ s) k]
  congr 1
  exact roundHalfEven_eq_of_near (by omega) (by omega)

/-- The grid of a quotient with 53 bits in front of it, or of fewer bits on the finest grid. -/
theorem log2_sub_eq {q s : ℕ} (hlt : q < 2 ^ 53 * 2 ^ s) (hge : s ≠ 0 → 2 ^ 52 * 2 ^ s ≤ q) :
    q.log2 - 52 = s := by
  rw [← Nat.pow_add] at hlt hge
  rcases eq_or_ne q 0 with rfl | hq
  · by_contra hs
    have := hge (by simpa using Ne.symm hs)
    have := Nat.two_pow_pos (52 + s)
    omega
  · have hupper := (Nat.log2_lt hq).2 hlt
    have hlower : s ≠ 0 → 52 + s ≤ q.log2 := fun hs => (Nat.le_log2 hq).2 (hge hs)
    omega

/-- **A quotient within the `2 ^ 54`th part of a number of 53 significant bits is rounded to
it.** -/
theorem roundUnits_of_near {num den units : ℕ} (hden : 0 < den)
    (hdvd : 2 ^ (units.log2 - 52) ∣ units)
    (hlo : 2 ^ 54 * (units * den) < 2 ^ 54 * num + units * den)
    (hhi : 2 ^ 54 * num < 2 ^ 54 * (units * den) + units * den) : roundUnits num den = units := by
  have hunits : units ≠ 0 := by
    rintro rfl
    omega
  have hlt : units < 2 ^ 53 * 2 ^ (units.log2 - 52) := by
    rw [← Nat.pow_add]
    exact Nat.lt_log2_self.trans_le (Nat.pow_le_pow_right (by omega) (by omega))
  have hge : units.log2 - 52 ≠ 0 → 2 ^ 52 * 2 ^ (units.log2 - 52) ≤ units := by
    intro hs
    rw [← Nat.pow_add, Nat.add_sub_of_le (by omega)]
    exact Nat.log2_self_le hunits
  set s := units.log2 - 52
  -- the number is `m` steps of its grid, and all else is counted in the same steps
  obtain ⟨m, hm⟩ := id hdvd
  have hsteps : units * den = m * (2 ^ s * den) := by
    rw [hm]
    ring
  have hm53 : m < 2 ^ 53 := by
    rw [hm, Nat.mul_comm] at hlt
    exact Nat.lt_of_mul_lt_mul_right hlt
  have hq : num / den < 2 ^ 53 * 2 ^ s := by
    have := Nat.mul_le_mul_right (2 ^ s * den) (show m ≤ 2 ^ 53 - 1 by omega)
    rw [Nat.div_lt_iff_lt_mul hden, Nat.mul_assoc]
    omega
  by_cases hsame : s ≠ 0 → 2 ^ 52 * 2 ^ s ≤ num / den
  · exact roundUnits_of_near_grid (log2_sub_eq hq hsame) hdvd hlt.le hlo hhi
  · -- below a power of two the grid is twice as fine, and only that power has quotients near it
    obtain ⟨hs, hbelow⟩ : s ≠ 0 ∧ num / den < 2 ^ 52 * 2 ^ s := by omega
    obtain ⟨t, ht⟩ := Nat.exists_eq_succ_of_ne_zero hs
    have htwo : 2 ^ s = 2 * 2 ^ t := by rw [ht, Nat.pow_succ, Nat.mul_comm]
    have hnum : num < 2 ^ 52 * (2 ^ s * den) := by
      rw [← Nat.mul_assoc]
      exact (Nat.div_lt_iff_lt_mul hden).1 (by omega)
    have hm52 : m = 2 ^ 52 := by
      have hle : 2 ^ 52 ≤ m := by
        have := hge hs
        rw [hm, Nat.mul_comm] at this
        exact Nat.le_of_mul_le_mul_left this (Nat.two_pow_pos s)
      by_contra hne
      have := Nat.mul_le_mul_right (2 ^ s * den) (show 2 ^ 52 + 1 ≤ m by omega)
      omega
    rw [hm52] at hsteps hm
    have hq' : 2 ^ 52 * 2 ^ t ≤ num / den := by
      rw [Nat.le_div_iff_mul_le hden, Nat.mul_assoc]
      rw [htwo, Nat.mul_assoc 2] at hsteps
      omega
    refine roundUnits_of_near_grid (log2_sub_eq (by omega) fun _ => hq') ?_ (by omega) hlo hhi
    exact (Dvd.intro_left 2 htwo.symm).trans hdvd

/-! ## Decimals -/

theorem roundHalfEven_mul_mul (num den : ℕ) {k : ℕ} (hk : 0 < k) :
    roundHalfEven (num * k) (den * k) = roundHalfEven num den := by
  simp only [roundHalfEven, Nat.mul_div_mul_right _ _ hk, Nat.mul_mod_mul_right,
    ← Nat.mul_assoc, Nat.mul_lt_mul_right hk]

theorem roundUnits_mul_mul (num den : ℕ) {k : ℕ} (hk : 0 < k) :
    roundUnits (num * k) (den * k) = roundUnits num den := by
  simp only [roundUnits_eq, Nat.mul_div_mul_right _ _ hk]
  rw [Nat.mul_right_comm, roundHalfEven_mul_mul _ _ hk]

/-- Equal quotients are rounded alike. -/
theorem roundUnits_congr {num den num' den' : ℕ} (hden : 0 < den) (hden' : 0 < den')
    (h : num * den' = num' * den) : roundUnits num den = roundUnits num' den' := by
  rw [← roundUnits_mul_mul num den hden', h, Nat.mul_comm den, roundUnits_mul_mul _ _ hden]

/-- The number of digits in front of the point: a decimal within reach is rounded as a quotient of
powers of ten, of which one is `1`. -/
theorem ofDecimal_eq (negative : Bool) {digits : ℕ} {exponent : ℤ} (hdigits : 0 < digits)
    (hlo : -340 ≤ (Nat.toDigits 10 digits).length + exponent)
    (hhi : (Nat.toDigits 10 digits).length + exponent ≤ 320) :
    ofDecimal negative digits exponent =
      ofUnits negative (digits * (unitsPerOne * 10 ^ exponent.toNat)) (10 ^ (-exponent).toNat) := by
  simp only [ofDecimal]
  rw [if_neg (by simp; omega), if_neg (by omega)]
  split_ifs with hneg
  · have hpow : exponent.toNat = 0 := by omega
    have habs : exponent.natAbs = (-exponent).toNat := by omega
    rw [hpow, habs, Nat.pow_zero, Nat.mul_one]
    rfl
  · have hpow : (-exponent).toNat = 0 := by omega
    have habs : exponent.natAbs = exponent.toNat := by omega
    rw [hpow, habs, Nat.pow_zero, Nat.mul_assoc]
    rfl

/-- **A power of ten may move between the digits and the exponent of a decimal.** -/
theorem ofDecimal_mul_ten_pow (negative : Bool) (digits k : ℕ) (exponent : ℤ) :
    ofDecimal negative (digits * 10 ^ k) exponent = ofDecimal negative digits (exponent + k) := by
  rcases Nat.eq_zero_or_pos digits with rfl | hdigits
  · simp [ofDecimal]
  have hpos : 0 < digits * 10 ^ k := Nat.mul_pos hdigits (by positivity)
  have hlength : ((Nat.toDigits 10 (digits * 10 ^ k)).length : ℤ) + exponent =
      (Nat.toDigits 10 digits).length + (exponent + k) := by
    rw [toDigits_mul_ten_pow hdigits, List.length_append, List.length_replicate]
    omega
  by_cases hlo : (Nat.toDigits 10 digits).length + (exponent + k) < -340
  · simp [ofDecimal, hlength, hlo]
  by_cases hhi : 320 < (Nat.toDigits 10 digits).length + (exponent + k)
  · simp [ofDecimal, hlength, hlo, hhi, hdigits.ne']
  rw [ofDecimal_eq negative hpos (by omega) (by omega),
    ofDecimal_eq negative hdigits (by omega) (by omega)]
  have hcross : digits * 10 ^ k * (unitsPerOne * 10 ^ exponent.toNat) *
        10 ^ (-(exponent + k)).toNat =
      digits * (unitsPerOne * 10 ^ (exponent + k).toNat) * 10 ^ (-exponent).toNat := by
    have hpow : 10 ^ k * 10 ^ exponent.toNat * 10 ^ (-(exponent + k)).toNat =
        10 ^ (exponent + k).toNat * 10 ^ (-exponent).toNat := by
      rw [← Nat.pow_add, ← Nat.pow_add, ← Nat.pow_add]
      congr 1
      omega
    calc digits * 10 ^ k * (unitsPerOne * 10 ^ exponent.toNat) * 10 ^ (-(exponent + k)).toNat
        = digits * unitsPerOne *
            (10 ^ k * 10 ^ exponent.toNat * 10 ^ (-(exponent + k)).toNat) := by ring
      _ = digits * unitsPerOne * (10 ^ (exponent + k).toNat * 10 ^ (-exponent).toNat) := by
          rw [hpow]
      _ = digits * (unitsPerOne * 10 ^ (exponent + k).toNat) * 10 ^ (-exponent).toNat := by ring
  simp only [ofUnits, roundUnits_congr (by positivity) (by positivity) hcross]

/-- The sign of a decimal is that of the number. -/
theorem ofDecimal_sign {digits units : ℕ} {exponent : ℤ}
    (h : ofDecimal false digits exponent = .finite false units) (negative : Bool) :
    ofDecimal negative digits exponent = .finite negative units := by
  simp only [ofDecimal, ofUnits] at h ⊢
  split_ifs at h ⊢ <;> simp_all

end SmellScan.Double

namespace SmellScan.Decimal

open Double

theorem scaled_eq (units : ℕ) (exponent : ℤ) :
    scaled units exponent =
      (units * 10 ^ (-exponent).toNat, unitsPerOne * 10 ^ exponent.toNat) := by
  simp only [scaled]
  split_ifs with hneg
  · have hpow : exponent.toNat = 0 := by omega
    have habs : exponent.natAbs = (-exponent).toNat := by omega
    rw [hpow, habs, Nat.pow_zero, Nat.mul_one]
    rfl
  · have hpow : (-exponent).toNat = 0 := by omega
    have habs : exponent.natAbs = exponent.toNat := by omega
    rw [hpow, habs, Nat.pow_zero, Nat.mul_one]
    rfl

theorem unitsPerOne_pos : 0 < unitsPerOne := by
  unfold unitsPerOne
  generalize 1074 = k
  exact Nat.two_pow_pos k

/-- The power of ten of the leading digit of every finite number is within the reach of reading. -/
theorem leadingExponent_bounds {units : ℕ} (hpos : 0 < units) (hlimit : units < limit) :
    -341 ≤ leadingExponent units ∧ leadingExponent units ≤ 318 := by
  have hsmall : 10 ^ 59 * unitsPerOne ≤ Nat.pow 10 400 := by decide +kernel
  obtain ⟨top, htop, hlarge⟩ : ∃ top, top = 719 ∧
      limit * Nat.pow 10 400 ≤ 10 ^ top * unitsPerOne := ⟨719, rfl, by decide +kernel⟩
  have hone := unitsPerOne_pos
  unfold leadingExponent
  -- the constants are too large to compute with
  generalize Nat.pow 10 400 = scale at *
  generalize unitsPerOne = one at *
  generalize limit = bound at *
  have hscale : 0 < scale := (Nat.mul_pos (by positivity) hone).trans_le hsmall
  have hlo : ¬(Nat.toDigits 10 (units * scale / one)).length ≤ 59 := by
    rw [Nat.length_toDigits_le_iff (by omega) (by omega), Nat.not_lt, Nat.le_div_iff_mul_le hone]
    exact hsmall.trans (Nat.le_mul_of_pos_left scale hpos)
  have hhi : (Nat.toDigits 10 (units * scale / one)).length ≤ top := by
    rw [Nat.length_toDigits_le_iff (by omega) (by omega), Nat.div_lt_iff_lt_mul hone]
    exact (Nat.mul_lt_mul_of_pos_right hlimit hscale).trans_le hlarge
  omega

/-- Powers of ten whose exponents differ by an integer. -/
theorem ten_pow_mul_eq {a b : ℕ} (exponent : ℤ) (h : exponent = a - b) :
    10 ^ a * 10 ^ (-exponent).toNat = 10 ^ b * 10 ^ exponent.toNat := by
  rw [← Nat.pow_add, ← Nat.pow_add]
  congr 1
  omega

/-- A magnitude over the sixteenth power of ten below its leading digit has seventeen digits in
front of the point. -/
theorem scaled_bounds {units : ℕ} {exponent : ℤ} (hpos : 0 < units)
    (hexponent : exponent = leadingExponent units - 16) :
    10 ^ 16 * (unitsPerOne * 10 ^ exponent.toNat) ≤ units * 10 ^ (-exponent).toNat ∧
      units * 10 ^ (-exponent).toNat < 10 ^ 17 * (unitsPerOne * 10 ^ exponent.toNat) := by
  have hone := unitsPerOne_pos
  obtain ⟨k, hk, hlead, hbig⟩ : ∃ k, k = 400 ∧ leadingExponent units =
      (Nat.toDigits 10 (units * Nat.pow 10 k / unitsPerOne)).length - 401 ∧
      unitsPerOne ≤ Nat.pow 10 k := ⟨400, rfl, rfl, by decide +kernel⟩
  rw [Nat.pow_eq] at hlead hbig
  generalize unitsPerOne = one at *
  set n := units * 10 ^ k / one
  have hn : 0 < n := Nat.div_pos (hbig.trans (Nat.le_mul_of_pos_left _ hpos)) hone
  have hlower : 10 ^ ((Nat.toDigits 10 n).length - 1) * one ≤ units * 10 ^ k :=
    (Nat.le_div_iff_mul_le hone).1 (ten_pow_length_le hn)
  have hupper : units * 10 ^ k < 10 ^ (Nat.toDigits 10 n).length * one :=
    (Nat.div_lt_iff_lt_mul hone).1 (lt_ten_pow_length n)
  have hlength := Nat.length_toDigits_pos (b := 10) (n := n)
  set len := (Nat.toDigits 10 n).length
  -- times `10 ^ k`, the two sides are the bounds of `n` times a power of ten
  have hk10 : 0 < 10 ^ k := by positivity
  constructor
  · refine Nat.le_of_mul_le_mul_left ?_ hk10
    have hpow := ten_pow_mul_eq (a := len - 1) (b := k + 16) exponent (by omega)
    calc 10 ^ k * (10 ^ 16 * (one * 10 ^ exponent.toNat))
        = one * (10 ^ (k + 16) * 10 ^ exponent.toNat) := by ring
      _ = 10 ^ (len - 1) * one * 10 ^ (-exponent).toNat := by rw [← hpow]; ring
      _ ≤ units * 10 ^ k * 10 ^ (-exponent).toNat := Nat.mul_le_mul_right _ hlower
      _ = 10 ^ k * (units * 10 ^ (-exponent).toNat) := by ring
  · refine Nat.lt_of_mul_lt_mul_left (a := 10 ^ k) ?_
    have hpow := ten_pow_mul_eq (a := len) (b := k + 17) exponent (by omega)
    calc 10 ^ k * (units * 10 ^ (-exponent).toNat)
        = units * 10 ^ k * 10 ^ (-exponent).toNat := by ring
      _ < 10 ^ len * one * 10 ^ (-exponent).toNat :=
          Nat.mul_lt_mul_of_pos_right hupper (by positivity)
      _ = one * (10 ^ (k + 17) * 10 ^ exponent.toNat) := by rw [← hpow]; ring
      _ = 10 ^ k * (10 ^ 17 * (one * 10 ^ exponent.toNat)) := by ring

/-- The nearest decimal of seventeen digits reads back. -/
theorem readsAs_roundHalfEven {units : ℕ} {exponent : ℤ} (hpos : 0 < units)
    (hdouble : (Double.finite false units).IsDouble)
    (hexponent : exponent = leadingExponent units - 16) :
    readsAs units ⟨roundHalfEven (units * 10 ^ (-exponent).toNat)
      (unitsPerOne * 10 ^ exponent.toNat), exponent⟩ = true := by
  obtain ⟨hdvd, hlimit⟩ := hdouble
  obtain ⟨hreachLo, hreachHi⟩ := leadingExponent_bounds hpos hlimit
  obtain ⟨hlower, hupper⟩ := scaled_bounds hpos hexponent
  have hden : 0 < unitsPerOne * 10 ^ exponent.toNat := Nat.mul_pos unitsPerOne_pos (by positivity)
  set num := units * 10 ^ (-exponent).toNat with hnum
  set den := unitsPerOne * 10 ^ exponent.toNat with hdendef
  obtain ⟨herrorLo, herrorHi⟩ := roundHalfEven_error num hden
  have hdigitsLo : 10 ^ 16 ≤ roundHalfEven num den := le_roundHalfEven_of_mul_le hden hlower
  have hdigitsHi : roundHalfEven num den ≤ 10 ^ 17 := roundHalfEven_le_of_le_mul hden hupper.le
  set digits := roundHalfEven num den
  have hlengthLo : ¬(Nat.toDigits 10 digits).length ≤ 16 := by
    rw [Nat.length_toDigits_le_iff (by omega) (by omega)]
    omega
  have hlengthHi : (Nat.toDigits 10 digits).length ≤ 18 := by
    rw [Nat.length_toDigits_le_iff (by omega) (by omega)]
    omega
  have hunits : roundUnits (digits * den) (10 ^ (-exponent).toNat) = units :=
    roundUnits_of_near (by positivity) hdvd (by omega) (by omega)
  have hread : ofDecimal false digits exponent = .finite false units := by
    rw [ofDecimal_eq false (by omega) (by omega) (by omega), ← hdendef]
    simp only [ofUnits, hunits, if_pos hlimit]
  simpa [readsAs] using hread

theorem roundHalfEven_eq_div_or (num den : ℕ) :
    roundHalfEven num den = num / den ∨ roundHalfEven num den = num / den + 1 := by
  have := div_le_roundHalfEven num den
  have := roundHalfEven_le_div_add_one num den
  omega

/-- A decimal that is found reads back. -/
theorem readsAs_of_ofLength? {units count : ℕ} {lead : ℤ} {d : Decimal}
    (h : ofLength? units lead count = some d) : readsAs units d = true := by
  simp only [ofLength?] at h
  split at h
  case h_1 hbelow habove =>
    obtain rfl := Option.some.inj h
    rcases roundHalfEven_eq_div_or (scaled units (lead - (count - 1 : ℕ))).1
      (scaled units (lead - (count - 1 : ℕ))).2 with hr | hr
    · rwa [hr]
    · rwa [hr]
  case h_2 hbelow _ =>
    obtain rfl := Option.some.inj h
    exact hbelow
  case h_3 _ habove =>
    obtain rfl := Option.some.inj h
    exact habove
  case h_4 => cases h

/-- Where the nearest decimal reads back, one is found: it is one of the two neighbours. -/
theorem ofLength?_ne_none {units count : ℕ} {lead exponent : ℤ}
    (hexponent : exponent = lead - (count - 1 : ℕ))
    (h : readsAs units ⟨roundHalfEven (scaled units exponent).1 (scaled units exponent).2,
      exponent⟩ = true) : ofLength? units lead count ≠ none := by
  intro hnone
  subst hexponent
  simp only [ofLength?] at hnone
  split at hnone
  case h_4 hbelow habove =>
    rcases roundHalfEven_eq_div_or (scaled units (lead - (count - 1 : ℕ))).1
      (scaled units (lead - (count - 1 : ℕ))).2 with hr | hr
    · rw [hr, hbelow] at h
      cases h
    · rw [hr, habove] at h
      cases h
  all_goals cases hnone

/-- **The shortest decimal of a magnitude above zero reads back as the magnitude.** -/
theorem readsAs_shortest {units : ℕ} (hpos : 0 < units)
    (hdouble : (Double.finite false units).IsDouble) : readsAs units (shortest units) = true := by
  simp only [shortest, if_neg hpos.ne']
  cases hfind : (List.range 17).findSome? fun i =>
      ofLength? units (leadingExponent units) (i + 1) with
  | none =>
    -- seventeen digits suffice
    exfalso
    refine ofLength?_ne_none rfl ?_ (List.findSome?_eq_none_iff.1 hfind 16 (by simp))
    rw [scaled_eq]
    exact readsAs_roundHalfEven hpos hdouble (by simp)
  | some d =>
    obtain ⟨i, -, hi⟩ := List.exists_of_findSome?_eq_some hfind
    exact readsAs_of_ofLength? hi

theorem shortest_digits_pos {units : ℕ} (hpos : 0 < units)
    (hdouble : (Double.finite false units).IsDouble) : 0 < (shortest units).digits := by
  have hread := readsAs_shortest hpos hdouble
  by_contra hzero
  have hdigits : (shortest units).digits = 0 := by omega
  simp only [readsAs, hdigits, ofDecimal, decide_true, Bool.true_or, if_true, beq_iff_eq,
    Double.finite.injEq, true_and] at hread
  omega

/-- The significant digits, with the point behind the power of ten of the first, read as the
number. -/
theorem ofDecimal_significant {units : ℕ} (hdouble : (Double.finite false units).IsDouble)
    (negative : Bool) {lead : ℤ} (hlead : lead = if units = 0 then 0 else
      (Nat.toDigits 10 (shortest units).digits).length - 1 + (shortest units).exponent) :
    ofDecimal negative (digitsValue (shortest units).significant)
      (lead + 1 - (shortest units).significant.length) = .finite negative units := by
  rcases Nat.eq_zero_or_pos units with rfl | hpos
  · rfl
  · rw [if_neg hpos.ne'] at hlead
    obtain ⟨k, hk⟩ := exists_toDigits_eq_significant (shortest_digits_pos hpos hdouble)
    have hread : ofDecimal false (shortest units).digits (shortest units).exponent =
        .finite false units := by
      simpa [readsAs] using readsAs_shortest hpos hdouble
    have hlength := congrArg List.length hk
    have hdigits : (shortest units).digits = digitsValue (shortest units).significant * 10 ^ k := by
      rw [← digitsValue_append_zeros, ← hk, digitsValue_toDigits]
    rw [List.length_append, List.length_replicate] at hlength
    rw [hdigits, ofDecimal_mul_ten_pow] at hread
    rw [← ofDecimal_sign hread negative]
    congr 1
    omega

end SmellScan.Decimal
