import DocAccess.Document.Number
import DocAccess.Proofs.Decimal.Rounding

/-!
# Reading decimals within range

A text with a fraction or an exponent is read as a double if the decimal that it spells stays two and a
half units in the last place below the first power of two that no double reaches.  The significand is cut
off at 64 bits, the power of ten and the product are rounded, and none of this comes to that much.

* `appendDigits_eq` — what of the digits goes into the significand.
* `exists_scale?`, `exists_doubleOfParts?` — reading is not out of range.
-/

namespace DocAccess.Document.Number

open DocAccess.Decimal

/-! ### Bounds -/

/-- What a text may spell at most. -/
def readable : ℚ := (2 ^ 54 - 5) * 2 ^ 970

/-- Two roundings do not lead out of range. -/
theorem readable_mul_lt_limit : readable * (1 + 1 / 2 ^ 53) ^ 2 < Double.limit := by
  have hpower : (0 : ℚ) < 2 ^ 970 := by positivity
  unfold readable Double.limit
  generalize (2 : ℚ) ^ 970 = power at hpower
  nlinarith

theorem ten_pow_lt_limit {k : Nat} (hk : k ≤ 308) : (10 : ℚ) ^ k < Double.limit := by
  have hlast : ((10 ^ 308 : Nat) : ℚ) < ((18014398509481983 * 2 ^ 970 : Nat) : ℚ) :=
    Nat.cast_lt.mpr (by decide +kernel)
  have hfront : (2 : ℚ) ^ 54 - 1 = 18014398509481983 := by norm_num
  rw [Nat.cast_pow, Nat.cast_mul, Nat.cast_pow, Nat.cast_ofNat, Nat.cast_ofNat, Nat.cast_ofNat]
    at hlast
  rw [Double.limit, hfront]
  exact (pow_le_pow_right₀ (by norm_num) hk).trans_lt hlast

theorem readable_lt : readable < 10 ^ 309 := by
  have hlast : ((18014398509481979 * 2 ^ 970 : Nat) : ℚ) < ((10 ^ 309 : Nat) : ℚ) :=
    Nat.cast_lt.mpr (by decide +kernel)
  have hfront : (2 : ℚ) ^ 54 - 5 = 18014398509481979 := by norm_num
  rw [Nat.cast_pow, Nat.cast_mul, Nat.cast_pow, Nat.cast_ofNat, Nat.cast_ofNat, Nat.cast_ofNat]
    at hlast
  rw [readable, hfront]
  exact hlast

/-! ### Scaling -/

/-- A significand is rounded up by no more than its slack. -/
theorem ofInt_value_le {n : Nat} (hn : n ≤ maxSignificand) :
    (Double.ofInt n).value ≤ n * (1 + 1 / 2 ^ 53) := by
  rcases Nat.eq_zero_or_pos n with rfl | hpos
  · simp [Double.value, Double.ofInt, Double.ofRatio?, Double.zero]
  · have hsize : (n : ℚ) < 10 ^ 20 := by
      have hmax : maxSignificand < 10 ^ 20 := by decide
      exact_mod_cast hn.trans_lt hmax
    have hnear := Double.ofInt_near hpos (hsize.trans (ten_pow_lt_limit (by decide)))
    have habove := (abs_le.mp hnear).2
    linarith

/-- Division by a power of ten does not leave the range of the significands. -/
theorem exists_div?_powerOfTen? {d : Double} {k : Nat} (hk : 0 < k) (hmax : k ≤ 308)
    (hd : d.value ≤ 2 ^ 65) :
    ∃ p r, Double.powerOfTen? k = some p ∧ d.div? p = some r ∧ r.value ≤ 2 ^ 65 := by
  obtain ⟨p, hp, hnear⟩ := Double.powerOfTen?_near (ten_pow_lt_limit hmax)
  have hten : (10 : ℚ) ≤ 10 ^ k := le_self_pow₀ (by norm_num) hk.ne'
  -- rounding takes less than the half from a power of ten
  have hlarge : 2 ≤ p.value := by
    have hbelow := (abs_le.mp hnear).1
    linarith
  have hmantissa : 0 < p.mantissa := by
    apply Nat.pos_of_ne_zero
    intro hzero
    rw [Double.value, hzero, Nat.cast_zero, zero_mul] at hlarge
    norm_num at hlarge
  have hquotient : d.value / p.value ≤ 2 ^ 64 := by
    rw [div_le_iff₀ (by linarith)]
    calc d.value ≤ 2 ^ 64 * 2 := by linarith
      _ ≤ 2 ^ 64 * p.value := by gcongr
  have hrange : d.value / p.value < Double.limit := by
    refine (hquotient.trans_lt ?_).trans (ten_pow_lt_limit (k := 20) (by decide))
    norm_num
  obtain ⟨r, hr, hround⟩ := Double.div?_near hmantissa hrange
  refine ⟨p, r, hp, hr, ?_⟩
  -- the quotient is far enough below the bound that rounding it stays there
  have hslack : Double.slack (d.value / p.value) ≤ 2 ^ 64 / 2 := by
    apply max_le
    · calc d.value / p.value / 2 ^ 53 ≤ 2 ^ 64 / 2 ^ 53 := by gcongr
        _ ≤ 2 ^ 64 / 2 := by norm_num
    · have hone : (1 : ℚ) / 2 ^ 1075 ≤ 1 :=
        div_le_one_of_le₀ (one_le_pow₀ one_le_two) (by positivity)
      refine hone.trans ?_
      norm_num
  have habove := (abs_le.mp hround).2
  linarith

theorem exists_shrink (fuel : Nat) {d : Double} {exponent : Int} (hexponent : exponent < 0)
    (hd : d.value ≤ 2 ^ 65) : ∃ r, shrink fuel d exponent = some r := by
  induction fuel generalizing d exponent with
  | zero => exact ⟨d, rfl⟩
  | succ fuel ih =>
      unfold shrink
      split
      · next hlast =>
          obtain ⟨p, r, hp, hr, -⟩ :=
            exists_div?_powerOfTen? (k := exponent.natAbs) (by omega) (by omega) hd
          exact ⟨r, by simp [hp, hr]⟩
      split
      · exact ⟨d, rfl⟩
      · obtain ⟨p, r, hp, hr, hvalue⟩ :=
          exists_div?_powerOfTen? (k := 308) (by decide) (by decide) hd
        have hnegative : exponent + 308 < 0 := by omega
        obtain ⟨r', hr'⟩ := ih hnegative hvalue
        exact ⟨r', by simp [hp, hr, hr']⟩

/-- A significand that is readable with more zeros than any double has is zero. -/
theorem eq_zero_of_mul_le_readable {significand k : Nat} (hk : 308 < k)
    (hvalue : (significand : ℚ) * 10 ^ k ≤ readable) : significand = 0 := by
  by_contra hne
  have hone : (1 : ℚ) ≤ significand := by exact_mod_cast Nat.one_le_iff_ne_zero.mpr hne
  have hpower : (10 : ℚ) ^ 309 ≤ 10 ^ k := pow_le_pow_right₀ (by norm_num) hk
  have hproduct : (10 : ℚ) ^ k ≤ readable :=
    (le_mul_of_one_le_left (by positivity) hone).trans hvalue
  exact absurd (hpower.trans hproduct) (not_le.mpr readable_lt)

/-- A readable product of a significand and a power of ten is not out of range, although both are
rounded before. -/
theorem exists_mul?_powerOfTen? {significand k : Nat} (hmax : significand ≤ maxSignificand)
    (hk : k ≤ 308) (hvalue : (significand : ℚ) * 10 ^ k ≤ readable) :
    ∃ p r, Double.powerOfTen? k = some p ∧ (Double.ofInt significand).mul? p = some r := by
  have hround := ofInt_value_le hmax
  obtain ⟨p, hp, hnear⟩ := Double.powerOfTen?_near (ten_pow_lt_limit hk)
  have hpower : p.value ≤ 10 ^ k * (1 + 1 / 2 ^ 53) := by
    have habove := (abs_le.mp hnear).2
    linarith
  have hrange : (Double.ofInt significand).value * p.value < Double.limit := by
    refine lt_of_le_of_lt ?_ readable_mul_lt_limit
    calc (Double.ofInt significand).value * p.value
        ≤ significand * (1 + 1 / 2 ^ 53) * (10 ^ k * (1 + 1 / 2 ^ 53)) :=
          mul_le_mul hround hpower p.value_nonneg (by positivity)
      _ = significand * 10 ^ k * (1 + 1 / 2 ^ 53) ^ 2 := by ring
      _ ≤ readable * (1 + 1 / 2 ^ 53) ^ 2 := by gcongr
  obtain ⟨r, hr, -⟩ := Double.mul?_near hrange
  exact ⟨p, r, hp, hr⟩

/-- Scaling a significand up leads to a double as long as the product is readable; scaling it down
always does. -/
theorem exists_scale? {significand : Nat} {exponent : Int} (hmax : significand ≤ maxSignificand)
    (hvalue : 0 ≤ exponent → (significand : ℚ) * 10 ^ exponent.natAbs ≤ readable) :
    ∃ r, scale? significand exponent = some r := by
  simp only [scale?]
  split
  · next hpos =>
      have hproduct := hvalue hpos
      split
      · next hsmall =>
          obtain ⟨p, r, hp, hr⟩ := exists_mul?_powerOfTen? hmax (by omega) hproduct
          exact ⟨r, by simp [hp, hr]⟩
      · next hlarge =>
          obtain rfl := eq_zero_of_mul_le_readable (by omega) hproduct
          exact ⟨_, rfl⟩
  · next hneg =>
      apply exists_shrink _ (by omega)
      refine (ofInt_value_le hmax).trans ?_
      have hsize : (significand : ℚ) ≤ 2 ^ 64 := by
        have hmax' : maxSignificand < 2 ^ 64 := by decide
        exact_mod_cast (hmax.trans_lt hmax').le
      calc (significand : ℚ) * (1 + 1 / 2 ^ 53) ≤ 2 ^ 64 * (1 + 1 / 2 ^ 53) := by gcongr
        _ ≤ 2 ^ 65 := by norm_num

/-! ### Significands -/

/-- The significand takes in digits from the left, up to the last one that fits. -/
theorem appendDigits_eq (significand : Nat) (cs : List Char) :
    ∃ taken left, cs = taken ++ left ∧
      appendDigits significand cs = (Nat.ofDigitChars 10 taken significand, left) := by
  induction cs generalizing significand with
  | nil => exact ⟨[], [], rfl, by simp [appendDigits]⟩
  | cons c rest ih =>
      simp only [appendDigits]
      split
      · exact ⟨[], c :: rest, rfl, by simp⟩
      · obtain ⟨taken, left, hrest, happend⟩ := ih (significand * 10 + digitValue c)
        refine ⟨c :: taken, left, by rw [hrest, List.cons_append], ?_⟩
        rw [happend, Nat.ofDigitChars_cons, digitValue, Nat.mul_comm]

/-- The significand stays within its bound. -/
theorem appendDigits_le {significand : Nat} (hs : significand ≤ maxSignificand) (cs : List Char) :
    (appendDigits significand cs).1 ≤ maxSignificand := by
  induction cs generalizing significand with
  | nil => exact hs
  | cons c rest ih =>
      simp only [appendDigits]
      split
      · exact hs
      · exact ih (by omega)

theorem le_ofDigitChars (cs : List Char) (init : Nat) : init ≤ Nat.ofDigitChars 10 cs init := by
  rw [Nat.ofDigitChars_eq_ofDigitChars_zero]
  exact (Nat.le_mul_of_pos_left init (Nat.pow_pos (by decide))).trans (Nat.le_add_right _ _)

/-- A significand that fits takes in all digits. -/
theorem appendDigits_of_le {significand : Nat} {cs : List Char}
    (hfits : Nat.ofDigitChars 10 cs significand ≤ maxSignificand) :
    appendDigits significand cs = (Nat.ofDigitChars 10 cs significand, []) := by
  induction cs generalizing significand with
  | nil => simp [appendDigits]
  | cons c rest ih =>
      rw [Nat.ofDigitChars_cons, Nat.mul_comm] at hfits ⊢
      have hlonger := (le_ofDigitChars rest _).trans hfits
      have hroom : ¬ significand * 10 + digitValue c > maxSignificand := by
        rw [digitValue]
        omega
      simp only [appendDigits]
      rw [if_neg hroom]
      exact ih hfits

/-! ### Texts -/

/-- The power of ten behind the digits. -/
def Parts.scale (p : Parts) : Int :=
  match p.exponent with
  | none => 0
  | some (negative, digits) =>
      if negative then -(Nat.ofDigitChars 10 digits 0) else Nat.ofDigitChars 10 digits 0

/-- The magnitude that the parts of a text spell. -/
def Parts.value (p : Parts) : ℚ :=
  Nat.ofDigitChars 10 (p.whole ++ p.fraction.getD []) 0 *
    10 ^ (p.scale - (p.fraction.getD []).length)

/-- The digits that a significand takes in do not spell more than all digits. -/
theorem significand_mul_le_value {p : Parts} {taken left : List Char}
    (hfraction : p.fraction.getD [] = taken ++ left) :
    (Nat.ofDigitChars 10 (p.whole ++ taken) 0 : ℚ) * 10 ^ (p.scale - taken.length) ≤ p.value := by
  have hdigits : Nat.ofDigitChars 10 (p.whole ++ p.fraction.getD []) 0 =
      10 ^ left.length * Nat.ofDigitChars 10 (p.whole ++ taken) 0 +
        Nat.ofDigitChars 10 left 0 := by
    rw [hfraction, ← List.append_assoc, Nat.ofDigitChars_append,
      Nat.ofDigitChars_eq_ofDigitChars_zero]
  have hscale : (10 : ℚ) ^ (p.scale - taken.length) =
      10 ^ left.length * 10 ^ (p.scale - (p.fraction.getD []).length) := by
    rw [← zpow_natCast, ← zpow_add₀ (by norm_num), hfraction, List.length_append]
    congr 1
    push_cast
    ring
  rw [Parts.value, hdigits, hscale]
  push_cast
  rw [add_mul, ← mul_assoc, mul_comm ((Nat.ofDigitChars 10 (p.whole ++ taken) 0 : ℚ))]
  apply le_add_of_nonneg_right
  positivity

/-- The significand that is taken in scales to a double: an exponent that is not negative is no greater
than that of the text. -/
theorem exists_scale?_taken {p : Parts} {taken left : List Char}
    (hfraction : p.fraction.getD [] = taken ++ left) (hvalue : p.value ≤ readable)
    (hmax : Nat.ofDigitChars 10 (p.whole ++ taken) 0 ≤ maxSignificand) {exponent : Int}
    (hexponent : 0 ≤ exponent → exponent ≤ p.scale - taken.length) :
    ∃ r, scale? (Nat.ofDigitChars 10 (p.whole ++ taken) 0) exponent = some r := by
  apply exists_scale? hmax
  intro hpos
  refine le_trans ?_ ((significand_mul_le_value hfraction).trans hvalue)
  apply mul_le_mul_of_nonneg_left _ (by positivity)
  rw [← zpow_natCast]
  apply zpow_le_zpow_right₀ (by norm_num)
  have hbound := hexponent hpos
  omega

/-- A readable text is read as a double if its whole part fits. -/
theorem exists_doubleOfParts? {p : Parts}
    (hwhole : Nat.ofDigitChars 10 p.whole 0 ≤ maxSignificand) (hscale : p.scale ≤ maxExponent)
    (hvalue : p.value ≤ readable) : ∃ d, doubleOfParts? p = some d := by
  obtain ⟨taken, left, hfraction, happend⟩ :=
    appendDigits_eq (Nat.ofDigitChars 10 p.whole 0) (p.fraction.getD [])
  have hmax := appendDigits_le hwhole (p.fraction.getD [])
  have hrange := @exists_scale?_taken p taken left hfraction hvalue
  have hstart : ((p.fraction.getD []).length - left.length : Nat) = taken.length := by
    rw [hfraction, List.length_append, Nat.add_sub_cancel]
  rw [happend] at hmax
  rw [Nat.ofDigitChars_append] at hrange
  simp only [doubleOfParts?, appendDigits_of_le hwhole, happend, hstart]
  have hsigned : ∀ magnitude : Option Double, (∃ m, magnitude = some m) →
      ∃ d, (magnitude >>= fun m => pure { m with negative := p.negative }) = some d := by
    rintro _ ⟨m, rfl⟩
    exact ⟨_, rfl⟩
  -- only an exponent above zero scales up, and the value of the text bounds how far
  cases hexponent : p.exponent with
  | none =>
      have hzero : p.scale = 0 := by rw [Parts.scale, hexponent]
      apply hsigned
      apply hrange hmax
      intro _
      rw [hzero, List.length_nil]
      omega
  | some exponent =>
      obtain ⟨negative, digits⟩ := exponent
      have hsize : p.scale = if negative then -(Nat.ofDigitChars 10 digits 0 : Int)
          else Nat.ofDigitChars 10 digits 0 := by rw [Parts.scale, hexponent]
      dsimp only
      generalize Nat.ofDigitChars 10 digits 0 = size at hsize
      cases negative with
      | false =>
          simp only [Bool.false_eq_true, if_false] at hsize
          rw [if_neg (by omega)]
          apply hsigned
          apply hrange hmax
          simp only [shiftedExponent, Bool.false_eq_true, if_false, List.length_nil]
          omega
      | true =>
          simp only [if_true] at hsize
          split
          · -- so small a text is zero
            exact ⟨_, by simp; rfl⟩
          · apply hsigned
            apply hrange hmax
            simp only [shiftedExponent, if_true, List.length_nil]
            omega

end DocAccess.Document.Number
