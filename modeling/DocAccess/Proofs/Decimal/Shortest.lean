import DocAccess.Decimal.Shortest
import DocAccess.Proofs.Decimal.Rounding

/-!
# The size of the shortest decimal

The decimal that is written for a double is not zero unless the double is, and it lies at most half
a unit in the last place above the double: either it rounds to the double, or it is cut off below
the double behind its eighteenth digit.

* `near_of_admits` — a decimal that rounds to a double is near to it.
* `ten_zpow_decimalMagnitude_le` — the number of digits is not estimated far too high.
* `near_shortest` — the result.
-/

namespace DocAccess.Decimal

/-- The value of a decimal. -/
def Digits.value (x : Digits) : ℚ := x.digits * 10 ^ x.exponent

namespace Double

/-- What the decimal that is written for a double has in common with it. -/
structure Near (d : Double) (x : Digits) : Prop where
  pos : 0 < x.digits
  le : x.value ≤ (d.mantissa + 1 / 2) * 2 ^ d.exponent

/-! ### Decimals that round to a double -/

/-- Naturals compare as the quotients that they make by one scale. -/
theorem compare_of_scaled {l r : Nat} {x y k : ℚ} (hk : 0 < k) (hx : x * k = l) (hy : y * k = r) :
    compare l r = compare x y := by
  have hlt : l < r ↔ x < y := by
    rw [← mul_lt_mul_iff_left₀ hk, hx, hy, Nat.cast_lt]
  have hgt : r < l ↔ y < x := by
    rw [← mul_lt_mul_iff_left₀ hk, hx, hy, Nat.cast_lt]
  rcases lt_trichotomy l r with h | h | h
  · rw [compare_lt_iff_lt.mpr h, compare_lt_iff_lt.mpr (hlt.mp h)]
  · have hsame : x = y := by
      apply le_antisymm
      · exact le_of_not_gt fun hyx => absurd (hgt.mpr hyx) (by omega)
      · exact le_of_not_gt fun hxy => absurd (hlt.mpr hxy) (by omega)
    rw [compare_eq_iff_eq.mpr h, compare_eq_iff_eq.mpr hsame]
  · rw [compare_gt_iff_gt.mpr h, compare_gt_iff_gt.mpr (hgt.mp h)]

/-- Decimals and binary fractions are compared by their values. -/
theorem compareScaled_eq (digits : Nat) (decimal : Int) (quarters : Nat) (binary : Int) :
    compareScaled digits decimal quarters binary =
      compare ((digits : ℚ) * 10 ^ decimal) (quarters * 2 ^ (binary - 2)) := by
  unfold compareScaled
  by_cases hten : decimal < 0
  · by_cases htwo : binary - 2 < 0
    · simp only [if_pos hten, if_pos htwo, Nat.pow_eq]
      apply compare_of_scaled (k := 10 ^ decimal.natAbs * 2 ^ (binary - 2).natAbs) (by positivity)
      · rw [zpow_of_neg hten]
        push_cast
        field_simp
      · rw [zpow_of_neg htwo]
        push_cast
        field_simp
    · simp only [if_pos hten, if_neg htwo, Nat.pow_eq]
      apply compare_of_scaled (k := 10 ^ decimal.natAbs) (by positivity)
      · rw [zpow_of_neg hten]
        push_cast
        field_simp
      · rw [zpow_of_nonneg htwo]
        push_cast
        ring
  · by_cases htwo : binary - 2 < 0
    · simp only [if_neg hten, if_pos htwo, Nat.pow_eq]
      apply compare_of_scaled (k := 2 ^ (binary - 2).natAbs) (by positivity)
      · rw [zpow_of_nonneg hten]
        push_cast
        ring
      · rw [zpow_of_neg htwo]
        push_cast
        field_simp
    · simp only [if_neg hten, if_neg htwo, Nat.pow_eq]
      apply compare_of_scaled (k := 1) one_pos
      · rw [zpow_of_nonneg hten]
        push_cast
        ring
      · rw [zpow_of_nonneg htwo]
        push_cast
        ring

theorem lowerQuarters_pos {d : Double} (hd : 0 < d.mantissa) : 0 < d.lowerQuarters := by
  unfold lowerQuarters
  split <;> omega

theorem upperQuarters_eq (d : Double) :
    (d.upperQuarters : ℚ) * 2 ^ (d.exponent - 2) = (d.mantissa + 1 / 2) * 2 ^ d.exponent := by
  rw [upperQuarters, zpow_sub₀ two_ne_zero]
  push_cast
  ring

/-- A decimal that rounds to a double other than zero is near to it. -/
theorem near_of_admits {d : Double} (hd : 0 < d.mantissa) {x : Digits} (h : d.admits x = true) :
    Near d x := by
  simp only [admits, compareScaled_eq, Bool.and_eq_true, Bool.or_eq_true, beq_iff_eq,
    upperQuarters_eq, compare_gt_iff_gt, compare_lt_iff_lt, compare_eq_iff_eq] at h
  obtain ⟨hlow, hhigh⟩ := h
  have hbelow : (d.lowerQuarters : ℚ) * 2 ^ (d.exponent - 2) ≤ x.value := by
    rcases hlow with hlt | ⟨-, heq⟩
    · exact le_of_lt hlt
    · exact le_of_eq heq.symm
  have hpositive : (0 : ℚ) < (d.lowerQuarters : ℚ) * 2 ^ (d.exponent - 2) := by
    have hquarters : (0 : ℚ) < d.lowerQuarters := by exact_mod_cast lowerQuarters_pos hd
    positivity
  refine ⟨?_, ?_⟩
  · apply Nat.pos_of_ne_zero
    intro hzero
    rw [Digits.value, hzero, Nat.cast_zero, zero_mul] at hbelow
    linarith
  · rcases hhigh with hlt | ⟨-, heq⟩
    · exact le_of_lt hlt
    · exact le_of_eq heq

/-! ### The grid -/

/-- The multiple of a power of ten below a double is a quotient cut off. -/
theorem floorAt_eq (d : Double) (e : Int) :
    ∃ n m : Nat, 0 < m ∧ d.floorAt e = n / m ∧ (n : ℚ) / m = d.value / 10 ^ e := by
  have hden := d.denominator_pos
  rw [value_eq, floorAt]
  by_cases he : e < 0
  · refine ⟨_, _, hden, if_pos he, ?_⟩
    rw [zpow_of_neg he, Nat.pow_eq]
    push_cast
    field_simp
  · refine ⟨_, _, Nat.mul_pos hden (Nat.pow_pos (by decide)), if_neg he, ?_⟩
    rw [zpow_of_nonneg he]
    push_cast
    rw [div_div]

/-- A decimal that is cut off is near to a double of at least one unit. -/
theorem near_floorAt {d : Double} {e : Int} (he : (10 : ℚ) ^ e ≤ d.value) :
    Near d ⟨d.floorAt e, e⟩ := by
  have hunit : (0 : ℚ) < 10 ^ e := by positivity
  obtain ⟨n, m, hm, hfloor, hquotient⟩ := floorAt_eq d e
  have hm' : (0 : ℚ) < m := by exact_mod_cast hm
  refine ⟨?_, ?_⟩
  · show 0 < d.floorAt e
    rw [hfloor]
    apply Nat.div_pos _ hm
    have hone : (1 : ℚ) ≤ n / m := by rwa [hquotient, one_le_div hunit]
    rw [one_le_div hm'] at hone
    exact_mod_cast hone
  · have hle : (d.floorAt e : ℚ) ≤ d.value / 10 ^ e := by
      rw [hfloor, ← hquotient]
      exact Nat.cast_div_le
    have hbelow : (d.floorAt e : ℚ) * 10 ^ e ≤ d.value := (le_div_iff₀ hunit).mp hle
    calc Digits.value ⟨d.floorAt e, e⟩ ≤ d.value := hbelow
      _ ≤ (d.mantissa + 1 / 2) * 2 ^ d.exponent := by
          unfold value
          gcongr
          norm_num

theorem near_of_pick? {d : Double} (hd : 0 < d.mantissa) {e : Int} {x : Digits}
    (h : d.pick? e = some x) : Near d x := by
  simp only [pick?] at h
  split at h
  · next hbelow habove =>
      split at h <;> cases h
      · exact near_of_admits hd hbelow
      · exact near_of_admits hd habove
  · next hbelow _ => cases h; exact near_of_admits hd hbelow
  · next _ habove => cases h; exact near_of_admits hd habove
  · cases h

/-- The search ends with a decimal that is near, by the unit of the last grid. -/
theorem near_search {d : Double} (hd : 0 < d.mantissa) {top : Int} (fuel count : Nat)
    (hlast : (10 : ℚ) ^ (top - (count + fuel : Nat)) ≤ d.value) :
    Near d (search d top fuel count) := by
  induction fuel generalizing count with
  | zero => exact near_floorAt hlast
  | succ fuel ih =>
      unfold search
      split
      · next x hx => exact near_of_pick? hd hx
      · apply ih
        rwa [Nat.add_right_comm, Nat.add_assoc]

/-! ### The number of digits -/

/-- A power of ten lies below a power of two by `10 ^ 3 ≤ 2 ^ 10`, or, below one, by
`2 ^ 13 ≤ 10 ^ 4`. -/
theorem ten_zpow_le_two_zpow {a b : Int} (hlarge : 10 * a ≤ 3 * b) (hsmall : 13 * a ≤ 4 * b) :
    (10 : ℚ) ^ a ≤ 2 ^ b := by
  have hten : (0 : ℚ) ≤ 10 ^ a := by positivity
  have htwo : (0 : ℚ) ≤ 2 ^ b := by positivity
  rcases le_or_gt 0 a with ha | ha
  · apply le_of_pow_le_pow_left₀ (n := 3) (by decide) htwo
    calc ((10 : ℚ) ^ a) ^ 3 = (10 ^ 3) ^ a := by rw [← zpow_natCast, zpow_comm]; norm_num
      _ ≤ (2 ^ 10) ^ a := zpow_le_zpow_left₀ ha (by norm_num) (by norm_num)
      _ = 2 ^ (10 * a) := by rw [zpow_mul]; norm_cast
      _ ≤ 2 ^ (3 * b) := zpow_le_zpow_right₀ one_le_two hlarge
      _ = (2 ^ b) ^ 3 := by rw [mul_comm, zpow_mul]; norm_cast
  · -- the fourth powers are compared by their inverses
    apply le_of_pow_le_pow_left₀ (n := 4) (by decide) htwo
    have hbase : (2 : ℚ) ^ (13 * -a) ≤ (10 ^ 4) ^ (-a) := by
      rw [zpow_mul]
      exact zpow_le_zpow_left₀ (by omega) (by norm_num) (by norm_num)
    calc ((10 : ℚ) ^ a) ^ 4 = ((10 ^ 4) ^ (-a))⁻¹ := by
          rw [zpow_neg, inv_inv, ← zpow_natCast, zpow_comm]; norm_num
      _ ≤ (2 ^ (13 * -a))⁻¹ := inv_anti₀ (by positivity) hbase
      _ = 2 ^ (13 * a) := by rw [← zpow_neg, mul_neg, neg_neg]
      _ ≤ 2 ^ (4 * b) := zpow_le_zpow_right₀ one_le_two hsmall
      _ = (2 ^ b) ^ 4 := by rw [mul_comm, zpow_mul]; norm_cast

/-- A double of 53 bits, its exponent within bounds. -/
structure Fits (d : Double) : Prop where
  mantissa : d.mantissa < 2 ^ 53
  least : leastExponent ≤ d.exponent
  greatest : d.exponent ≤ greatestExponent

theorem log2_numerator_sub_log2_denominator {d : Double} (hfits : Fits d) (hd : 0 < d.mantissa) :
    -1074 ≤ (d.numerator.log2 : Int) - d.denominator.log2 ∧
      (d.numerator.log2 : Int) - d.denominator.log2 ≤ 1023 := by
  have hleast := hfits.least
  have hgreatest := hfits.greatest
  rw [leastExponent] at hleast
  rw [greatestExponent] at hgreatest
  have hnumerator : d.numerator ≠ 0 := (numerator_pos hd).ne'
  unfold numerator denominator at *
  by_cases he : d.exponent < 0
  · rw [if_pos he] at *
    rw [if_pos he, Nat.pow_eq, Nat.log2_two_pow]
    have hlog : d.mantissa.log2 < 53 := (Nat.log2_lt hnumerator).mpr hfits.mantissa
    omega
  · rw [if_neg he] at *
    have hbound : d.mantissa * Nat.pow 2 d.exponent.natAbs < 2 ^ (53 + d.exponent.natAbs) := by
      rw [pow_add, Nat.pow_eq]
      exact Nat.mul_lt_mul_of_pos_right hfits.mantissa (Nat.two_pow_pos _)
    have hlog := (Nat.log2_lt hnumerator).mpr hbound
    have hone : Nat.log2 1 = 0 := by decide
    rw [if_neg he, hone]
    omega

/-- The number of digits is not estimated far too high: eighteen digits reach below the double. -/
theorem ten_zpow_decimalMagnitude_le {d : Double} (hfits : Fits d) (hd : 0 < d.mantissa) :
    (10 : ℚ) ^ (d.decimalMagnitude - 18) ≤ d.value := by
  unfold decimalMagnitude
  extract_lets n m guess reaches
  have hlow : (2 : ℚ) ^ ((n.log2 : Int) - m.log2 - 1) ≤ d.value := by
    rw [value_eq]
    exact two_zpow_log2_le (numerator_pos hd) d.denominator_pos
  have hlogs : -1074 ≤ (n.log2 : Int) - m.log2 ∧ (n.log2 : Int) - m.log2 ≤ 1023 :=
    log2_numerator_sub_log2_denominator hfits hd
  have hden : (0 : ℚ) < m := by exact_mod_cast d.denominator_pos
  have hreaches : ∀ {k : Int}, reaches k = true → (10 : ℚ) ^ k ≤ d.value := by
    intro k hk
    rw [value_eq, le_div_iff₀ hden]
    simp only [reaches] at hk
    by_cases hneg : k < 0
    · rw [if_pos hneg, decide_eq_true_eq, Nat.pow_eq] at hk
      rw [zpow_of_neg hneg, one_div_mul_eq_div, div_le_iff₀ (by positivity)]
      exact_mod_cast hk
    · rw [if_neg hneg, decide_eq_true_eq, Nat.pow_eq] at hk
      rw [zpow_of_nonneg hneg, mul_comm]
      exact_mod_cast hk
  have hbelow : ∀ {a k : Int}, reaches k = true → a ≤ k → (10 : ℚ) ^ a ≤ d.value :=
    fun hk ha => (zpow_le_zpow_right₀ (by norm_num) ha).trans (hreaches hk)
  -- a power that is reached is a bound by itself; if none is, the logarithms give one
  split
  · next h => exact hbelow h (by omega)
  split
  · next h => exact hbelow h (by omega)
  split
  · next h => exact hbelow h (by omega)
  · refine le_trans (ten_zpow_le_two_zpow ?_ ?_) hlow <;> omega

/-! ### The result -/

/-- A trailing zero may go. -/
theorem near_stripZeros {d : Double} (fuel : Nat) {x : Digits} (h : Near d x) :
    Near d (stripZeros fuel x) := by
  induction fuel generalizing x with
  | zero => exact h
  | succ fuel ih =>
      unfold stripZeros
      split
      · next hzero =>
          simp only [Bool.and_eq_true, bne_iff_ne, beq_iff_eq] at hzero
          apply ih
          have hdigits : (x.digits : ℚ) = (x.digits / 10 : Nat) * 10 := by
            exact_mod_cast (Nat.div_mul_cancel (Nat.dvd_of_mod_eq_zero hzero.2)).symm
          have hvalue : Digits.value ⟨x.digits / 10, x.exponent + 1⟩ = x.value := by
            rw [Digits.value, Digits.value, hdigits, zpow_add_one₀ (by norm_num)]
            ring
          refine ⟨show 0 < x.digits / 10 by omega, ?_⟩
          rw [hvalue]
          exact h.le
      · exact h

/-- The decimal that is written for a double other than zero is near to it. -/
theorem near_shortest {d : Double} (hfits : Fits d) (hd : 0 < d.mantissa) :
    Near d d.shortest :=
  near_stripZeros 20 (near_search hd 17 1 (ten_zpow_decimalMagnitude_le hfits hd))

end Double

end DocAccess.Decimal
