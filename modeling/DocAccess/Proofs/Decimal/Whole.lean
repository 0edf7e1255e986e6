import DocAccess.Proofs.Decimal.Rounding

/-!
# Doubles of integers

A double keeps 53 bits of an integer.  The bits behind them are rounded away in units of a power of
two, so integers of more than 53 bits may share a double, and shorter ones have doubles of their
own.

* `ofRatio?_one` — the double nearest to a whole number, and what it stands for.
* `ofInt_eq_iff` — integers that share a double.
* `nearestInt_eq_iff` — integers with doubles of their own.
* `two_mul_abs_sub_le` — how far integers that share a double may be apart.
-/

namespace DocAccess.Decimal.Double

/-! ### Whole numbers of 53 bits -/

/-- What the last of the 53 bits that are kept of a whole number stands for. -/
def unit (n : Nat) : Nat := 2 ^ (n.log2 - 52)

/-- A whole number rounded to 53 bits. -/
def roundWhole (n : Nat) : Nat := roundDiv n (unit n) * unit n

theorem unit_pos (n : Nat) : 0 < unit n := Nat.two_pow_pos _

theorem roundDiv_one (n : Nat) : roundDiv n 1 = n := by simp [roundDiv, Nat.mod_one]

theorem log2_lt_of_lt {n k : Nat} (hk : 0 < k) (hn : n < 2 ^ k) : n.log2 < k := by
  rcases Nat.eq_zero_or_pos n with rfl | hpos
  · simpa using hk
  · exact (Nat.log2_lt hpos.ne').mpr hn

theorem roundWhole_of_lt {n : Nat} (hn : n < 2 ^ 53) : roundWhole n = n := by
  have hlog := log2_lt_of_lt (by decide) hn
  have hunit : unit n = 1 := by rw [unit, Nat.sub_eq_zero_of_le (by omega), pow_zero]
  rw [roundWhole, hunit, roundDiv_one, mul_one]

/-- A number of at least 53 bits has that many before its last unit. -/
theorem unit_bounds {n : Nat} (hn : 2 ^ 52 ≤ n) :
    2 ^ 52 * unit n ≤ n ∧ n < 2 ^ 53 * unit n := by
  have hpos : n ≠ 0 := by omega
  obtain ⟨k, hk⟩ := Nat.exists_eq_add_of_le ((Nat.le_log2 hpos).mpr hn)
  have hunit : unit n = 2 ^ k := by rw [unit, hk, Nat.add_sub_cancel_left]
  rw [hunit, ← pow_add, ← pow_add, ← hk, show 53 + k = n.log2 + 1 by omega]
  exact ⟨Nat.log2_self_le hpos, Nat.lt_log2_self⟩

theorem le_roundDiv {n m k : Nat} (hm : 0 < m) (h : k * m ≤ n) : k ≤ roundDiv n m := by
  have hquotient : k ≤ n / m := (Nat.le_div_iff_mul_le hm).mpr h
  unfold roundDiv
  dsimp only
  split
  · omega
  · exact hquotient

theorem roundDiv_le {n m k : Nat} (h : n < k * m) : roundDiv n m ≤ k := by
  have hquotient : n / m < k := Nat.div_lt_of_lt_mul (by rwa [mul_comm])
  unfold roundDiv
  dsimp only
  split
  · omega
  · omega

theorem roundWhole_pos {n : Nat} (hn : 0 < n) : 0 < roundWhole n := by
  rcases Nat.lt_or_ge n (2 ^ 53) with hsmall | hlarge
  · rwa [roundWhole_of_lt hsmall]
  · have hlow := (unit_bounds (le_trans (by decide) hlarge)).1
    exact Nat.mul_pos (lt_of_lt_of_le (by decide) (le_roundDiv (unit_pos n) hlow)) (unit_pos n)

/-- Rounding does not lead below 54 bits. -/
theorem le_roundWhole {n : Nat} (hn : 2 ^ 53 ≤ n) : 2 ^ 53 ≤ roundWhole n := by
  have hpos : n ≠ 0 := by omega
  have hlog : 53 ≤ n.log2 := (Nat.le_log2 hpos).mpr hn
  have hunit : 2 ^ 1 ≤ unit n := Nat.pow_le_pow_right (by decide) (by omega)
  have hlow := le_roundDiv (unit_pos n) (unit_bounds (le_trans (by decide) hn)).1
  calc 2 ^ 53 = 2 ^ 52 * 2 ^ 1 := by norm_num
    _ ≤ roundDiv n (unit n) * unit n := Nat.mul_le_mul hlow hunit

/-- Half a unit is the most that is rounded away. -/
theorem roundWhole_near (n : Nat) : |(roundWhole n : ℚ) - n| ≤ unit n / 2 := by
  have hpos : (0 : ℚ) < unit n := by exact_mod_cast unit_pos n
  have hscaled : (roundWhole n : ℚ) - n = (roundDiv n (unit n) - n / unit n : ℚ) * unit n := by
    rw [roundWhole]
    push_cast
    field_simp
  rw [hscaled, abs_mul, abs_of_pos hpos]
  calc |(roundDiv n (unit n) - n / unit n : ℚ)| * unit n ≤ 1 / 2 * unit n := by
        gcongr
        exact roundDiv_near n (unit_pos n)
    _ = unit n / 2 := by ring

/-! ### The double of a whole number -/

theorem quotientExponent_one {n : Nat} (hn : 0 < n) (h : n.log2 ≤ 1022) :
    quotientExponent n 1 = n.log2 - 52 := by
  have hbelow : belowPower n 1 n.log2 = false := by
    rw [belowPower, if_neg (by omega)]
    simpa using Nat.log2_self_le (by omega)
  have hone : Nat.log2 1 = 0 := by decide
  simp only [quotientExponent, hone, Nat.cast_zero, sub_zero, hbelow]
  rw [if_neg (by decide), leastExponent]
  omega

/-- A number of less than 53 bits is shifted up. -/
theorem scaledDiv_short {n : Nat} (hn : 0 < n) (hshort : n < 2 ^ 52) :
    2 ^ 52 ≤ scaledDiv n 1 (n.log2 - 52) ∧ scaledDiv n 1 (n.log2 - 52) ≤ 2 ^ 53 ∧
      (scaledDiv n 1 (n.log2 - 52) : ℚ) * 2 ^ ((n.log2 : Int) - 52) = roundWhole n := by
  have hlog := log2_lt_of_lt (by decide) hshort
  obtain ⟨k, hk⟩ : ∃ k, n.log2 + k = 52 := ⟨52 - n.log2, by omega⟩
  have hexponent : (n.log2 : Int) - 52 = -(k : Int) := by omega
  have hmantissa : scaledDiv n 1 (n.log2 - 52) = n * 2 ^ k := by
    rw [hexponent, scaledDiv, if_pos (by omega), roundDiv_one, Int.natAbs_neg,
      Int.natAbs_natCast, Nat.pow_eq]
  rw [hmantissa]
  refine ⟨?_, ?_, ?_⟩
  · calc 2 ^ 52 = 2 ^ n.log2 * 2 ^ k := by rw [← pow_add, hk]
      _ ≤ n * 2 ^ k := Nat.mul_le_mul_right _ (Nat.log2_self_le (by omega))
  · calc n * 2 ^ k ≤ 2 ^ (n.log2 + 1) * 2 ^ k := Nat.mul_le_mul_right _ Nat.lt_log2_self.le
      _ = 2 ^ 53 := by rw [← pow_add, show n.log2 + 1 + k = 53 by omega]
  · rw [hexponent, roundWhole_of_lt (by omega), zpow_neg, zpow_natCast]
    push_cast
    field_simp

/-- A number of more bits is divided by its unit. -/
theorem scaledDiv_long {n : Nat} (hlong : 2 ^ 52 ≤ n) :
    2 ^ 52 ≤ scaledDiv n 1 (n.log2 - 52) ∧ scaledDiv n 1 (n.log2 - 52) ≤ 2 ^ 53 ∧
      (scaledDiv n 1 (n.log2 - 52) : ℚ) * 2 ^ ((n.log2 : Int) - 52) = roundWhole n := by
  obtain ⟨hlow, hhigh⟩ := unit_bounds hlong
  obtain ⟨k, hk⟩ := Nat.exists_eq_add_of_le ((Nat.le_log2 (by omega)).mpr hlong)
  have hexponent : (n.log2 : Int) - 52 = k := by omega
  have hunit : unit n = 2 ^ k := by rw [unit, hk, Nat.add_sub_cancel_left]
  have hmantissa : scaledDiv n 1 (n.log2 - 52) = roundDiv n (unit n) := by
    rw [hexponent, scaledDiv, if_neg (by omega), Int.natAbs_natCast, one_mul, hunit, Nat.pow_eq]
  rw [hmantissa]
  refine ⟨le_roundDiv (unit_pos n) hlow, roundDiv_le hhigh, ?_⟩
  rw [hexponent, zpow_natCast, roundWhole, hunit]
  push_cast
  rfl

/-- Whether the mantissa of a double has 53 bits. -/
structure IsFull (d : Double) : Prop where
  low : 2 ^ 52 ≤ d.mantissa
  high : d.mantissa < 2 ^ 53

/-- The double nearest to a whole number has 53 bits and stands for the number rounded to them. -/
theorem ofRatio?_one (negative : Bool) {n : Nat} (hn : 0 < n) (h : n.log2 ≤ 1022) :
    ∃ d, ofRatio? negative n 1 = some d ∧ d.negative = negative ∧ d.IsFull ∧
      d.value = roundWhole n := by
  obtain ⟨hlow, hhigh, hvalue⟩ := (Nat.lt_or_ge n (2 ^ 52)).elim (scaledDiv_short hn) scaledDiv_long
  unfold ofRatio?
  rw [if_neg (by simpa using hn.ne'), quotientExponent_one hn h]
  extract_lets e mantissa rounded
  by_cases hfull : mantissa = 2 ^ 53
  · -- such a mantissa is one of 53 bits with the next exponent
    have hrounded : rounded = ⟨negative, Nat.pow 2 52, e + 1⟩ := if_pos (by simp [hfull])
    refine ⟨⟨negative, Nat.pow 2 52, e + 1⟩, ?_, rfl, ⟨le_rfl, by norm_num⟩, ?_⟩
    · rw [hrounded, if_neg (by simp only [greatestExponent]; omega)]
    · have hsame : (⟨negative, Nat.pow 2 52, e + 1⟩ : Double).value = (mantissa : ℚ) * 2 ^ e := by
        rw [hfull, value, zpow_add₀ two_ne_zero, Nat.pow_eq]
        push_cast
        ring
      exact hsame.trans hvalue
  · have hrounded : rounded = ⟨negative, mantissa, e⟩ := if_neg (by simpa using hfull)
    refine ⟨⟨negative, mantissa, e⟩, ?_, rfl, ⟨hlow, lt_of_le_of_ne hhigh hfull⟩, hvalue⟩
    rw [hrounded, if_neg (by simp only [greatestExponent]; omega)]

/-! ### Doubles with 53 bits -/

namespace IsFull

variable {d d' : Double}

/-- Of two doubles with 53 bits, the one with the greater exponent is the greater one. -/
theorem value_lt_value (hd : d.IsFull) (hd' : d'.IsFull) (h : d.exponent < d'.exponent) :
    d.value < d'.value := by
  have hhigh : (d.mantissa : ℚ) < 2 ^ 53 := by exact_mod_cast hd.high
  have hlow : (2 : ℚ) ^ 52 ≤ d'.mantissa := by exact_mod_cast hd'.low
  calc d.value < 2 ^ 53 * 2 ^ d.exponent := by
        unfold value
        gcongr
    _ = 2 ^ 52 * 2 ^ (d.exponent + 1) := by
        rw [zpow_add₀ two_ne_zero]
        ring
    _ ≤ 2 ^ 52 * 2 ^ d'.exponent := by
        gcongr
        · norm_num
        · omega
    _ ≤ d'.value := by
        unfold value
        gcongr

theorem eq_of_value (hd : d.IsFull) (hd' : d'.IsFull) (hsign : d.negative = d'.negative)
    (hvalue : d.value = d'.value) : d = d' := by
  rcases lt_trichotomy d.exponent d'.exponent with hlt | hexponent | hlt
  · exact absurd hvalue (hd.value_lt_value hd' hlt).ne
  · have hpower : (2 : ℚ) ^ d'.exponent ≠ 0 := by positivity
    have hmantissa : d.mantissa = d'.mantissa := by
      rw [value, value, hexponent] at hvalue
      exact_mod_cast mul_right_cancel₀ hpower hvalue
    obtain ⟨s, m, e⟩ := d
    obtain ⟨s', m', e'⟩ := d'
    exact Double.mk.injEq .. ▸ ⟨hsign, hmantissa, hexponent⟩
  · exact absurd hvalue (hd'.value_lt_value hd hlt).ne'

end IsFull

/-! ### Integers -/

/-- The integer that the double nearest to an integer stands for. -/
def nearestInt (n : Int) : Int := n.sign * roundWhole n.natAbs

section Integers

variable {a b n : Int}

theorem natAbs_nearestInt (n : Int) : (nearestInt n).natAbs = roundWhole n.natAbs := by
  by_cases hn : n = 0
  · subst hn
    decide
  · rw [nearestInt, Int.natAbs_mul, Int.natAbs_sign_of_ne_zero hn, Int.natAbs_natCast, one_mul]

theorem sign_nearestInt (n : Int) : (nearestInt n).sign = n.sign := by
  by_cases hn : n = 0
  · subst hn
    decide
  · have hpos := roundWhole_pos (Int.natAbs_pos.mpr hn)
    rw [nearestInt, Int.sign_mul, Int.sign_sign, Int.sign_natCast_of_ne_zero hpos.ne', mul_one]

theorem nearestInt_eq_nearestInt_iff :
    nearestInt a = nearestInt b ↔
      a.sign = b.sign ∧ roundWhole a.natAbs = roundWhole b.natAbs := by
  constructor
  · intro h
    rw [← sign_nearestInt a, ← natAbs_nearestInt a, h, sign_nearestInt, natAbs_nearestInt]
    exact ⟨rfl, rfl⟩
  · rintro ⟨hsign, hsize⟩
    rw [nearestInt, nearestInt, hsign, hsize]

theorem sign_eq_sign_iff (ha : a ≠ 0) (hb : b ≠ 0) : a.sign = b.sign ↔ (a < 0 ↔ b < 0) := by
  rcases lt_or_gt_of_ne ha with ha | ha
  · rw [Int.sign_eq_neg_one_of_neg ha, eq_comm, Int.sign_eq_neg_one_iff_neg, iff_true_left ha]
  · rw [Int.sign_eq_one_of_pos ha, eq_comm, Int.sign_eq_one_iff_pos]
    omega

/-- The double of an integer of 64 bits. -/
theorem ofInt_spec (hn : n ≠ 0) (h : n.natAbs < 2 ^ 64) :
    (ofInt n).negative = decide (n < 0) ∧ (ofInt n).IsFull ∧
      (ofInt n).value = roundWhole n.natAbs := by
  have hlog := log2_lt_of_lt (by decide) h
  obtain ⟨d, hd, hspec⟩ := ofRatio?_one (decide (n < 0)) (Int.natAbs_pos.mpr hn) (by omega)
  rw [ofInt, hd]
  exact hspec

theorem isZero_ofInt_iff (h : n.natAbs < 2 ^ 64) : (ofInt n).isZero = true ↔ n = 0 := by
  constructor
  · intro hzero
    by_contra hn
    obtain ⟨-, hfull, -⟩ := ofInt_spec hn h
    have hlow := hfull.low
    rw [isZero, beq_iff_eq] at hzero
    omega
  · rintro rfl
    rfl

/-- Integers have the same double if they are the same after rounding. -/
theorem ofInt_eq_iff (ha : a.natAbs < 2 ^ 64) (hb : b.natAbs < 2 ^ 64) :
    ofInt a = ofInt b ↔ nearestInt a = nearestInt b := by
  rw [nearestInt_eq_nearestInt_iff]
  -- zero is apart: its mantissa is not full
  by_cases ha' : a = 0
  · subst ha'
    constructor
    · intro h
      obtain rfl := (isZero_ofInt_iff hb).mp (h ▸ rfl)
      exact ⟨rfl, rfl⟩
    · rintro ⟨hsign, -⟩
      obtain rfl := Int.sign_eq_zero_iff_zero.mp hsign.symm
      rfl
  by_cases hb' : b = 0
  · subst hb'
    constructor
    · intro h
      exact absurd ((isZero_ofInt_iff ha).mp (h ▸ rfl)) ha'
    · rintro ⟨hsign, -⟩
      exact absurd (Int.sign_eq_zero_iff_zero.mp hsign) ha'
  obtain ⟨hnegative, hfull, hvalue⟩ := ofInt_spec ha' ha
  obtain ⟨hnegative', hfull', hvalue'⟩ := ofInt_spec hb' hb
  have hsigns := sign_eq_sign_iff ha' hb'
  constructor
  · intro h
    rw [h, hnegative', decide_eq_decide] at hnegative
    rw [h, hvalue'] at hvalue
    exact ⟨hsigns.mpr hnegative.symm, by exact_mod_cast hvalue.symm⟩
  · rintro ⟨hsign, hsize⟩
    refine hfull.eq_of_value hfull' ?_ ?_
    · rw [hnegative, hnegative', decide_eq_decide]
      exact hsigns.mp hsign
    · rw [hvalue, hvalue', hsize]

/-- Numeric equality does not tell apart integers that are the same after rounding, and tells apart
all others. -/
theorem same_ofInt_iff (ha : a.natAbs < 2 ^ 64) (hb : b.natAbs < 2 ^ 64) :
    (ofInt a).same (ofInt b) = true ↔ nearestInt a = nearestInt b := by
  rw [← ofInt_eq_iff ha hb, same, Bool.or_eq_true, Bool.and_eq_true, beq_iff_eq,
    isZero_ofInt_iff ha, isZero_ofInt_iff hb]
  constructor
  · rintro (⟨rfl, rfl⟩ | hsame)
    · rfl
    · exact hsame
  · exact .inr

/-- An integer of at most 53 bits shares its double with no other integer. -/
theorem nearestInt_eq_iff (ha : a.natAbs < 2 ^ 53) : nearestInt a = nearestInt b ↔ a = b := by
  constructor
  · intro h
    obtain ⟨hsign, hsize⟩ := nearestInt_eq_nearestInt_iff.mp h
    rw [roundWhole_of_lt ha] at hsize
    have hb : b.natAbs < 2 ^ 53 := by
      by_contra hlarge
      have hle := le_roundWhole (not_lt.mp hlarge)
      omega
    rw [roundWhole_of_lt hb] at hsize
    rw [← Int.sign_mul_natAbs a, ← Int.sign_mul_natAbs b, hsign, hsize]
  · rintro rfl
    rfl

theorem nearestInt_near (n : Int) : |(nearestInt n : ℚ) - n| ≤ unit n.natAbs / 2 := by
  by_cases hn : n = 0
  · subst hn
    norm_num [nearestInt, unit]
  · have hself : (n.sign : ℚ) * n.natAbs = n := by
      rw [← Int.cast_natCast n.natAbs, ← Int.cast_mul, Int.sign_mul_natAbs]
    have hsplit : (nearestInt n : ℚ) - n = n.sign * (roundWhole n.natAbs - n.natAbs : ℚ) := by
      rw [mul_sub, hself, nearestInt]
      push_cast
      rfl
    have hsign : |(n.sign : ℚ)| = 1 := by
      rcases lt_or_gt_of_ne hn with hneg | hpos
      · simp [Int.sign_eq_neg_one_of_neg hneg]
      · simp [Int.sign_eq_one_of_pos hpos]
    rw [hsplit, abs_mul, hsign, one_mul]
    exact roundWhole_near n.natAbs

/-- Integers that share a double are at most half of their units apart, taken together. -/
theorem two_mul_abs_sub_le (h : nearestInt a = nearestInt b) :
    2 * |a - b| ≤ unit a.natAbs + unit b.natAbs := by
  have ha := nearestInt_near a
  have hb := nearestInt_near b
  rw [h, abs_sub_comm] at ha
  have hapart : |(a : ℚ) - b| ≤ unit a.natAbs / 2 + unit b.natAbs / 2 :=
    calc |(a : ℚ) - b| ≤ |(a : ℚ) - nearestInt b| + |(nearestInt b : ℚ) - b| := abs_sub_le _ _ _
      _ ≤ unit a.natAbs / 2 + unit b.natAbs / 2 := add_le_add ha hb
  have hcast : 2 * |(a : ℚ) - b| ≤ unit a.natAbs + unit b.natAbs := by linarith
  exact_mod_cast hcast

end Integers

end DocAccess.Decimal.Double
