import DocAccess.Decimal.Double
import Mathlib.Data.Rat.Floor
import Mathlib.Data.Nat.Log
import Mathlib.Tactic

/-!
# Rounding to doubles

A quotient is rounded to a double by at most half a unit in the last place.  So a double is off by at
most one part in `2 ^ 53` of what it stands for, unless that is tiny, and a quotient has a double as
long as it is below the greatest double and half a unit more.

* `two_zpow_quotientExponent_le` — the unit of a quotient.
* `ofRatio?_near` — rounding a quotient.
* `mul?_near`, `div?_near`, `ofInt_near`, `powerOfTen?_near` — what is made of it.
-/

namespace DocAccess.Decimal.Double

/-! ### Magnitudes -/

/-- The magnitude of a double. -/
def value (d : Double) : ℚ := d.mantissa * 2 ^ d.exponent

/-- A power, with its exponent split into its sign and its size. -/
theorem zpow_of_neg {b : ℚ} {e : Int} (he : e < 0) : b ^ e = 1 / b ^ e.natAbs := by
  have hsize : e = -(e.natAbs : Int) := by omega
  conv_lhs => rw [hsize]
  rw [zpow_neg, zpow_natCast, one_div]

theorem zpow_of_nonneg {b : ℚ} {e : Int} (he : ¬ e < 0) : b ^ e = b ^ e.natAbs := by
  have hsize : e = (e.natAbs : Int) := by omega
  conv_lhs => rw [hsize]
  rw [zpow_natCast]

theorem denominator_pos (d : Double) : 0 < d.denominator := by
  unfold denominator
  split
  · exact Nat.two_pow_pos _
  · decide

theorem numerator_pos {d : Double} (hd : 0 < d.mantissa) : 0 < d.numerator := by
  unfold numerator
  split
  · exact hd
  · exact Nat.mul_pos hd (Nat.two_pow_pos _)

theorem value_eq (d : Double) : d.value = (d.numerator : ℚ) / d.denominator := by
  unfold value numerator denominator
  by_cases he : d.exponent < 0
  · rw [if_pos he, if_pos he, zpow_of_neg he, Nat.pow_eq]
    push_cast
    ring
  · rw [if_neg he, if_neg he, zpow_of_nonneg he, Nat.pow_eq]
    push_cast
    ring

theorem value_nonneg (d : Double) : 0 ≤ d.value := by
  unfold value
  positivity

/-! ### Whole numbers -/

/-- A rounded quotient is off by at most one half. -/
theorem roundDiv_near (n : Nat) {m : Nat} (hm : 0 < m) :
    |(roundDiv n m : ℚ) - n / m| ≤ 1 / 2 := by
  have hm' : (0 : ℚ) < m := by exact_mod_cast hm
  have hsplit : (n : ℚ) / m = (n / m : Nat) + (n % m : Nat) / (m : ℚ) := by
    field_simp
    exact_mod_cast (Nat.div_add_mod n m).symm
  have hrest : ((n % m : Nat) : ℚ) / m * 2 = (2 * (n % m) : Nat) / (m : ℚ) := by
    push_cast
    ring
  have hfull : ((n % m : Nat) : ℚ) / m < 1 := by
    rw [div_lt_one hm']
    exact_mod_cast Nat.mod_lt n hm
  have hpos : (0 : ℚ) ≤ ((n % m : Nat) : ℚ) / m := by positivity
  rw [hsplit, abs_le]
  simp only [roundDiv]
  -- it is rounded up exactly if the rest is at least one half
  split
  · next hup =>
      have hhalf : m ≤ 2 * (n % m) := by
        simp only [Bool.or_eq_true, Bool.and_eq_true, decide_eq_true_eq, beq_iff_eq] at hup
        omega
      have hle : (1 : ℚ) ≤ ((n % m : Nat) : ℚ) / m * 2 := by
        rw [hrest, one_le_div hm']
        exact_mod_cast hhalf
      push_cast
      constructor <;> linarith
  · next hdown =>
      have hhalf : 2 * (n % m) ≤ m := by
        simp only [Bool.or_eq_true, decide_eq_true_eq, not_or, not_lt] at hdown
        exact hdown.1
      have hle : ((n % m : Nat) : ℚ) / m * 2 ≤ 1 := by
        rw [hrest, div_le_one hm']
        exact_mod_cast hhalf
      constructor <;> linarith

/-- The same of a quotient in units of a power of two. -/
theorem scaledDiv_near (n : Nat) {m : Nat} (hm : 0 < m) (e : Int) :
    |(scaledDiv n m e : ℚ) - n / m / 2 ^ e| ≤ 1 / 2 := by
  unfold scaledDiv
  by_cases he : e < 0
  · have hnear := roundDiv_near (n * Nat.pow 2 e.natAbs) hm
    have hsame : (n : ℚ) / m / 2 ^ e = ((n * Nat.pow 2 e.natAbs : Nat) : ℚ) / m := by
      rw [zpow_of_neg he, Nat.pow_eq]
      push_cast
      field_simp
    rwa [if_pos he, hsame]
  · have hscale : 0 < m * Nat.pow 2 e.natAbs := Nat.mul_pos hm (Nat.two_pow_pos _)
    have hnear := roundDiv_near n hscale
    have hsame : (n : ℚ) / m / 2 ^ e = (n : ℚ) / ((m * Nat.pow 2 e.natAbs : Nat) : ℚ) := by
      rw [zpow_of_nonneg he, Nat.pow_eq]
      push_cast
      field_simp
    rwa [if_neg he, hsame]

theorem belowPower_iff (n : Nat) {m : Nat} (hm : 0 < m) (e : Int) :
    belowPower n m e = true ↔ (n : ℚ) / m < 2 ^ e := by
  have hm' : (0 : ℚ) < m := by exact_mod_cast hm
  unfold belowPower
  by_cases he : e < 0
  · rw [if_pos he, decide_eq_true_eq, zpow_of_neg he, div_lt_div_iff₀ hm' (by positivity),
      one_mul]
    exact_mod_cast Iff.rfl
  · rw [if_neg he, decide_eq_true_eq, zpow_of_nonneg he, div_lt_iff₀ hm', mul_comm]
    exact_mod_cast Iff.rfl

/-! ### Exponents -/

section Ratio

variable {n m : Nat} (hn : 0 < n) (hm : 0 < m)

include hn hm

/-- A quotient lies above the power of two below that of the lengths of its terms. -/
theorem two_zpow_log2_le : (2 : ℚ) ^ ((n.log2 : Int) - m.log2 - 1) ≤ n / m := by
  have hm' : (0 : ℚ) < m := by exact_mod_cast hm
  have hlow : ((2 ^ n.log2 : Nat) : ℚ) ≤ n := by exact_mod_cast Nat.log2_self_le (by omega)
  have hhigh : (m : ℚ) < ((2 ^ (m.log2 + 1) : Nat) : ℚ) := by exact_mod_cast Nat.lt_log2_self
  have hsum : (2 : ℚ) ^ ((n.log2 : Int) - m.log2 - 1) * ((2 ^ (m.log2 + 1) : Nat) : ℚ) =
      ((2 ^ n.log2 : Nat) : ℚ) := by
    push_cast
    rw [← zpow_natCast, ← zpow_natCast, ← zpow_add₀ two_ne_zero]
    congr 1
    push_cast
    ring
  rw [le_div_iff₀ hm']
  calc (2 : ℚ) ^ ((n.log2 : Int) - m.log2 - 1) * m
      ≤ 2 ^ ((n.log2 : Int) - m.log2 - 1) * ((2 ^ (m.log2 + 1) : Nat) : ℚ) := by
        apply mul_le_mul_of_nonneg_left hhigh.le
        positivity
    _ = ((2 ^ n.log2 : Nat) : ℚ) := hsum
    _ ≤ n := hlow

/-- The unit in the last place of a quotient is the least there is, or 53 bits of it make no more
than the quotient. -/
theorem two_zpow_quotientExponent_le :
    quotientExponent n m = leastExponent ∨ (2 : ℚ) ^ (quotientExponent n m + 52) ≤ n / m := by
  have hfloor : ∀ floor : Int, (2 : ℚ) ^ floor ≤ n / m →
      max (floor - 52) leastExponent = leastExponent ∨
        (2 : ℚ) ^ (max (floor - 52) leastExponent + 52) ≤ n / m := by
    intro floor hle
    rcases le_total (floor - 52) leastExponent with hsmall | hlarge
    · exact Or.inl (max_eq_right hsmall)
    · right
      rw [max_eq_left hlarge, sub_add_cancel]
      exact hle
  unfold quotientExponent
  apply hfloor
  split
  · exact two_zpow_log2_le hn hm
  · next hnot =>
      rw [Bool.not_eq_true, ← Bool.not_eq_true, belowPower_iff n hm, not_lt] at hnot
      exact hnot

end Ratio

/-! ### Quotients -/

/-- What a quotient has to be below to have a double: the greatest double and half a unit more. -/
def limit : ℚ := (2 ^ 54 - 1) * 2 ^ 970

/-- By how much a rounded quotient may be off. -/
def slack (x : ℚ) : ℚ := max (x / 2 ^ 53) (1 / 2 ^ 1075)

/-- Half a unit in the last place of a quotient. -/
theorem half_unit_le_slack {n m : Nat} (hn : 0 < n) (hm : 0 < m) :
    (2 : ℚ) ^ quotientExponent n m / 2 ≤ slack (n / m) := by
  rcases two_zpow_quotientExponent_le hn hm with hleast | hle
  · apply le_max_of_le_right
    have hsame : (2 : ℚ) ^ (-1074 : Int) / 2 = 1 / 2 ^ 1075 := by
      rw [show (-1074 : Int) = -(1074 : Nat) from rfl, zpow_neg, zpow_natCast, pow_succ _ 1074]
      field_simp
    rw [hleast, leastExponent, hsame]
  · apply le_max_of_le_left
    rw [zpow_add₀ two_ne_zero] at hle
    rw [le_div_iff₀ (by positivity)]
    calc (2 : ℚ) ^ quotientExponent n m / 2 * 2 ^ 53
        = 2 ^ quotientExponent n m * 2 ^ (52 : Int) := by norm_num; ring
      _ ≤ n / m := hle

/-- A quotient below the limit has a unit that a double may have. -/
theorem quotientExponent_le {n m : Nat} (hn : 0 < n) (hm : 0 < m) (hlimit : (n : ℚ) / m < limit) :
    quotientExponent n m ≤ greatestExponent := by
  rcases two_zpow_quotientExponent_le hn hm with hleast | hle
  · rw [hleast]
    decide
  · have hpower : (2 : ℚ) ^ (quotientExponent n m + 52) < 2 ^ (1024 : Int) := by
      refine lt_of_le_of_lt hle (hlimit.trans ?_)
      have hsplit : (2 : ℚ) ^ (1024 : Int) = 2 ^ 54 * 2 ^ 970 := by
        rw [← pow_add]
        rfl
      rw [limit, hsplit]
      gcongr
      norm_num
    have hexponent := (zpow_lt_zpow_iff_right₀ one_lt_two).mp hpower
    rw [greatestExponent]
    omega

/-- A mantissa that is rounded up to 54 bits leaves room for the next exponent: at the greatest one it
would stand for the limit. -/
theorem quotientExponent_lt_of_full {n m : Nat} (hn : 0 < n) (hm : 0 < m)
    (hlimit : (n : ℚ) / m < limit) (hfull : scaledDiv n m (quotientExponent n m) = 2 ^ 53) :
    quotientExponent n m < greatestExponent := by
  apply lt_of_le_of_ne (quotientExponent_le hn hm hlimit)
  intro heq
  have hnear := scaledDiv_near n hm (quotientExponent n m)
  rw [hfull, heq, greatestExponent, Nat.cast_pow, Nat.cast_ofNat] at hnear
  have hlow := (abs_le.mp hnear).2
  have hquotient : (n : ℚ) / m / 2 ^ (971 : Int) < 2 ^ 53 - 1 / 2 := by
    have hsplit : (2 : ℚ) ^ (971 : Int) = 2 * 2 ^ 970 := by
      rw [← pow_succ']
      rfl
    rw [div_lt_iff₀ (by positivity), hsplit, ← mul_assoc]
    refine hlimit.trans_eq ?_
    unfold limit
    congr 1
    norm_num
  linarith

/-- The mantissa, in units of the last place, is off by no more than the slack. -/
theorem scaledDiv_mul_near {n m : Nat} (hn : 0 < n) (hm : 0 < m) :
    |(scaledDiv n m (quotientExponent n m) : ℚ) * 2 ^ quotientExponent n m - n / m| ≤
      slack (n / m) := by
  have hnear := scaledDiv_near n hm (quotientExponent n m)
  have hunit := half_unit_le_slack hn hm
  generalize quotientExponent n m = e at hnear hunit ⊢
  have hpower : (0 : ℚ) < 2 ^ e := by positivity
  have hscaled : (scaledDiv n m e : ℚ) * 2 ^ e - n / m =
      (scaledDiv n m e - n / m / 2 ^ e) * 2 ^ e := by
    field_simp
  rw [hscaled, abs_mul, abs_of_pos hpower]
  calc |(scaledDiv n m e : ℚ) - n / m / 2 ^ e| * 2 ^ e ≤ 1 / 2 * 2 ^ e := by gcongr
    _ = 2 ^ e / 2 := by ring
    _ ≤ slack (n / m) := hunit

/-- Every quotient below the limit is rounded to a double, by no more than its slack. -/
theorem ofRatio?_near (negative : Bool) (n : Nat) {m : Nat} (hm : 0 < m)
    (hlimit : (n : ℚ) / m < limit) :
    ∃ r, ofRatio? negative n m = some r ∧ |r.value - n / m| ≤ slack (n / m) := by
  rcases Nat.eq_zero_or_pos n with rfl | hn
  · refine ⟨zero negative, rfl, ?_⟩
    simp [value, zero, slack]
  have hexponent := quotientExponent_le hn hm hlimit
  have hroom := quotientExponent_lt_of_full hn hm hlimit
  have hvalue := scaledDiv_mul_near hn hm
  unfold ofRatio?
  rw [if_neg (by simpa using hn.ne')]
  extract_lets e mantissa rounded
  by_cases hfull : mantissa = 2 ^ 53
  · -- such a mantissa is one of 53 bits with the next exponent
    have hnext : ¬ e + 1 > greatestExponent := not_lt.mpr (hroom hfull)
    have hrounded : rounded = ⟨negative, Nat.pow 2 52, e + 1⟩ := if_pos (by simp [hfull])
    refine ⟨⟨negative, Nat.pow 2 52, e + 1⟩, ?_, ?_⟩
    · rw [hrounded, if_neg hnext]
    · have hsame : (⟨negative, Nat.pow 2 52, e + 1⟩ : Double).value = (mantissa : ℚ) * 2 ^ e := by
        rw [hfull, value, zpow_add₀ two_ne_zero, Nat.pow_eq]
        push_cast
        ring
      rw [hsame]
      exact hvalue
  · have hrounded : rounded = ⟨negative, mantissa, e⟩ := if_neg (by simpa using hfull)
    refine ⟨⟨negative, mantissa, e⟩, ?_, hvalue⟩
    rw [hrounded, if_neg (not_lt.mpr hexponent)]

/-! ### Operations -/

variable {a b : Double}

theorem mul?_near (hlimit : a.value * b.value < limit) :
    ∃ r, a.mul? b = some r ∧ |r.value - a.value * b.value| ≤ slack (a.value * b.value) := by
  have hvalue : ((a.numerator * b.numerator : Nat) : ℚ) /
      ((a.denominator * b.denominator : Nat) : ℚ) = a.value * b.value := by
    rw [a.value_eq, b.value_eq]
    push_cast
    ring
  rw [← hvalue] at hlimit ⊢
  exact ofRatio?_near _ _ (Nat.mul_pos a.denominator_pos b.denominator_pos) hlimit

theorem div?_near (hb : 0 < b.mantissa) (hlimit : a.value / b.value < limit) :
    ∃ r, a.div? b = some r ∧ |r.value - a.value / b.value| ≤ slack (a.value / b.value) := by
  have hvalue : ((a.numerator * b.denominator : Nat) : ℚ) /
      ((a.denominator * b.numerator : Nat) : ℚ) = a.value / b.value := by
    rw [a.value_eq, b.value_eq]
    push_cast
    rw [div_div_div_eq]
  rw [← hvalue] at hlimit ⊢
  exact ofRatio?_near _ _ (Nat.mul_pos a.denominator_pos (numerator_pos hb)) hlimit

/-- Above one, a double is off by one part in `2 ^ 53`. -/
theorem slack_of_one_le {x : ℚ} (hx : 1 ≤ x) : slack x = x / 2 ^ 53 := by
  apply max_eq_left
  calc (1 : ℚ) / 2 ^ 1075 ≤ 1 / 2 ^ 53 := by
        apply one_div_le_one_div_of_le (by positivity)
        exact pow_le_pow_right₀ one_le_two (by norm_num)
    _ ≤ x / 2 ^ 53 := by gcongr

theorem ofInt_near {n : Nat} (hn : 0 < n) (hlimit : (n : ℚ) < limit) :
    |(ofInt n).value - n| ≤ n / 2 ^ 53 := by
  have hone : (n : ℚ) / (1 : Nat) = n := by norm_num
  obtain ⟨r, hr, hnear⟩ := ofRatio?_near (decide ((n : Int) < 0)) n Nat.one_pos (by rwa [hone])
  rw [hone, slack_of_one_le (by exact_mod_cast hn)] at hnear
  rw [ofInt, Int.natAbs_natCast, hr]
  exact hnear

theorem powerOfTen?_near {k : Nat} (hlimit : (10 : ℚ) ^ k < limit) :
    ∃ r, powerOfTen? k = some r ∧ |r.value - 10 ^ k| ≤ 10 ^ k / 2 ^ 53 := by
  have hpower : ((Nat.pow 10 k : Nat) : ℚ) / (1 : Nat) = 10 ^ k := by
    rw [Nat.pow_eq]
    push_cast
    ring
  obtain ⟨r, hr, hnear⟩ := ofRatio?_near false (Nat.pow 10 k) Nat.one_pos (by rwa [hpower])
  rw [hpower, slack_of_one_le (one_le_pow₀ (by norm_num))] at hnear
  exact ⟨r, hr, hnear⟩

end DocAccess.Decimal.Double
