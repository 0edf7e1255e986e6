import DocAccess.Store.Basic
import Mathlib.Tactic

/-!
# Serial numbers

A store numbers its documents in sixteen hexadecimal digits.  Numbers of one word have exactly
that many, and the texts are ordered as the numbers are, so that the order of two texts tells which
document was accepted first.
-/

namespace DocAccess.Store

/-- The last `width` hexadecimal digits of a number, zeros in front. -/
def hexDigits : Nat → Nat → List Char
  | 0, _ => []
  | width + 1, n => hexDigits width (n / 16) ++ [Nat.digitChar (n % 16)]

theorem length_hexDigits (width n : Nat) : (hexDigits width n).length = width := by
  induction width generalizing n with
  | zero => rfl
  | succ width ih => simp [hexDigits, ih]

theorem hexDigits_zero (width : Nat) : hexDigits width 0 = List.replicate width '0' := by
  induction width with
  | zero => rfl
  | succ width ih =>
      rw [List.replicate_succ', hexDigits, Nat.zero_div, ih]
      rfl

/-- A number that fits is padded to the digits of its width. -/
theorem replicate_append_toDigits (width n : Nat) (hwidth : 0 < width) (hn : n < 16 ^ width) :
    List.replicate (width - (Nat.toDigits 16 n).length) '0' ++ Nat.toDigits 16 n =
      hexDigits width n := by
  induction width generalizing n with
  | zero => omega
  | succ width ih =>
      by_cases hsmall : n < 16
      · have hdiv : n / 16 = 0 := Nat.div_eq_of_lt hsmall
        have hmod : n % 16 = n := Nat.mod_eq_of_lt hsmall
        rw [Nat.toDigits_of_lt_base hsmall, hexDigits, hdiv, hmod, hexDigits_zero]
        rfl
      · have hlarge : 16 ≤ n := Nat.le_of_not_lt hsmall
        have hpositive : 0 < width := by
          rcases Nat.eq_zero_or_pos width with hzero | hpositive
          · subst hzero
            omega
          · exact hpositive
        have hdiv : n / 16 < 16 ^ width := by
          rw [pow_succ] at hn
          omega
        have hlength : width + 1 - (Nat.toDigits 16 (n / 16) ++ [Nat.digitChar (n % 16)]).length =
            width - (Nat.toDigits 16 (n / 16)).length := by
          simp
        rw [Nat.toDigits_of_base_le (by decide) hlarge, hlength, ← List.append_assoc,
          ih (n / 16) hpositive hdiv]
        rfl

/-! ### Order -/

theorem digitChar_lt {a b : Nat} (hab : a < b) (hb : b < 16) :
    Nat.digitChar a < Nat.digitChar b := by
  have hall : ∀ b < 16, ∀ a < b, Nat.digitChar a < Nat.digitChar b := by decide
  exact hall b hb a hab

theorem append_lt_append {l l' : List Char} (hlength : l.length = l'.length) (hlt : l < l')
    (r r' : List Char) : l ++ r < l' ++ r' := by
  induction l generalizing l' with
  | nil =>
      cases l' with
      | nil => exact absurd hlt (List.lt_irrefl [])
      | cons c' l' => simp at hlength
  | cons c l ih =>
      cases l' with
      | nil => simp at hlength
      | cons c' l' =>
          rcases List.cons_lt_cons_iff.mp hlt with hhead | ⟨rfl, htail⟩
          · exact List.cons_lt_cons_iff.mpr (Or.inl hhead)
          · exact List.cons_lt_cons_iff.mpr (Or.inr ⟨rfl, ih (by simpa using hlength) htail⟩)

theorem append_lt_append_left (l : List Char) {r r' : List Char} (hlt : r < r') :
    l ++ r < l ++ r' := by
  induction l with
  | nil => exact hlt
  | cons c l ih => exact List.cons_lt_cons_iff.mpr (Or.inr ⟨rfl, ih⟩)

theorem hexDigits_lt (width : Nat) {m n : Nat} (hmn : m < n) (hn : n < 16 ^ width) :
    hexDigits width m < hexDigits width n := by
  induction width generalizing m n with
  | zero =>
      rw [pow_zero] at hn
      omega
  | succ width ih =>
      rw [pow_succ] at hn
      -- the last digit decides only between numbers with the same digits in front of it
      rcases Nat.lt_or_ge (m / 16) (n / 16) with hfront | hfront
      · exact append_lt_append (by rw [length_hexDigits, length_hexDigits])
          (ih hfront (by omega)) _ _
      · have hsame : m / 16 = n / 16 := by omega
        have hlast : m % 16 < n % 16 := by omega
        rw [hexDigits, hexDigits, hsame]
        exact append_lt_append_left _
          (List.cons_lt_cons_iff.mpr (Or.inl (digitChar_lt hlast (Nat.mod_lt _ (by decide)))))

/-! ### Sixteen digits -/

theorem toList_sixteenDigits {n : Nat} (hn : n < UInt64.size) :
    (sixteenDigits n).toList = hexDigits 16 n := by
  rw [sixteenDigits, String.toList_ofList]
  exact replicate_append_toDigits 16 n (by decide) hn

theorem length_sixteenDigits {n : Nat} (hn : n < UInt64.size) :
    (sixteenDigits n).length = 16 := by
  rw [← String.length_toList, toList_sixteenDigits hn, length_hexDigits]

theorem sixteenDigits_lt {m n : Nat} (hmn : m < n) (hn : n < UInt64.size) :
    sixteenDigits m < sixteenDigits n := by
  show (sixteenDigits m).toList < (sixteenDigits n).toList
  rw [toList_sixteenDigits (Nat.lt_trans hmn hn), toList_sixteenDigits hn]
  exact hexDigits_lt 16 hmn hn

theorem sixteenDigits_injective {m n : Nat} (hm : m < UInt64.size) (hn : n < UInt64.size)
    (heq : sixteenDigits m = sixteenDigits n) : m = n := by
  rcases Nat.lt_trichotomy m n with hlt | hsame | hlt
  · exact absurd heq (Std.ne_of_lt (sixteenDigits_lt hlt hn))
  · exact hsame
  · exact absurd heq.symm (Std.ne_of_lt (sixteenDigits_lt hlt hm))

end DocAccess.Store
