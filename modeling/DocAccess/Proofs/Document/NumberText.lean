import DocAccess.Proofs.Decimal.Shortest
import DocAccess.Proofs.Document.Scaling

/-!
# Reading the texts of numbers

The texts that are written for numbers without a sign are put together from runs of digits, and they
are cut into the same runs again.  An integer that is read from its text is the same integer.  A double
is read from its text as some double: the text never spells so much that it would be out of range.

* `readParts?_spelling` — the parts of a text are found again.
* `ofText?_toString` — an integer is read from its text.
* `spells_magnitudeParts` — the texts of decimals.
* `exists_ofText?_text` — a double is read from its text.
-/

namespace DocAccess.Document.Number

open DocAccess.Decimal

/-! ### Runs of digits -/

/-- A run of one digit or more. -/
structure AreDigits (cs : List Char) : Prop where
  ne_nil : cs ≠ []
  isDigit : ∀ c ∈ cs, c.isDigit = true

/-- Whether a run of digits ends in front of a text. -/
def EndsDigits (rest : List Char) : Prop := ∀ c ∈ rest.head?, c.isDigit = false

theorem endsDigits_nil : EndsDigits [] := by
  rintro c ⟨⟩

theorem areDigits_toDigits (n : Nat) : AreDigits (Nat.toDigits 10 n) where
  ne_nil := Nat.toDigits_ne_nil
  isDigit _ hc := Nat.isDigit_of_mem_toDigits (by decide) (by decide) hc

theorem takeWhile_digits {cs rest : List Char} (hcs : ∀ c ∈ cs, c.isDigit = true)
    (hrest : EndsDigits rest) : (cs ++ rest).takeWhile Char.isDigit = cs := by
  rw [List.takeWhile_append_of_pos hcs]
  cases rest with
  | nil => rw [List.takeWhile_nil, List.append_nil]
  | cons c rest => rw [List.takeWhile_cons_of_neg (by simp [hrest c rfl]), List.append_nil]

theorem dropWhile_digits {cs rest : List Char} (hcs : ∀ c ∈ cs, c.isDigit = true)
    (hrest : EndsDigits rest) : (cs ++ rest).dropWhile Char.isDigit = rest := by
  rw [List.dropWhile_append_of_pos hcs]
  cases rest with
  | nil => rfl
  | cons c rest => rw [List.dropWhile_cons_of_neg (by simp [hrest c rfl])]

/-! ### Spellings -/

/-- The text of a fraction, if there is one. -/
def fractionText : Option (List Char) → List Char
  | none => []
  | some digits => '.' :: digits

/-- The text of an exponent, if there is one. -/
def exponentText : Option (Bool × List Char) → List Char
  | none => []
  | some (negative, digits) => 'e' :: (if negative then '-' else '+') :: digits

/-- The text of a number without a sign. -/
def Parts.spelling (p : Parts) : List Char :=
  p.whole ++ (fractionText p.fraction ++ exponentText p.exponent)

/-- Parts that make the text of a number without a sign. -/
structure Parts.WellFormed (p : Parts) : Prop where
  unsigned : p.negative = false
  whole : AreDigits p.whole
  /-- A whole part of more than one digit does not start with zero. -/
  leading : p.whole = ['0'] ∨ p.whole.head? ≠ some '0'
  fraction : ∀ digits ∈ p.fraction, AreDigits digits
  exponent : ∀ e ∈ p.exponent, AreDigits e.2

theorem endsDigits_exponentText (e : Option (Bool × List Char)) : EndsDigits (exponentText e) := by
  intro c hc
  cases e with
  | none => cases hc
  | some e =>
      obtain rfl : 'e' = c := by simpa [exponentText] using hc
      decide

theorem endsDigits_fractionText (f : Option (List Char)) (e : Option (Bool × List Char)) :
    EndsDigits (fractionText f ++ exponentText e) := by
  cases f with
  | none => exact endsDigits_exponentText e
  | some f =>
      intro c hc
      obtain rfl : '.' = c := by simpa [fractionText] using hc
      decide

theorem readExponent?_text {e : Option (Bool × List Char)} (he : ∀ x ∈ e, AreDigits x.2) :
    readExponent? (exponentText e) = some (e, []) := by
  cases e with
  | none => rfl
  | some e =>
      obtain ⟨negative, digits⟩ := e
      have hdigits : AreDigits digits := he _ rfl
      have htake := takeWhile_digits hdigits.isDigit endsDigits_nil
      have hdrop := dropWhile_digits hdigits.isDigit endsDigits_nil
      rw [List.append_nil] at htake hdrop
      have hempty : digits.isEmpty = false := by simpa using hdigits.ne_nil
      cases negative <;> simp [exponentText, readExponent?, readExponentSign, htake, hdrop, hempty]

theorem readFraction?_text {f : Option (List Char)} (hf : ∀ x ∈ f, AreDigits x)
    (e : Option (Bool × List Char)) :
    readFraction? (fractionText f ++ exponentText e) = some (f, exponentText e) := by
  cases f with
  | none => cases e <;> rfl
  | some digits =>
      have hdigits : AreDigits digits := hf _ rfl
      have htake := takeWhile_digits hdigits.isDigit (endsDigits_exponentText e)
      have hdrop := dropWhile_digits hdigits.isDigit (endsDigits_exponentText e)
      have hempty : digits.isEmpty = false := by simpa using hdigits.ne_nil
      simp [fractionText, readFraction?, htake, hdrop, hempty]

theorem readWhole?_append {cs rest : List Char} (hcs : AreDigits cs)
    (hleading : cs = ['0'] ∨ cs.head? ≠ some '0') (hrest : EndsDigits rest) :
    readWhole? (cs ++ rest) = some (cs, rest) := by
  rcases hleading with rfl | hleading
  · have hnext : (rest.head?.map Char.isDigit).getD false = false := by
      cases rest with
      | nil => rfl
      | cons c rest => exact hrest c rfl
    rw [List.singleton_append, readWhole?, if_neg (by simp [hnext])]
  · have htake := takeWhile_digits hcs.isDigit hrest
    have hdrop := dropWhile_digits hcs.isDigit hrest
    have hempty : cs.isEmpty = false := by simpa using hcs.ne_nil
    rw [readWhole?]
    · simp [htake, hdrop, hempty]
    · -- the text does not start with zero
      intro rest' hzero
      cases cs with
      | nil => exact hcs.ne_nil rfl
      | cons c cs =>
          apply hleading
          rw [List.cons_append] at hzero
          rw [(List.cons.inj hzero).1]
          rfl

/-- The parts of a text are found again. -/
theorem readParts?_spelling {p : Parts} (hp : p.WellFormed) :
    readParts? p.spelling = some (p, []) := by
  have hwhole := readWhole?_append hp.whole hp.leading
    (endsDigits_fractionText p.fraction p.exponent)
  have hfraction := readFraction?_text hp.fraction p.exponent
  have hexponent := readExponent?_text hp.exponent
  rw [Parts.spelling, readParts?]
  · simp [hwhole, hfraction, hexponent, ← hp.unsigned]
  · -- a text that starts with a digit has no sign
    intro rest hminus
    cases hcs : p.whole with
    | nil => exact hp.whole.ne_nil hcs
    | cons c cs =>
        rw [hcs, List.cons_append] at hminus
        have hdigit := hp.whole.isDigit c (by rw [hcs]; exact List.mem_cons_self)
        rw [(List.cons.inj hminus).1] at hdigit
        exact absurd hdigit (by decide)

/-- A whole text denotes what its parts denote. -/
theorem ofText?_spelling {p : Parts} (hp : p.WellFormed) :
    ofText? (String.ofList p.spelling) = ofParts? p := by
  rw [ofText?, String.toList_ofList, read?, readParts?_spelling hp]
  cases h : ofParts? p <;> simp [h]

/-! ### Integers -/

/-- Only the text of zero starts with zero. -/
theorem head?_toDigits {n : Nat} (hn : 0 < n) : (Nat.toDigits 10 n).head? ≠ some '0' := by
  induction n using Nat.strong_induction_on with
  | _ n ih =>
      rcases Nat.lt_or_ge n 10 with hsmall | hlarge
      · rw [Nat.toDigits_of_lt_base hsmall]
        interval_cases n <;> decide
      · rw [Nat.toDigits_of_base_le (by decide) hlarge,
          List.head?_append_of_ne_nil _ Nat.toDigits_ne_nil]
        exact ih (n / 10) (Nat.div_lt_self hn (by decide)) (by omega)

/-- The parts of the text of an integer. -/
def integerParts (n : Nat) : Parts := ⟨false, Nat.toDigits 10 n, none, none⟩

theorem wellFormed_integerParts (n : Nat) : (integerParts n).WellFormed where
  unsigned := rfl
  whole := areDigits_toDigits n
  leading := by
    rcases Nat.eq_zero_or_pos n with rfl | hn
    · exact .inl (Nat.toDigits_zero 10)
    · exact .inr (head?_toDigits hn)
  fraction _ h := by cases h
  exponent _ h := by cases h

theorem spelling_integerParts (n : Nat) : (integerParts n).spelling = (integer n).text.toList := by
  have htext : (integer n).text = String.ofList (Nat.toDigits 10 n) := rfl
  rw [htext, String.toList_ofList]
  exact List.append_nil _

/-- An integer of 64 bits is read from its text. -/
theorem ofText?_integer {n : Nat} (hn : n ≤ maxSignificand) :
    ofText? (integer n).text = some (integer n) := by
  have hdigits : Nat.ofDigitChars 10 (Nat.toDigits 10 n) 0 = n := Nat.ofDigitChars_ten_toDigits
  have happend := appendDigits_of_le (hdigits.trans_le hn)
  rw [hdigits] at happend
  rw [← String.ofList_toList (s := (integer n).text), ← spelling_integerParts,
    ofText?_spelling (wellFormed_integerParts n), ofParts?]
  simp [integerParts, happend, hn]

/-! ### Decimals -/

/-- The parts of the text of a decimal. -/
def magnitudeParts (x : Digits) : Parts :=
  let ds := Nat.toDigits 10 x.digits
  let point := (ds.length : Int) + x.exponent
  if 0 ≤ x.exponent && point ≤ 16 then
    ⟨false, ds ++ List.replicate x.exponent.natAbs '0', some ['0'], none⟩
  else if 0 < point && point ≤ 16 then
    ⟨false, ds.take point.natAbs, some (ds.drop point.natAbs), none⟩
  else if -5 < point && point ≤ 0 then
    ⟨false, ['0'], some (List.replicate point.natAbs '0' ++ ds), none⟩
  else
    ⟨false, ds.take 1, if ds.length = 1 then none else some (ds.drop 1),
      some (decide (point - 1 < 0), Nat.toDigits 10 (point - 1).natAbs)⟩

theorem spelling_magnitudeParts (x : Digits) :
    (magnitudeParts x).spelling = Double.magnitudeText x := by
  unfold magnitudeParts Double.magnitudeText
  extract_lets ds point length point' power sign front
  split
  · simp [Parts.spelling, fractionText, exponentText]
  split
  · simp [Parts.spelling, fractionText, exponentText]
    rfl
  split
  · simp [Parts.spelling, fractionText, exponentText]
    rfl
  · have hsign : sign = if decide (power < 0) then '-' else '+' := by simp [sign]
    have hfront : front = ds.take 1 ++
        fractionText (if ds.length = 1 then none else some (ds.drop 1)) := by
      simp only [front]
      cases hds : ds with
      | nil => exact absurd hds Nat.toDigits_ne_nil
      | cons first rest => cases rest <;> simp [fractionText]
    rw [hfront, hsign]
    simp only [Parts.spelling, exponentText, List.append_assoc, List.cons_append, List.nil_append]
    rfl

/-- What holds of the parts of the text of a decimal. -/
structure Spells (p : Parts) (x : Digits) : Prop where
  wellFormed : p.WellFormed
  value : p.value = x.value
  whole : Nat.ofDigitChars 10 p.whole 0 ≤ maxSignificand
  /-- The text does not read as an integer. -/
  inexact : (p.fraction.isNone && p.exponent.isNone) = false
  scale : p.scale ≤ 0 ∨ 10 ^ p.scale ≤ x.value

theorem isDigit_iff {c : Char} : c.isDigit = true ↔ 48 ≤ c.toNat ∧ c.toNat ≤ 57 := by
  rw [Char.isDigit, Bool.and_eq_true, decide_eq_true_eq, decide_eq_true_eq]
  exact Iff.rfl

/-- A number is smaller than the power of ten of its digits. -/
theorem ofDigitChars_lt {cs : List Char} (hcs : ∀ c ∈ cs, c.isDigit = true) :
    Nat.ofDigitChars 10 cs 0 < 10 ^ cs.length := by
  induction cs using List.reverseRecOn with
  | nil => decide
  | append_singleton cs c ih =>
      have hdigit : c.toNat - '0'.toNat ≤ 9 := by
        have hc := isDigit_iff.mp (hcs c (List.mem_append_right _ (List.mem_singleton_self c)))
        have hzero : '0'.toNat = 48 := rfl
        omega
      have hlt := ih fun d hd => hcs d (List.mem_append_left _ hd)
      rw [Nat.ofDigitChars_append, Nat.ofDigitChars_cons, Nat.ofDigitChars_nil,
        List.length_append, List.length_singleton, pow_succ]
      omega

/-- A number that does not start with zero is at least the power of ten of its other digits. -/
theorem pow_le_ofDigitChars {first : Char} (hdigit : first.isDigit = true) (hne : first ≠ '0')
    (rest : List Char) : 10 ^ rest.length ≤ Nat.ofDigitChars 10 (first :: rest) 0 := by
  have hfront : 1 ≤ first.toNat - '0'.toNat := by
    have hcode : first.toNat ≠ 48 := fun h => hne (Char.toNat_inj.mp h)
    have hbounds := isDigit_iff.mp hdigit
    have hzero : '0'.toNat = 48 := rfl
    omega
  rw [Nat.ofDigitChars_cons, Nat.ofDigitChars_eq_ofDigitChars_zero, Nat.mul_zero, Nat.zero_add]
  exact (Nat.le_mul_of_pos_right _ hfront).trans (Nat.le_add_right _ _)

theorem whole_le {cs : List Char} (hcs : ∀ c ∈ cs, c.isDigit = true) (hlength : cs.length ≤ 16) :
    Nat.ofDigitChars 10 cs 0 ≤ maxSignificand := by
  have hpower : 10 ^ cs.length ≤ 10 ^ 16 := Nat.pow_le_pow_right (by decide) hlength
  have hmax : 10 ^ 16 ≤ maxSignificand := by decide
  exact ((ofDigitChars_lt hcs).le.trans hpower).trans hmax

theorem isDigit_of_mem_replicate {c : Char} {k : Nat} (hc : c ∈ List.replicate k '0') :
    c.isDigit = true := by
  rw [(List.mem_replicate.mp hc).2]
  decide

/-- An exponent that is written down is found again. -/
theorem scale_of_power {p : Parts} {power : Int}
    (hp : p.exponent = some (decide (power < 0), Nat.toDigits 10 power.natAbs)) :
    p.scale = power := by
  simp only [Parts.scale, hp, Nat.ofDigitChars_ten_toDigits]
  split
  · next h =>
      rw [decide_eq_true_eq] at h
      omega
  · next h =>
      rw [decide_eq_true_eq] at h
      omega

section Forms

variable {x : Digits} {ds : List Char} (hds : AreDigits ds) (hhead : ds.head? ≠ some '0')
  (hvalue : Nat.ofDigitChars 10 ds 0 = x.digits)

include hds hvalue

include hhead in
/-- A whole number with zeros behind its digits. -/
theorem spells_whole (he : 0 ≤ x.exponent) (hpoint : (ds.length : Int) + x.exponent ≤ 16) :
    Spells ⟨false, ds ++ List.replicate x.exponent.natAbs '0', some ['0'], none⟩ x := by
  have hdigits : ∀ c ∈ ds ++ List.replicate x.exponent.natAbs '0', c.isDigit = true := by
    intro c hc
    rcases List.mem_append.mp hc with hc | hc
    · exact hds.isDigit c hc
    · exact isDigit_of_mem_replicate hc
  refine ⟨⟨rfl, ⟨?_, hdigits⟩, .inr ?_, ?_, ?_⟩, ?_, whole_le hdigits ?_, rfl, .inl le_rfl⟩
  · exact List.append_ne_nil_of_left_ne_nil hds.ne_nil _
  · rwa [List.head?_append_of_ne_nil _ hds.ne_nil]
  · rintro _ ⟨⟩
    exact areDigits_toDigits 0
  · rintro _ ⟨⟩
  · have hsize : x.exponent = (x.exponent.natAbs : Int) := by omega
    -- the zero behind the point shifts the digits by one place, and the scale takes that back
    have hall : Nat.ofDigitChars 10 (ds ++ List.replicate x.exponent.natAbs '0' ++ ['0']) 0 =
        10 * (10 ^ x.exponent.natAbs * x.digits) := by
      rw [Nat.ofDigitChars_append, Nat.ofDigitChars_append, hvalue,
        Nat.ofDigitChars_replicate_zero, Nat.ofDigitChars_cons, Nat.ofDigitChars_nil]
      omega
    have hplace : (0 : Int) - (['0'] : List Char).length = -1 := rfl
    simp only [Parts.value, Parts.scale, Option.getD_some, hall, hplace, Digits.value]
    rw [hsize, zpow_natCast, Int.natAbs_natCast, zpow_neg_one]
    push_cast
    ring
  · rw [List.length_append, List.length_replicate]
    omega

include hhead in
/-- Digits with a point among them. -/
theorem spells_pointed (he : x.exponent < 0) (hpos : 0 < (ds.length : Int) + x.exponent)
    (hpoint : (ds.length : Int) + x.exponent ≤ 16) :
    Spells ⟨false, ds.take ((ds.length : Int) + x.exponent).natAbs,
      some (ds.drop ((ds.length : Int) + x.exponent).natAbs), none⟩ x := by
  generalize hk : ((ds.length : Int) + x.exponent).natAbs = k
  have hdigits : ∀ c ∈ ds.take k, c.isDigit = true := fun c hc =>
    hds.isDigit c (List.mem_of_mem_take hc)
  have hne : ds.take k ≠ [] := by
    rw [← List.length_pos_iff, List.length_take]
    omega
  refine ⟨⟨rfl, ⟨hne, hdigits⟩, .inr ?_, ?_, ?_⟩, ?_, whole_le hdigits ?_, rfl, .inl le_rfl⟩
  · rwa [List.head?_take, if_neg (by omega)]
  · rintro _ ⟨⟩
    refine ⟨?_, fun c hc => hds.isDigit c (List.mem_of_mem_drop hc)⟩
    rw [← List.length_pos_iff, List.length_drop]
    omega
  · rintro _ ⟨⟩
  · have hscale : (0 : Int) - (ds.drop k).length = x.exponent := by
      rw [List.length_drop]
      omega
    simp only [Parts.value, Parts.scale, Option.getD_some, List.take_append_drop, hvalue, hscale,
      Digits.value]
  · rw [List.length_take]
    omega

/-- Digits behind a point and some zeros. -/
theorem spells_fraction (hpoint : (ds.length : Int) + x.exponent ≤ 0) :
    Spells ⟨false, ['0'], some (List.replicate ((ds.length : Int) + x.exponent).natAbs '0' ++ ds),
      none⟩ x := by
  have hzero : AreDigits ['0'] := areDigits_toDigits 0
  refine ⟨⟨rfl, hzero, .inl rfl, ?_, ?_⟩, ?_, whole_le hzero.isDigit (show 1 ≤ 16 by decide), rfl,
    .inl le_rfl⟩
  · rintro _ ⟨⟩
    refine ⟨List.append_ne_nil_of_right_ne_nil _ hds.ne_nil, fun c hc => ?_⟩
    rcases List.mem_append.mp hc with hc | hc
    · exact isDigit_of_mem_replicate hc
    · exact hds.isDigit c hc
  · rintro _ ⟨⟩
  · have hscale : (0 : Int) - (List.replicate ((ds.length : Int) + x.exponent).natAbs '0' ++
        ds).length = x.exponent := by
      rw [List.length_append, List.length_replicate]
      omega
    have hall : Nat.ofDigitChars 10 (['0'] ++
        (List.replicate ((ds.length : Int) + x.exponent).natAbs '0' ++ ds)) 0 = x.digits := by
      rw [List.singleton_append, Nat.ofDigitChars_cons, Nat.ofDigitChars_append,
        Nat.ofDigitChars_replicate_zero, ← hvalue]
      simp
    simp only [Parts.value, Parts.scale, Option.getD_some, hall, hscale, Digits.value]

include hhead in
/-- One digit in front of the point, and an exponent. -/
theorem spells_scientific {power : Int} (hpower : (ds.length : Int) + x.exponent - 1 = power) :
    Spells ⟨false, ds.take 1, if ds.length = 1 then none else some (ds.drop 1),
      some (decide (power < 0), Nat.toDigits 10 power.natAbs)⟩ x := by
  cases ds with
  | nil => exact absurd rfl hds.ne_nil
  | cons first rest =>
      have hfirst : first.isDigit = true := hds.isDigit first List.mem_cons_self
      have hrest : ∀ c ∈ rest, c.isDigit = true := fun c hc =>
        hds.isDigit c (List.mem_cons_of_mem _ hc)
      have hone : AreDigits [first] := ⟨List.cons_ne_nil _ _, by simpa using hfirst⟩
      have hfraction : (if (first :: rest).length = 1 then none else some rest).getD [] = rest := by
        split
        · next h => exact (List.length_eq_zero_iff.mp (by simpa using h)).symm
        · rfl
      have hscale := @scale_of_power
        ⟨false, [first], if (first :: rest).length = 1 then none else some rest, _⟩ power rfl
      have hsum : power = rest.length + x.exponent := by
        rw [List.length_cons] at hpower
        omega
      refine ⟨⟨rfl, hone, .inr (by simpa using hhead), ?_, ?_⟩, ?_,
        whole_le hone.isDigit (show 1 ≤ 16 by decide), by simp, .inr ?_⟩
      · intro digits hdigits
        split at hdigits
        · cases hdigits
        · next h =>
            obtain rfl : rest = digits := by simpa using hdigits
            refine ⟨fun hnil => h ?_, hrest⟩
            rw [hnil, List.length_singleton]
      · rintro _ ⟨⟩
        exact areDigits_toDigits _
      · have hback : power - rest.length = x.exponent := by omega
        simp only [Parts.value, List.take_succ_cons, List.take_zero, List.drop_succ_cons,
          List.drop_zero, hfraction, hscale, List.singleton_append, hvalue, hback, Digits.value]
      -- a number is at least the power of its first digit
      · have hne : first ≠ '0' := fun h => hhead (by rw [h]; rfl)
        have hlarge := pow_le_ofDigitChars hfirst hne rest
        rw [hvalue] at hlarge
        simp only [List.take_succ_cons, List.take_zero, List.drop_succ_cons, List.drop_zero, hscale,
          Digits.value]
        rw [hsum, zpow_add₀ (by norm_num), zpow_natCast]
        apply mul_le_mul_of_nonneg_right _ (by positivity)
        exact_mod_cast hlarge

end Forms

theorem spells_magnitudeParts {x : Digits} (hx : 0 < x.digits) : Spells (magnitudeParts x) x := by
  have hds := areDigits_toDigits x.digits
  have hhead := head?_toDigits hx
  have hvalue := Nat.ofDigitChars_ten_toDigits (n := x.digits)
  unfold magnitudeParts
  extract_lets ds point
  have hlength : 0 < ds.length := List.length_pos_iff.mpr hds.ne_nil
  split
  · next h =>
      simp only [Bool.and_eq_true, decide_eq_true_eq] at h
      exact spells_whole hds hhead hvalue h.1 h.2
  split
  · next h' h =>
      simp only [Bool.and_eq_true, decide_eq_true_eq] at h h'
      exact spells_pointed hds hhead hvalue (by omega) h.1 h.2
  split
  · next h =>
      simp only [Bool.and_eq_true, decide_eq_true_eq] at h
      exact spells_fraction hds hvalue h.2
  · exact spells_scientific hds hhead hvalue rfl

/-- A decimal within range is read as a double. -/
theorem exists_ofParts? {p : Parts} {x : Digits} (hp : Spells p x) (hx : x.value ≤ readable) :
    ∃ r, ofParts? p = some (double r) := by
  have hscale : p.scale ≤ maxExponent := by
    rcases hp.scale with hsmall | hlarge
    · exact hsmall.trans (Int.natCast_nonneg _)
    · have hpower : (10 : ℚ) ^ p.scale < 10 ^ (309 : Int) :=
        (hlarge.trans hx).trans_lt readable_lt
      have hlt := (zpow_lt_zpow_iff_right₀ (by norm_num)).mp hpower
      have hmax : (309 : Int) ≤ maxExponent := by decide
      omega
  obtain ⟨r, hr⟩ := exists_doubleOfParts? hp.whole hscale (hp.value.trans_le hx)
  refine ⟨r, ?_⟩
  simp [ofParts?, hp.inexact, hr]

/-! ### Doubles -/

/-- The parts of the text of a double. -/
def doubleParts (d : Double) : Parts :=
  if d.isZero then ⟨false, ['0'], some ['0'], none⟩ else magnitudeParts d.shortest

/-- What is written for a double is readable, but for the last two. -/
theorem near_le_readable {d : Double} (hfits : d.Fits) {x : Digits} (hnear : d.Near x)
    (hroom : d.exponent < Double.greatestExponent ∨ d.mantissa + 2 < 2 ^ 53) :
    x.value ≤ readable := by
  refine hnear.le.trans ?_
  have hmantissa : (d.mantissa : ℚ) + 1 ≤ 2 ^ 53 := by exact_mod_cast hfits.mantissa
  have hgreatest := hfits.greatest
  rw [Double.greatestExponent] at hroom hgreatest
  have hpower : ∀ k : Nat, d.exponent ≤ k → (2 : ℚ) ^ d.exponent ≤ 2 ^ k := fun k hk => by
    rw [← zpow_natCast]
    exact zpow_le_zpow_right₀ one_le_two hk
  unfold readable
  rcases hroom with hexponent | hsmall
  · have hlow := hpower 970 (by omega)
    apply mul_le_mul _ hlow (by positivity) (by norm_num)
    linarith
  · have hlow := hpower 971 (by omega)
    have hmantissa' : (d.mantissa : ℚ) + 3 ≤ 2 ^ 53 := by exact_mod_cast hsmall
    calc ((d.mantissa : ℚ) + 1 / 2) * 2 ^ d.exponent ≤ (2 ^ 54 - 5) / 2 * 2 ^ 971 := by
          apply mul_le_mul _ hlow (by positivity) (by norm_num)
          linarith
      _ = (2 ^ 54 - 5) * 2 ^ 970 := by
          rw [pow_succ _ 970]
          generalize (2 : ℚ) ^ 970 = power
          ring

theorem spelling_doubleParts {d : Double} (hsign : d.negative = false) :
    (doubleParts d).spelling = (double d).text.toList := by
  rw [text, String.toList_ofList, Double.text, hsign, doubleParts]
  split
  · rfl
  · exact spelling_magnitudeParts _

theorem wellFormed_doubleParts {d : Double} (hfits : d.Fits) : (doubleParts d).WellFormed := by
  rw [doubleParts]
  split
  · have hzero := areDigits_toDigits 0
    refine ⟨rfl, hzero, .inl rfl, ?_, ?_⟩
    · rintro _ ⟨⟩
      exact hzero
    · rintro _ ⟨⟩
  · next h =>
      have hd : 0 < d.mantissa := Nat.pos_of_ne_zero (by simpa [Double.isZero] using h)
      exact (spells_magnitudeParts (Double.near_shortest hfits hd).pos).wellFormed

/-- The texts of the last two doubles are read as the last one. -/
theorem ofText?_last {d : Double} (hfits : d.Fits) (hsign : d.negative = false)
    (hexponent : d.exponent = Double.greatestExponent) (hmantissa : 2 ^ 53 ≤ d.mantissa + 2) :
    ofText? (double d).text = some (double ⟨false, 2 ^ 53 - 1, Double.greatestExponent⟩) := by
  obtain ⟨negative, mantissa, exponent⟩ := d
  have hbound := hfits.mantissa
  dsimp only at hsign hexponent hmantissa hbound
  subst hsign hexponent
  obtain rfl | rfl : mantissa = 2 ^ 53 - 1 ∨ mantissa = 2 ^ 53 - 2 := by omega
  · decide +kernel
  · decide +kernel

/-- A double is read from its text, as some double. -/
theorem exists_ofText?_double {d : Double} (hfits : d.Fits) (hsign : d.negative = false) :
    ∃ r, ofText? (double d).text = some (double r) := by
  by_cases hroom : d.exponent < Double.greatestExponent ∨ d.mantissa + 2 < 2 ^ 53
  · rw [← String.ofList_toList (s := (double d).text), ← spelling_doubleParts hsign,
      ofText?_spelling (wellFormed_doubleParts hfits), doubleParts]
    split
    · exact ⟨Double.zero false, by decide +kernel⟩
    · next h =>
        have hd : 0 < d.mantissa := Nat.pos_of_ne_zero (by simpa [Double.isZero] using h)
        have hnear := Double.near_shortest hfits hd
        exact exists_ofParts? (spells_magnitudeParts hnear.pos)
          (near_le_readable hfits hnear hroom)
  · have hgreatest := hfits.greatest
    exact ⟨_, ofText?_last hfits hsign (by omega) (by omega)⟩

end DocAccess.Document.Number
