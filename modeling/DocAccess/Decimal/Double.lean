/-!
# Finite doubles

A finite binary64 number is kept as a sign, a mantissa and a power of two.  The mantissa has 53
bits, except that it is smaller at the least exponent, so equal magnitudes have equal fields.
Rounding is to the nearest double, a tie going to the even mantissa.
-/

namespace DocAccess.Decimal

/-- The finite number `± mantissa · 2 ^ exponent`. -/
structure Double where
  negative : Bool
  mantissa : Nat
  exponent : Int
  deriving DecidableEq, Repr

namespace Double

/-- The least exponent, that of the subnormal numbers. -/
def leastExponent : Int := -1074

/-- The greatest exponent of a finite number. -/
def greatestExponent : Int := 971

/-- Zero, with a sign. -/
def zero (negative : Bool) : Double := ⟨negative, 0, leastExponent⟩

/-- Whether a double is one of the two zeros. -/
def isZero (d : Double) : Bool := d.mantissa == 0

/-- Numeric equality, for which the two zeros are equal. -/
def same (a b : Double) : Bool := (a.isZero && b.isZero) || a == b

/-- The quotient rounded to the nearest whole number, a tie going to the even one. -/
def roundDiv (numerator denominator : Nat) : Nat :=
  let q := numerator / denominator
  let twice := 2 * (numerator % denominator)
  if twice > denominator || (twice == denominator && q % 2 == 1) then q + 1 else q

/-- `numerator / (denominator · 2 ^ exponent)` rounded to a whole number. -/
def scaledDiv (numerator denominator : Nat) (exponent : Int) : Nat :=
  if exponent < 0 then roundDiv (numerator * Nat.pow 2 exponent.natAbs) denominator
  else roundDiv numerator (denominator * Nat.pow 2 exponent.natAbs)

/-- Whether `numerator / denominator < 2 ^ exponent`. -/
def belowPower (numerator denominator : Nat) (exponent : Int) : Bool :=
  if exponent < 0 then numerator * Nat.pow 2 exponent.natAbs < denominator
  else numerator < denominator * Nat.pow 2 exponent.natAbs

/-- The exponent of the double nearest to a positive quotient. -/
def quotientExponent (numerator denominator : Nat) : Int :=
  let guess : Int := (numerator.log2 : Int) - denominator.log2
  let floor := if belowPower numerator denominator guess then guess - 1 else guess
  max (floor - 52) leastExponent

/-- The double nearest to a quotient of natural numbers, or `none` where it would be infinite. -/
def ofRatio? (negative : Bool) (numerator denominator : Nat) : Option Double :=
  if numerator == 0 then some (zero negative)
  else
    let exponent := quotientExponent numerator denominator
    let mantissa := scaledDiv numerator denominator exponent
    let rounded : Double :=
      if mantissa == Nat.pow 2 53 then ⟨negative, Nat.pow 2 52, exponent + 1⟩ else ⟨negative, mantissa, exponent⟩
    if rounded.exponent > greatestExponent then none else some rounded

/-- The numerator of the magnitude of a double. -/
def numerator (d : Double) : Nat := if d.exponent < 0 then d.mantissa else d.mantissa * Nat.pow 2 d.exponent.natAbs

/-- The denominator of the magnitude of a double. -/
def denominator (d : Double) : Nat := if d.exponent < 0 then Nat.pow 2 d.exponent.natAbs else 1

/-- The rounded product, or `none` where it would be infinite. -/
def mul? (a b : Double) : Option Double :=
  ofRatio? (a.negative != b.negative) (a.numerator * b.numerator) (a.denominator * b.denominator)

/-- The rounded quotient by a double other than zero, or `none` where it would be infinite. -/
def div? (a b : Double) : Option Double :=
  ofRatio? (a.negative != b.negative) (a.numerator * b.denominator) (a.denominator * b.numerator)

/-- The double nearest to an integer of at most 1023 bits. -/
def ofInt (n : Int) : Double := (ofRatio? (n < 0) n.natAbs 1).getD (zero (n < 0))

/-- The double nearest to `10 ^ n`, or `none` from `10 ^ 309` on. -/
def powerOfTen? (n : Nat) : Option Double := ofRatio? false (Nat.pow 10 n) 1

end Double

end DocAccess.Decimal
