import DocAccess.Decimal.Double

/-!
# The shortest decimal text of a double

Among the decimals that round to a double, those with the fewest digits are kept, and of these the
one nearest to it.  Texts are positional from `10 ^ -5` to below `10 ^ 16` and have an exponent
elsewhere.
-/

namespace DocAccess.Decimal

/-- The decimal `digits · 10 ^ exponent`. -/
structure Digits where
  digits : Nat
  exponent : Int
  deriving DecidableEq, Repr

namespace Double

/-- The half-open bounds of a double in units of a quarter of its last place: a number rounds to it
when it lies between them, the ends included iff the mantissa is even. -/
def lowerQuarters (d : Double) : Nat :=
  if d.mantissa == Nat.pow 2 52 && d.exponent > leastExponent then 4 * d.mantissa - 1
  else 4 * d.mantissa - 2

/-- The upper end of that interval. -/
def upperQuarters (d : Double) : Nat := 4 * d.mantissa + 2

/-- Compares `digits · 10 ^ decimal` with `quarters · 2 ^ (binary - 2)`. -/
def compareScaled (digits : Nat) (decimal : Int) (quarters : Nat) (binary : Int) : Ordering :=
  let left := if decimal < 0 then digits else digits * Nat.pow 10 decimal.natAbs
  let leftScale := if decimal < 0 then Nat.pow 10 decimal.natAbs else 1
  let right := if binary - 2 < 0 then quarters else quarters * Nat.pow 2 (binary - 2).natAbs
  let rightScale := if binary - 2 < 0 then Nat.pow 2 (binary - 2).natAbs else 1
  compare (left * rightScale) (right * leftScale)

/-- Whether a decimal rounds to the magnitude of a double. -/
def admits (d : Double) (x : Digits) : Bool :=
  let even := d.mantissa % 2 == 0
  let low := compareScaled x.digits x.exponent d.lowerQuarters d.exponent
  let high := compareScaled x.digits x.exponent d.upperQuarters d.exponent
  (low == .gt || (even && low == .eq)) && (high == .lt || (even && high == .eq))

/-- The number of decimal digits before the point of a positive magnitude, zero or negative below
one tenth. -/
def decimalMagnitude (d : Double) : Int :=
  let n := d.numerator
  let m := d.denominator
  let guess : Int := ((n.log2 : Int) - m.log2) * 30103 / 100000
  let reaches (k : Int) : Bool := if k < 0 then n * Nat.pow 10 k.natAbs ≥ m else n ≥ m * Nat.pow 10 k.natAbs
  if reaches (guess + 1) then guess + 2 else if reaches guess then guess + 1
  else if reaches (guess - 1) then guess else guess - 1

/-- The multiple of `10 ^ exponent` at or below the magnitude of a double, in units. -/
def floorAt (d : Double) (exponent : Int) : Nat :=
  if exponent < 0 then d.numerator * Nat.pow 10 exponent.natAbs / d.denominator
  else d.numerator / (d.denominator * Nat.pow 10 exponent.natAbs)

/-- Whether the magnitude is nearer to `floor` than to `floor + 1` units of `10 ^ exponent`; a tie
goes to the even one. -/
def nearerFloor (d : Double) (floor : Nat) (exponent : Int) : Bool :=
  match compareScaled (2 * floor + 1) exponent (8 * d.mantissa) d.exponent with
  | .gt => true
  | .lt => false
  | .eq => floor % 2 == 0

/-- The decimal of the grid `10 ^ exponent` that is to be written, if one rounds to the double. -/
def pick? (d : Double) (exponent : Int) : Option Digits :=
  let floor := d.floorAt exponent
  let below : Digits := ⟨floor, exponent⟩
  let above : Digits := ⟨floor + 1, exponent⟩
  match d.admits below, d.admits above with
  | true, true => some (if d.nearerFloor floor exponent then below else above)
  | true, false => some below
  | false, true => some above
  | false, false => none

/-- The first grid, from coarse to fine, that holds a decimal which rounds to the double. -/
def search (d : Double) (top : Int) : Nat → Nat → Digits
  | 0, count => ⟨d.floorAt (top - count), top - count⟩
  | fuel + 1, count =>
      match d.pick? (top - count) with
      | some x => x
      | none => search d top fuel (count + 1)

/-- A decimal without its trailing zeros. -/
def stripZeros : Nat → Digits → Digits
  | 0, x => x
  | fuel + 1, x =>
      if x.digits != 0 && x.digits % 10 == 0 then stripZeros fuel ⟨x.digits / 10, x.exponent + 1⟩
      else x

/-- The shortest decimal that rounds to a double other than zero. -/
def shortest (d : Double) : Digits :=
  stripZeros 20 (search d d.decimalMagnitude 17 1)

/-- The text of a magnitude given by its digits. -/
def magnitudeText (x : Digits) : List Char :=
  let ds := (Nat.toDigits 10 x.digits)
  let length : Int := ds.length
  let point := length + x.exponent
  -- positional from 10 ^ -5 up to 10 ^ 16, and scientific elsewhere
  if 0 ≤ x.exponent && point ≤ 16 then
    ds ++ List.replicate x.exponent.natAbs '0' ++ ['.', '0']
  else if 0 < point && point ≤ 16 then
    ds.take point.natAbs ++ '.' :: ds.drop point.natAbs
  else if -5 < point && point ≤ 0 then
    ['0', '.'] ++ List.replicate point.natAbs '0' ++ ds
  else
    let power := point - 1
    let sign := if power < 0 then '-' else '+'
    let front := match ds with
      | [] => []
      | [first] => [first]
      | first :: rest => first :: '.' :: rest
    front ++ ['e', sign] ++ Nat.toDigits 10 power.natAbs

/-- The text of a double: the fewest digits that read back, with a point or an exponent. -/
def text (d : Double) : List Char :=
  let magnitude := if d.isZero then ['0', '.', '0'] else magnitudeText d.shortest
  if d.negative then '-' :: magnitude else magnitude

/-- The text of a magnitude without an exponent, however long. -/
def plainMagnitudeText (x : Digits) : List Char :=
  let ds := Nat.toDigits 10 x.digits
  let point : Int := (ds.length : Int) + x.exponent
  if 0 ≤ x.exponent then ds ++ List.replicate x.exponent.natAbs '0' ++ ['.', '0']
  else if 0 < point then ds.take point.natAbs ++ '.' :: ds.drop point.natAbs
  else ['0', '.'] ++ List.replicate point.natAbs '0' ++ ds

/-- The text of a double without an exponent. -/
def plainText (d : Double) : List Char :=
  let magnitude := if d.isZero then ['0', '.', '0'] else plainMagnitudeText d.shortest
  if d.negative then '-' :: magnitude else magnitude

end Double

end DocAccess.Decimal
