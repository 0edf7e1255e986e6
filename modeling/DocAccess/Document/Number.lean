import DocAccess.Decimal.Shortest

/-!
# Numbers of a document

A number is an integer of at most 64 bits or a finite double.  Reading keeps an integer as long as
it fits; a fraction, an exponent, a minus zero or too large a magnitude makes a double.  The
significand of a double is read digit by digit into 64 bits and scaled by one power of ten.
-/

namespace DocAccess.Document

open DocAccess.Decimal

/-- A number of a document. -/
inductive Number where
  | integer (n : Int)
  | double (d : Double)
  deriving DecidableEq, Repr

namespace Number

/-- The double nearest to a number. -/
def toDouble : Number → Double
  | integer n => Double.ofInt n
  | double d => d

/-- Equality of numbers of one kind; an integer never equals a double. -/
def same : Number → Number → Bool
  | integer a, integer b => a == b
  | double a, double b => a.same b
  | _, _ => false

/-- Equality of the nearest doubles, whatever the kinds. -/
def nearlySame (a b : Number) : Bool := a.toDouble.same b.toDouble

/-- The text of a number. -/
def text : Number → String
  | integer n => toString n
  | double d => String.ofList d.text

/-! ### Reading -/

/-- The greatest significand. -/
def maxSignificand : Nat := UInt64.size - 1

/-- The value of a decimal digit. -/
def digitValue (c : Char) : Nat := c.toNat - '0'.toNat

/-- Appends digits to a significand while it fits; returns it with the digits left over. -/
def appendDigits (significand : Nat) : List Char → Nat × List Char
  | [] => (significand, [])
  | c :: rest =>
      let longer := significand * 10 + digitValue c
      if longer > maxSignificand then (significand, c :: rest) else appendDigits longer rest

/-- The parts of the text of a number. -/
structure Parts where
  negative : Bool
  whole : List Char
  fraction : Option (List Char)
  exponent : Option (Bool × List Char)

/-- Reads a fraction, if one starts here; `none` where its digits are missing. -/
def readFraction? : List Char → Option (Option (List Char) × List Char)
  | '.' :: rest =>
      let digits := rest.takeWhile Char.isDigit
      if digits.isEmpty then none else some (some digits, rest.dropWhile Char.isDigit)
  | rest => some (none, rest)

/-- The sign of an exponent, true for minus, and the text behind it. -/
def readExponentSign : List Char → Bool × List Char
  | '+' :: rest => (false, rest)
  | '-' :: rest => (true, rest)
  | rest => (false, rest)

/-- Reads an exponent, if one starts here; `none` where its digits are missing. -/
def readExponent? : List Char → Option (Option (Bool × List Char) × List Char)
  | c :: rest =>
      if c == 'e' || c == 'E' then
        let (negative, rest) := readExponentSign rest
        let digits := rest.takeWhile Char.isDigit
        if digits.isEmpty then none else some (some (negative, digits), rest.dropWhile Char.isDigit)
      else some (none, c :: rest)
  | [] => some (none, [])

/-- Reads the whole part: a single zero, or digits that do not start with one. -/
def readWhole? : List Char → Option (List Char × List Char)
  | '0' :: rest => if (rest.head?.map Char.isDigit).getD false then none else some (['0'], rest)
  | rest =>
      let digits := rest.takeWhile Char.isDigit
      if digits.isEmpty then none else some (digits, rest.dropWhile Char.isDigit)

/-- Cuts the parts of a number off the front of a text. -/
def readParts? (cs : List Char) : Option (Parts × List Char) := do
  let (negative, cs) := match cs with
    | '-' :: rest => (true, rest)
    | cs => (false, cs)
  let (whole, cs) ← readWhole? cs
  let (fraction, cs) ← readFraction? cs
  let (exponent, cs) ← readExponent? cs
  return (⟨negative, whole, fraction, exponent⟩, cs)

/-- Scales a double by a power of ten below `10 ^ -308`, a step at a time. -/
def shrink : Nat → Double → Int → Option Double
  | 0, d, _ => some d
  | fuel + 1, d, exponent =>
      if exponent ≥ -308 then do d.div? (← Double.powerOfTen? exponent.natAbs)
      else if d.isZero then some d
      else do shrink fuel (← d.div? (← Double.powerOfTen? 308)) (exponent + 308)

/-- `significand · 10 ^ exponent` as a double, or `none` where it is out of range. -/
def scale? (significand : Nat) (exponent : Int) : Option Double :=
  let d := Double.ofInt significand
  if exponent ≥ 0 then
    if exponent ≤ 308 then do d.mul? (← Double.powerOfTen? exponent.natAbs)
    else if d.isZero then some d else none
  else shrink 8 d exponent

/-- The greatest exponent that is read as it is. -/
def maxExponent : Nat := UInt32.size / 2 - 1

/-- The exponent of a text, kept within the bounds of what is read as it is. -/
def shiftedExponent (start : Int) (negative : Bool) (size : Nat) : Int :=
  if negative then max (start - size) (-(maxExponent + 1)) else min (start + size) maxExponent

/-- The double that a fractional, scaled or large number denotes. -/
def doubleOfParts? (parts : Parts) : Option Double := do
  let (significand, dropped) := appendDigits 0 parts.whole
  let fraction := parts.fraction.getD []
  let (significand, left) := appendDigits significand fraction
  let start : Int := (dropped.length : Int) - (fraction.length - left.length : Nat)
  let magnitude ← match parts.exponent with
    | none => scale? significand start
    | some (negative, digits) =>
        let size := Nat.ofDigitChars 10 digits 0
        -- such an exponent is out of range, unless it only makes the number smaller
        if size > maxExponent then
          if significand != 0 && !negative then none else some (Double.zero false)
        else scale? significand (shiftedExponent start negative size)
  return { magnitude with negative := parts.negative }

/-- The number that the parts of a text denote, or `none` where it is out of range. -/
def ofParts? (parts : Parts) : Option Number :=
  let (n, dropped) := appendDigits 0 parts.whole
  let limit : Nat := if parts.negative then UInt64.size / 2 else maxSignificand
  if parts.fraction.isNone && parts.exponent.isNone && dropped.isEmpty && n ≤ limit
      && !(parts.negative && n == 0) then
    some (integer (if parts.negative then -(n : Int) else n))
  else (doubleOfParts? parts).map double

/-- Cuts a number off the front of a text. -/
def read? (cs : List Char) : Option (Number × List Char) := do
  let (parts, rest) ← readParts? cs
  return (← ofParts? parts, rest)

/-- The number that a whole text denotes. -/
def ofText? (text : String) : Option Number :=
  match read? text.toList with
  | some (n, []) => some n
  | _ => none

end Number

end DocAccess.Document
