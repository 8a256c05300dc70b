/-!
# `Listing/Number/Binary64.lean` — double-precision numbers as bit patterns

A decimal field holds a 64-bit floating-point number. It is kept as its bit pattern, because
patterns are what sorting tells apart: two NaNs with different bits, and the two zeros, are
different keys. A pattern splits into a sign and a *magnitude* (the other 63 bits), and because
the format puts the exponent above the fraction, the order of magnitudes is the order of absolute
values. Both orders on numbers are read off that:

* `compareTotal` puts every pattern in one line: negative NaNs, negative numbers, −0, +0, positive
  numbers, positive NaNs.
* `compare?` is the order of the *values*: the two zeros are equal and a NaN is unordered.

The second half rounds. Every finite number is a whole multiple of 2⁻¹⁰⁷⁴, its `units`, so a
fraction of units can be rounded with natural numbers alone. The surprise is how little has to be
said about exponents: a magnitude *is* its significand plus 2⁵² for every doubling beyond the
first, also when the significand is rounded up to the next power of two.
-/

set_option autoImplicit false

namespace Listing.Number

/-- A double-precision number, as its bit pattern. -/
structure Binary64 where
  bits : UInt64
  deriving DecidableEq

namespace Binary64

/-! ## Sign and magnitude -/

def isNegative (x : Binary64) : Bool :=
  1 <<< 63 ≤ x.bits.toNat

/-- All bits but the sign. -/
def magnitude (x : Binary64) : Nat :=
  x.bits.toNat % (1 <<< 63)

/-- The magnitude of the infinities; the finite numbers lie below it and the NaNs above. -/
def infinity : Nat :=
  0x7FF <<< 52

def isNaN (x : Binary64) : Bool :=
  infinity < x.magnitude

def ofMagnitude (negative : Bool) (magnitude : Nat) : Binary64 :=
  ⟨.ofNat (if negative then 1 <<< 63 + magnitude else magnitude)⟩

/-! ## Order -/

/-- The place of a pattern in the line of all patterns; −0 stands just before +0. -/
def place (x : Binary64) : Int :=
  if x.isNegative then -(x.magnitude : Int) - 1 else x.magnitude

/-- The order of all patterns. -/
def compareTotal (x y : Binary64) : Ordering :=
  compare x.place y.place

/-- The magnitude with its sign: it orders the numbers by value, and both zeros have 0. -/
def signedMagnitude (x : Binary64) : Int :=
  if x.isNegative then -(x.magnitude : Int) else x.magnitude

/-- The order of the values, or `none` if one of the two is not a number. -/
def compare? (x y : Binary64) : Option Ordering :=
  if x.isNaN || y.isNaN then none else some (compare x.signedMagnitude y.signedMagnitude)

/-! ## Rounding -/

/-- The value of a finite magnitude in units of 2⁻¹⁰⁷⁴. -/
def units (magnitude : Nat) : Nat :=
  if magnitude < 1 <<< 52 then magnitude
  else (1 <<< 52 + magnitude % (1 <<< 52)) <<< (magnitude / (1 <<< 52) - 1)

/-- The quotient rounded to the nearest whole number, a half to the even one. -/
def roundQuotient (numerator denominator : Nat) : Nat :=
  let quotient := numerator / denominator
  let twice := 2 * (numerator % denominator)
  if twice < denominator ∨ (twice = denominator ∧ quotient % 2 = 0) then quotient
  else quotient + 1

/-- The magnitude nearest to `numerator / denominator` units: the significand has 53 bits, so a
quotient of `53 + doublings` bits is first halved that many times. -/
def nearestMagnitude (numerator denominator : Nat) : Nat :=
  let doublings := (numerator / denominator).log2 - 52
  doublings <<< 52 + roundQuotient numerator (denominator <<< doublings)

/-- The magnitude nearest to `significand · 10 ^ exponent`, or `none` where that is not finite.

The first three cases keep the powers of ten small. From 10³⁰⁹ on nothing is finite. And as
`significand < 2 ^ (log2 significand + 1)` and `10⁻¹ < 2⁻³`, a value that passes the third test is
below 2⁻¹⁰⁷⁵, half of the smallest magnitude. -/
def magnitudeOfDecimal? (significand : Nat) (exponent : Int) : Option Nat :=
  if significand = 0 then some 0
  else if 308 < exponent then none
  else if significand.log2 + 1076 ≤ 3 * -exponent then some 0
  else
    let magnitude := nearestMagnitude ((significand * Nat.pow 10 exponent.toNat) <<< 1074)
      (Nat.pow 10 (-exponent).toNat)
    if magnitude < infinity then some magnitude else none

end Binary64

end Listing.Number
