import Listing.Number.Binary64
import Listing.Number.Digits

/-!
# `Listing/Number/Decimal.lean` — decimal numerals

A decimal operand is a numeral: an optional sign, digits with at most one point among or around
them, and an optional exponent. Reading it gives the numeral's *exact* value, as a significand and
a power of ten; rounding that to a double-precision number is a second step and happens once, so
no number of digits and no exponent can lose anything on the way.

Words such as `inf` and `nan` are not numerals, and a numeral beyond the largest finite number
rounds to nothing.
-/

set_option autoImplicit false

namespace Listing.Number

/-- The number `significand · 10 ^ exponent`, negated if `negative`. Zero has two signs, too. -/
structure Decimal where
  negative : Bool
  significand : Nat
  exponent : Int
  deriving DecidableEq

namespace Decimal

/-- What may follow the digits of a numeral: nothing, or `e` and an integer in either case. -/
def readExponent? : List Char → Option Int
  | [] => some 0
  | c :: cs => if c = 'e' ∨ c = 'E' then readInteger? cs else none

/-- The digits after a point, if one comes next, and what follows them. -/
def splitFraction : List Char → List Char × List Char
  | '.' :: cs => (cs.takeWhile Char.isDigit, cs.dropWhile Char.isDigit)
  | cs => ([], cs)

/-- Reads a numeral. There must be a digit on one side of the point. -/
def read? (cs : List Char) : Option Decimal :=
  let (negative, unsigned) := splitSign cs
  let whole := unsigned.takeWhile Char.isDigit
  let (fraction, rest) := splitFraction (unsigned.dropWhile Char.isDigit)
  if whole = [] ∧ fraction = [] then none
  else (readExponent? rest).map fun exponent =>
    ⟨negative, ofDigits (whole ++ fraction), exponent - fraction.length⟩

/-- The finite number nearest to a decimal, with its sign, or `none` where that is not finite. -/
def round? (d : Decimal) : Option Binary64 :=
  (Binary64.magnitudeOfDecimal? d.significand d.exponent).map (Binary64.ofMagnitude d.negative)

end Decimal

end Listing.Number
