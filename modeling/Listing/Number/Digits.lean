/-!
# `Listing/Number/Digits.lean` — signs and digit strings

Dates, integers and decimals are all read from ASCII digits, with a sign in front where one is
allowed. A digit string may be of any length and may start with zeros; its value is an exact
natural number, so nothing can overflow before the reader of a particular type has looked at it.
-/

set_option autoImplicit false

namespace Listing.Number

def digitValue (c : Char) : Nat :=
  c.toNat - '0'.toNat

/-- The value of a digit string, most significant digit first; the empty one is worth 0. -/
def ofDigits (cs : List Char) : Nat :=
  cs.foldl (fun n c => 10 * n + digitValue c) 0

@[simp] theorem ofDigits_nil : ofDigits [] = 0 := rfl

/-- One more digit at the end shifts the others by one place. -/
theorem ofDigits_concat (cs : List Char) (c : Char) :
    ofDigits (cs ++ [c]) = 10 * ofDigits cs + digitValue c := by
  simp [ofDigits]

/-- A text without its sign, and whether that sign was a minus. -/
def splitSign : List Char → Bool × List Char
  | '-' :: cs => (true, cs)
  | '+' :: cs => (false, cs)
  | cs => (false, cs)

/-- An optional sign and one or more digits, of any length, as an integer. -/
def readInteger? (cs : List Char) : Option Int :=
  let (negative, digits) := splitSign cs
  if digits ≠ [] ∧ digits.all Char.isDigit then
    some (if negative then -(ofDigits digits : Int) else ofDigits digits)
  else
    none

end Listing.Number
