import Listing.Number.Digits

/-!
# `Listing/Date.lean` — calendar days

A date field holds a day of the Gregorian calendar, extended without a gap to all years before and
after its introduction; year 0 comes before year 1 and negative years before that. A `Date` is
such a day by construction: month and day are within bounds, leap years included.

In a condition a day is written `yyyyMMdd`, eight digits and nothing else. That form reaches only
the years 0 to 9999, so a field may hold days that no operand can name; they still compare with
those that can.
-/

set_option autoImplicit false

namespace Listing

/-- Every fourth year is a leap year, but of the full centuries only every fourth. -/
def isLeapYear (year : Int) : Bool :=
  year % 4 = 0 && (year % 100 ≠ 0 || year % 400 = 0)

def daysInMonth (year : Int) (month : Nat) : Nat :=
  if month = 2 then (if isLeapYear year then 29 else 28)
  else if month = 4 ∨ month = 6 ∨ month = 9 ∨ month = 11 then 30
  else 31

/-- A day of the Gregorian calendar. -/
structure Date where
  year : Int
  month : Nat
  day : Nat
  month_bounds : 1 ≤ month ∧ month ≤ 12
  day_bounds : 1 ≤ day ∧ day ≤ daysInMonth year month
  deriving DecidableEq

namespace Date

/-- The day with a given year, month and day of the month, if the calendar has it. -/
def ofNumbers? (year : Int) (month day : Nat) : Option Date :=
  if h : (1 ≤ month ∧ month ≤ 12) ∧ 1 ≤ day ∧ day ≤ daysInMonth year month then
    some ⟨year, month, day, h.1, h.2⟩
  else
    none

theorem ofNumbers?_self (d : Date) : ofNumbers? d.year d.month d.day = some d := by
  rw [ofNumbers?, dif_pos ⟨d.month_bounds, d.day_bounds⟩]

/-- The order of time: by year, then month, then day. -/
def compare (a b : Date) : Ordering :=
  (Ord.compare a.year b.year).then <|
    (Ord.compare a.month b.month).then (Ord.compare a.day b.day)

/-! ## The form `yyyyMMdd` -/

/-- Reads a day from eight digits: four for the year, two for the month, two for the day. -/
def read? (cs : List Char) : Option Date :=
  if cs.length = 8 ∧ cs.all Char.isDigit then
    ofNumbers? (Number.ofDigits (cs.take 4)) (Number.ofDigits ((cs.drop 4).take 2))
      (Number.ofDigits (cs.drop 6))
  else
    none

end Date

end Listing
