import Listing.Proofs.Digits
import Listing.Proofs.Tag
import Listing.Proofs.Trichotomy

/-!
# `Listing/Proofs/Date.lean` — which days can be written, and in which order

The form `yyyyMMdd` has room for the years 0 to 9999. What it says is that a text consists of three
digit strings, for year, month and day, and `Date.Names` is this relation. A day of these years is
named by one text (`Date.compact`), since digit strings of a width are. And because all texts have
their parts in the same places, largest first, texts stand in the order of the days that they name.

So an operand stands for the day that it names, and every day of another year is before all operands
or after them. A text that names no day is refused, with one exception, which is none of dates but
of operands in general: a text that *is* no day may still have the tag of one in front
(`tagged_day_accepted`).

**`eight_digits_name_days`** puts this together.
-/

set_option autoImplicit false

namespace Listing

open Outcome Number Std Text

/-! ## Texts and days -/

namespace Text

/-- Texts whose fronts are equally long are in the order of the fronts, and then of the rests. -/
theorem compare_append {front front' : List Char} (rest rest' : List Char)
    (sameLength : front.length = front'.length) :
    compare (front ++ rest) (front' ++ rest') =
      (compare front front').then (compare rest rest') := by
  induction front generalizing front' with
  | nil =>
    obtain rfl := List.eq_nil_of_length_eq_zero sameLength.symm
    rfl
  | cons c front ih =>
    cases front' with
    | nil => cases sameLength
    | cons c' front' =>
      rw [List.cons_append, List.cons_append, List.compare_cons_cons, List.compare_cons_cons,
        ih (Nat.succ.inj sameLength), Ordering.then_assoc]

end Text

namespace Date

variable {text text' : String} {day day' : Date}

/-- A text names a day: it has four digits for the year, two for the month and two for the day of
the month, one after the other and nothing else. -/
def Names (day : Date) (text : String) : Prop :=
  ∃ (number : Nat) (year month dayOfMonth : List Char),
    text.toList = year ++ (month ++ dayOfMonth) ∧ (number : Int) = day.year ∧
      DigitsOf 4 number year ∧ DigitsOf 2 day.month month ∧ DigitsOf 2 day.day dayOfMonth

theorem ofNumbers?_eq_some_iff {year : Int} {month dayOfMonth : Nat} :
    ofNumbers? year month dayOfMonth = some day ↔
      year = day.year ∧ month = day.month ∧ dayOfMonth = day.day := by
  constructor
  · intro found
    unfold ofNumbers? at found
    split at found
    · cases found
      exact ⟨rfl, rfl, rfl⟩
    · cases found
  · rintro ⟨rfl, rfl, rfl⟩
    exact ofNumbers?_self day

/-- Reading accepts the texts that name a day, and finds that day. -/
theorem read?_eq_some_iff : read? text.toList = some day ↔ day.Names text := by
  have behind : text.toList.drop 6 = (text.toList.drop 4).drop 2 := by
    rw [List.drop_drop]
  unfold read?
  rw [behind]
  constructor
  · intro found
    split at found
    · next shape =>
      obtain ⟨eight, digits⟩ := shape
      rw [List.all_eq_true] at digits
      obtain ⟨year, month, dayOfMonth⟩ := ofNumbers?_eq_some_iff.mp found
      have part {cs : List Char} (isPart : cs.Sublist text.toList) :=
        DigitsOf.of_isDigit fun c mem => digits c (isPart.subset mem)
      have yearDigits := part (List.take_sublist 4 _)
      have monthDigits := part ((List.take_sublist 2 _).trans (List.drop_sublist 4 _))
      have dayDigits := part ((List.drop_sublist 2 _).trans (List.drop_sublist 4 _))
      rw [List.length_take, eight] at yearDigits
      rw [List.length_take, List.length_drop, eight, month] at monthDigits
      rw [List.length_drop, List.length_drop, eight, dayOfMonth] at dayDigits
      refine ⟨_, _, _, _, ?_, year, yearDigits, monthDigits, dayDigits⟩
      rw [List.take_append_drop, List.take_append_drop]
    · cases found
  · rintro ⟨number, year, month, dayOfMonth, split, isYear, yearDigits, monthDigits, dayDigits⟩
    have eight : text.toList.length = 8 := by
      rw [split, List.length_append, List.length_append, yearDigits.length_eq,
        monthDigits.length_eq, dayDigits.length_eq]
    have digits : text.toList.all Char.isDigit = true := by
      rw [split, List.all_eq_true]
      exact List.forall_mem_append.mpr ⟨yearDigits.isDigit,
        List.forall_mem_append.mpr ⟨monthDigits.isDigit, dayDigits.isDigit⟩⟩
    rw [if_pos ⟨eight, digits⟩, split, List.take_left' yearDigits.length_eq,
      List.drop_left' yearDigits.length_eq, List.take_left' monthDigits.length_eq,
      List.drop_left' monthDigits.length_eq, yearDigits.ofDigits_eq, monthDigits.ofDigits_eq,
      dayDigits.ofDigits_eq]
    exact ofNumbers?_eq_some_iff.mpr ⟨isYear, rfl, rfl⟩

/-- The text that names a day of the years 0 to 9999. -/
def compact (day : Date) : String :=
  String.ofList (padded 4 day.year.toNat ++ (padded 2 day.month ++ padded 2 day.day))

theorem daysInMonth_le (year : Int) (month : Nat) : daysInMonth year month ≤ 31 := by
  unfold daysInMonth
  split
  · split <;> decide
  · split <;> decide

/-- Every day of the years 0 to 9999 is named by one text, and no other day by any. -/
theorem names_iff :
    day.Names text ↔ (0 ≤ day.year ∧ day.year ≤ 9999) ∧ text = day.compact := by
  have monthFits : day.month < 10 ^ 2 := by
    have bounds := day.month_bounds
    omega
  have dayFits : day.day < 10 ^ 2 := by
    have bounds := day.day_bounds
    have atMost := daysInMonth_le day.year day.month
    omega
  constructor
  · rintro ⟨number, year, month, dayOfMonth, split, isYear, yearDigits, monthDigits, dayDigits⟩
    have yearFits := yearDigits.lt
    refine ⟨by omega, ?_⟩
    rw [← String.toList_inj, split, compact, String.toList_ofList, ← isYear, Int.toNat_natCast,
      ← ((digitsOf_iff (by decide)).mp yearDigits).2,
      ← ((digitsOf_iff (by decide)).mp monthDigits).2,
      ← ((digitsOf_iff (by decide)).mp dayDigits).2]
  · rintro ⟨⟨low, high⟩, rfl⟩
    have yearFits : day.year.toNat < 10 ^ 4 := by omega
    exact ⟨day.year.toNat, _, _, _, String.toList_ofList, Int.toNat_of_nonneg low,
      digitsOf_padded (by decide) yearFits, digitsOf_padded (by decide) monthFits,
      digitsOf_padded (by decide) dayFits⟩

/-! ## The order of days -/

/-- Days are in the order of the texts that name them. -/
theorem compare_eq_of_names (names : day.Names text) (names' : day'.Names text') :
    day.compare day' = Ord.compare text.toList text'.toList := by
  have sameOrder (number number' : Nat) :
      Ord.compare (number : Int) number' = Ord.compare number number' := by
    simp only [Int.compare_eq_ite_lt, Nat.compare_eq_ite_lt, Int.ofNat_lt]
  obtain ⟨number, year, month, dayOfMonth, split, isYear, yearDigits, monthDigits, dayDigits⟩ :=
    names
  obtain ⟨number', year', month', dayOfMonth', split', isYear', yearDigits', monthDigits',
    dayDigits'⟩ := names'
  rw [split, split', compare_append _ _ (yearDigits.length_eq.trans yearDigits'.length_eq.symm),
    compare_append _ _ (monthDigits.length_eq.trans monthDigits'.length_eq.symm),
    yearDigits.compare_eq yearDigits', monthDigits.compare_eq monthDigits',
    dayDigits.compare_eq dayDigits', Date.compare, ← isYear, ← isYear', sameOrder]

theorem compare_eq_lt_of_year (earlier : day.year < day'.year) : day.compare day' = .lt := by
  rw [Date.compare, Int.compare_eq_lt.mpr earlier, Ordering.lt_then]

theorem compare_eq_gt_of_year (later : day'.year < day.year) : day.compare day' = .gt := by
  rw [Date.compare, Int.compare_eq_gt.mpr later, Ordering.gt_then]

end Date

/-! ## Days in conditions -/

section

variable {reading : BooleanReading} {operand : String} {day literal : Date}

/-- A text of digits alone has no tag. -/
theorem Date.Names.untagged (names : literal.Names operand) (kind : Kind) :
    ¬ kind.Begins operand := by
  obtain ⟨number, year, month, dayOfMonth, split, -, yearDigits, -, -⟩ := names
  obtain ⟨first, rest, rfl⟩ : ∃ first rest, year = first :: rest :=
    List.exists_cons_of_length_eq_add_one yearDigits.length_eq
  have digit := yearDigits.isDigit first List.mem_cons_self
  have below := (isDigit_iff_toNat.mp digit).2
  exact Kind.not_begins_of_cons (Nat.lt_succ_of_le below) split

theorem satisfies_date_of_read (reads : Date.read? operand.toList = some literal)
    (comparison : Comparison) (others : List String) :
    satisfies reading (.date (some day)) (.comparing comparison) (operand :: others) =
      .ok (comparison.holds (day.compare literal)) := by
  have untagged := (Date.read?_eq_some_iff.mp reads).untagged
  have present : (Value.date (some day)).isAbsent = false := rfl
  have supported : Kind.date.supports (.comparing comparison) = true :=
    Kind.supports_comparing_of_ne (by decide)
  have readable : readOperand reading .date operand = .ok (.date (some literal)) := by
    rw [readOperand_of_untagged untagged]
    apply readWhole_eq_ok
    rw [readLiteral?, reads]
    rfl
  exact satisfies_of_readable present supported Operator.noConfusion readable others

end

/-- **Operands for dates are days of four-digit years, in the order of the calendar.** A text is
read as a day exactly if it has eight digits that name it, and every day of the years 0 to 9999 is
named by one text. Two such texts are in the order of their days. A value is compared with the day
that the operand names, and a day before the year 0 is less than all operands, one after the year
9999 greater. A text that is not read makes every comparison fail, unless it has the tag of a date
in front of a text that is. -/
theorem eight_digits_name_days (reading : BooleanReading) (others : List String) :
    (∀ (text : String) (day : Date), Date.read? text.toList = some day ↔ day.Names text) ∧
    (∀ (text : String) (day : Date),
      day.Names text ↔ (0 ≤ day.year ∧ day.year ≤ 9999) ∧ text = day.compact) ∧
    (∀ (text text' : String) (day day' : Date), Date.read? text.toList = some day →
      Date.read? text'.toList = some day' →
        day.compare day' = compare text.toList text'.toList) ∧
    (∀ (day literal : Date) (operand : String), Date.read? operand.toList = some literal →
      let outcome := fun comparison =>
        satisfies reading (.date (some day)) (.comparing comparison) (operand :: others)
      (∀ comparison, outcome comparison = .ok (comparison.holds (day.compare literal))) ∧
        (day.year < 0 → outcome .less = .ok true) ∧
        (9999 < day.year → outcome .greater = .ok true)) ∧
    ∀ (day : Date) (comparison : Comparison) (operand : String),
      Date.read? operand.toList = none →
      (∀ tag literal, Kind.date.IsTag tag → operand = tag ++ literal →
        Date.read? literal.toList = none) →
      ∃ text cause, satisfies reading (.date (some day)) (.comparing comparison)
        (operand :: others) = .error (.badOperand .date text cause) := by
  refine ⟨fun text day => Date.read?_eq_some_iff, fun text day => Date.names_iff, ?_, ?_, ?_⟩
  · intro text text' day day' reads reads'
    exact Date.compare_eq_of_names (Date.read?_eq_some_iff.mp reads)
      (Date.read?_eq_some_iff.mp reads')
  · intro day literal operand reads outcome
    have answers (comparison : Comparison) :
        outcome comparison = .ok (comparison.holds (day.compare literal)) :=
      satisfies_date_of_read reads comparison others
    obtain ⟨⟨low, high⟩, -⟩ := Date.names_iff.mp (Date.read?_eq_some_iff.mp reads)
    refine ⟨answers, ?_, ?_⟩
    · intro before
      rw [answers, Date.compare_eq_lt_of_year (by omega)]
      rfl
    · intro after
      rw [answers, Date.compare_eq_gt_of_year (by omega)]
      rfl
  · intro day comparison operand rejected behindTag
    have unread {text : String} (rejected : Date.read? text.toList = none) :
        readLiteral? reading text.toList .date = none := by
      rw [readLiteral?, rejected]
      rfl
    obtain ⟨text, cause, fails⟩ := exists_readOperand_error (unread rejected)
      fun tag literal isTag split => unread (behindTag tag literal isTag split)
    have present : (Value.date (some day)).isAbsent = false := rfl
    have supported : Kind.date.supports (.comparing comparison) = true :=
      Kind.supports_comparing_of_ne (by decide)
    exact ⟨text, cause,
      satisfies_of_unreadable present supported Operator.noConfusion fails others⟩

/-- A leap day is read and stands before the day after it, days outside the four-digit years stand
on either side, and the day that a common year lacks is refused, also behind a tag. -/
theorem eight_digits_name_days_leap_year :
    let leapDay : Date := ⟨2024, 2, 29, by decide, by decide⟩
    let dayAfter : Date := ⟨2024, 3, 1, by decide, by decide⟩
    let idesOfMarch : Date := ⟨-43, 3, 15, by decide, by decide⟩
    let farFuture : Date := ⟨10000, 1, 1, by decide, by decide⟩
    (Date.read? "20240229".toList = some leapDay ∧ Date.read? "20240301".toList = some dayAfter ∧
      leapDay.compare dayAfter = compare "20240229".toList "20240301".toList) ∧
    (idesOfMarch.year < 0 ∧ satisfies .lenient (.date (some idesOfMarch)) (.comparing .less)
      ["20240229"] = .ok true) ∧
    (9999 < farFuture.year ∧ satisfies .lenient (.date (some farFuture)) (.comparing .greater)
      ["20240229"] = .ok true) ∧
    Date.read? ":DATETIME:20230229".toList = none ∧
      (∀ tag literal, Kind.date.IsTag tag → ":DATETIME:20230229" = tag ++ literal →
        Date.read? literal.toList = none) ∧
      ∃ text cause, satisfies .lenient (.date (some leapDay)) (.comparing .notEqual)
        [":DATETIME:20230229"] = .error (.badOperand .date text cause) := by
  intro leapDay dayAfter idesOfMarch farFuture
  obtain ⟨-, -, order, answers, refusals⟩ := eight_digits_name_days .lenient []
  have readsLeapDay : Date.read? "20240229".toList = some leapDay := by rfl
  have readsDayAfter : Date.read? "20240301".toList = some dayAfter := by rfl
  have rejected : Date.read? ":DATETIME:20230229".toList = none := by rfl
  have behindTag (tag literal : String) (isTag : Kind.date.IsTag tag)
      (split : ":DATETIME:20230229" = tag ++ literal) : Date.read? literal.toList = none := by
    have behind : splitTag ":DATETIME:20230229".toList = (some .date, literal.toList) :=
      split ▸ splitTag_append isTag literal
    have found : splitTag ":DATETIME:20230229".toList = (some .date, "20230229".toList) := by rfl
    rw [found] at behind
    rw [← (Prod.mk.inj behind).2]
    rfl
  exact ⟨⟨readsLeapDay, readsDayAfter, order _ _ _ _ readsLeapDay readsDayAfter⟩,
    ⟨by decide, (answers idesOfMarch _ _ readsLeapDay).2.1 (by decide)⟩,
    ⟨by decide, (answers farFuture _ _ readsLeapDay).2.2 (by decide)⟩,
    rejected, behindTag, refusals leapDay .notEqual _ rejected behindTag⟩

/-- A text that is not read as a day may still be an operand, with the tag of a date in front of a
day. -/
theorem tagged_day_accepted :
    Date.read? ":dateTime:20200115".toList = none ∧
      satisfies .lenient (.date (some ⟨2020, 1, 15, by decide, by decide⟩)) (.comparing .equal)
        [":dateTime:20200115"] = .ok true := by
  exact ⟨by rfl, by rfl⟩

end Listing
