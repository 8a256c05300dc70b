import Listing.Proofs.Digits
import Listing.Proofs.Tag
import Listing.Proofs.Trichotomy

/-!
# `Listing/Proofs/Integer.lean` — integers are compared exactly

An integer is written with a sign or without one, in digits of any number (`Numeral`). Reading takes
the whole numeral for what it says, however long it is, and only then looks whether the integer
fits a machine word; so nothing is lost on the way, and the two ends of the range need no care.
Words and integers are in the same order. So for a comparison it makes no difference that the value
is a word: it is the comparison of two integers (`Comparison.Relates`).

**`integers_compared_exactly`** puts this together.
-/

set_option autoImplicit false

namespace Listing

open Outcome Number Std Text

/-! ## Numerals -/

namespace Number

/-- A text writes an integer: it has a sign or none, and then one digit or more. -/
inductive Numeral : List Char → Int → Prop where
  | unsigned {width number : Nat} {cs : List Char} (digits : DigitsOf (width + 1) number cs) :
      Numeral cs number
  | plus {width number : Nat} {cs : List Char} (digits : DigitsOf (width + 1) number cs) :
      Numeral ('+' :: cs) number
  | minus {width number : Nat} {cs : List Char} (digits : DigitsOf (width + 1) number cs) :
      Numeral ('-' :: cs) (-number)

theorem exists_digitsOf_iff {number : Nat} {cs : List Char} :
    (∃ width, DigitsOf (width + 1) number cs) ↔
      (cs ≠ [] ∧ cs.all Char.isDigit = true) ∧ ofDigits cs = number := by
  constructor
  · rintro ⟨width, digits⟩
    refine ⟨⟨?_, List.all_eq_true.mpr digits.isDigit⟩, digits.ofDigits_eq⟩
    exact List.ne_nil_of_length_eq_add_one digits.length_eq
  · rintro ⟨⟨some, digits⟩, rfl⟩
    obtain ⟨first, rest, rfl⟩ := List.exists_cons_of_ne_nil some
    exact ⟨rest.length, .of_isDigit (List.all_eq_true.mp digits)⟩

/-- Digits are no sign. -/
theorem splitSign_of_digitsOf {width number : Nat} {cs : List Char}
    (digits : DigitsOf width number cs) : splitSign cs = (false, cs) := by
  unfold splitSign
  split
  · cases digits.isDigit '-' List.mem_cons_self
  · cases digits.isDigit '+' List.mem_cons_self
  · rfl

/-- Reading accepts the texts that write an integer, and finds it. -/
theorem readInteger?_eq_some_iff {cs : List Char} {n : Int} :
    readInteger? cs = some n ↔ Numeral cs n := by
  constructor
  · intro reads
    unfold readInteger? splitSign at reads
    split at reads
    next negative digits signed =>
    split at reads
    · next shape =>
      obtain ⟨width, digitsOf⟩ := exists_digitsOf_iff.mpr ⟨shape, rfl⟩
      split at signed
      · cases signed
        cases reads
        exact .minus digitsOf
      · cases signed
        cases reads
        exact .plus digitsOf
      · cases signed
        cases reads
        exact .unsigned digitsOf
    · cases reads
  · intro numeral
    unfold readInteger?
    cases numeral with
    | unsigned digits =>
      obtain ⟨shape, value⟩ := exists_digitsOf_iff.mp ⟨_, digits⟩
      rw [splitSign_of_digitsOf digits]
      simp only [if_pos shape, value]
      rfl
    | plus digits =>
      obtain ⟨shape, value⟩ := exists_digitsOf_iff.mp ⟨_, digits⟩
      simp only [splitSign, if_pos shape, value]
      rfl
    | minus digits =>
      obtain ⟨shape, value⟩ := exists_digitsOf_iff.mp ⟨_, digits⟩
      simp only [splitSign, if_pos shape, value]
      rfl

/-- The usual text of a word writes its integer. -/
theorem numeral_toString (word : Int64) : Numeral (toString word).toList word.toInt := by
  have numeral (number : Nat) : DigitsOf ((Nat.toDigits 10 number).length - 1 + 1) number
      number.repr.toList := by
    rw [Nat.toList_repr, Nat.sub_add_cancel Nat.length_toDigits_pos]
    exact digitsOf_toDigits number
  show Numeral word.toInt.repr.toList word.toInt
  rw [Int.repr_eq_if]
  split
  · next nonneg =>
    have all := Numeral.unsigned (numeral word.toInt.toNat)
    rwa [Int.toNat_of_nonneg nonneg] at all
  · next negative =>
    have all := Numeral.minus (numeral (-word.toInt).toNat)
    rw [Int.toNat_of_nonneg (by omega), Int.neg_neg] at all
    rw [String.toList_append]
    exact all

theorem exists_toInt_iff {n : Int} :
    (∃ word : Int64, word.toInt = n) ↔ -2 ^ 63 ≤ n ∧ n < 2 ^ 63 := by
  constructor
  · rintro ⟨word, rfl⟩
    exact ⟨word.le_toInt, word.toInt_lt⟩
  · rintro ⟨low, high⟩
    exact ⟨Int64.ofInt n, Int64.toInt_ofInt_of_le low high⟩

/-- Words are in the order of their integers. -/
theorem compare_toInt (a b : Int64) : compare a.toInt b.toInt = compare a b := by
  show compareOfLessAndEq a.toInt b.toInt = compareOfLessAndEq a b
  simp only [compareOfLessAndEq, Int64.lt_iff_toInt_lt, Int64.toInt_inj]

end Number

/-! ## Comparisons -/

namespace Comparison

/-- What a comparison says of two integers. -/
def Relates : Comparison → Int → Int → Prop
  | .equal, a, b => a = b
  | .notEqual, a, b => a ≠ b
  | .less, a, b => a < b
  | .lessOrEqual, a, b => a ≤ b
  | .greater, a, b => a > b
  | .greaterOrEqual, a, b => a ≥ b

theorem holds_compare_iff {comparison : Comparison} {a b : Int} :
    comparison.holds (compare a b) = true ↔ comparison.Relates a b := by
  cases comparison with
  | equal => exact Ordering.isEq_iff_eq_eq.trans Int.compare_eq_eq
  | notEqual => exact Ordering.isNe_iff_ne_eq.trans (not_congr Int.compare_eq_eq)
  | less => exact Ordering.isLT_iff_eq_lt.trans Int.compare_eq_lt
  | lessOrEqual => exact Int.isLE_compare
  | greater => exact Ordering.isGT_iff_eq_gt.trans Int.compare_eq_gt
  | greaterOrEqual => exact Int.isGE_compare

instance (comparison : Comparison) (a b : Int) : Decidable (comparison.Relates a b) :=
  decidable_of_iff _ holds_compare_iff

end Comparison

/-! ## Integers in conditions -/

section

variable {reading : BooleanReading}

theorem readLiteral?_integer_eq_some_iff {cs : List Char} {literal : Value} :
    readLiteral? reading cs .integer = some literal ↔
      ∃ word, Numeral cs word.toInt ∧ literal = .integer word := by
  simp only [readLiteral?, Option.map_eq_some_iff, Option.bind_eq_some_iff,
    readInteger?_eq_some_iff, toInt64?_eq_some_iff]
  constructor
  · rintro ⟨word, ⟨n, numeral, rfl⟩, rfl⟩
    exact ⟨word, numeral, rfl⟩
  · rintro ⟨word, numeral, rfl⟩
    exact ⟨word, ⟨_, numeral, rfl⟩, rfl⟩

/-- A text with a tag writes no integer. -/
theorem Number.Numeral.untagged {operand : String} {cs : List Char} {n : Int}
    (numeral : Numeral cs n) (whole : operand.toList = cs) (kind : Kind) :
    ¬ kind.Begins operand := by
  cases numeral with
  | unsigned digits =>
    obtain ⟨first, rest, rfl⟩ := List.exists_cons_of_length_eq_add_one digits.length_eq
    have below := (isDigit_iff_toNat.mp (digits.isDigit first List.mem_cons_self)).2
    exact Kind.not_begins_of_cons (Nat.lt_succ_of_le below) whole
  | plus digits => exact Kind.not_begins_of_cons (by decide) whole
  | minus digits => exact Kind.not_begins_of_cons (by decide) whole

theorem satisfies_integer_of_numeral {word literal : Int64} {operand : String}
    (numeral : Numeral operand.toList literal.toInt) (comparison : Comparison)
    (others : List String) :
    satisfies reading (.integer word) (.comparing comparison) (operand :: others) =
      .ok (comparison.holds (compare word.toInt literal.toInt)) := by
  have present : (Value.integer word).isAbsent = false := rfl
  have supported : Kind.integer.supports (.comparing comparison) = true :=
    Kind.supports_comparing_of_ne (by decide)
  have readable : readOperand reading .integer operand = .ok (.integer literal) := by
    rw [readOperand_of_untagged (numeral.untagged rfl)]
    exact readWhole_eq_ok (readLiteral?_integer_eq_some_iff.mpr ⟨literal, numeral, rfl⟩)
  rw [compare_toInt]
  exact satisfies_of_readable present supported Operator.noConfusion readable others

theorem satisfies_integer_of_no_numeral {word : Int64} {operand : String}
    (untagged : ∀ kind : Kind, ¬ kind.Begins operand)
    (none : ¬ ∃ literal : Int64, Numeral operand.toList literal.toInt) (comparison : Comparison)
    (others : List String) :
    satisfies reading (.integer word) (.comparing comparison) (operand :: others) =
      .error (.badOperand .integer operand .notLiteral) := by
  have present : (Value.integer word).isAbsent = false := rfl
  have supported : Kind.integer.supports (.comparing comparison) = true :=
    Kind.supports_comparing_of_ne (by decide)
  have unread : readLiteral? reading operand.toList .integer = Option.none := by
    rw [Option.eq_none_iff_forall_ne_some]
    intro literal reads
    obtain ⟨found, numeral, -⟩ := readLiteral?_integer_eq_some_iff.mp reads
    exact none ⟨found, numeral⟩
  have unreadable : readOperand reading .integer operand =
      .error (.badOperand .integer operand .notLiteral) := by
    rw [readOperand_of_untagged untagged, readWhole_eq_error unread]
  exact satisfies_of_unreadable present supported Operator.noConfusion unreadable others

end

/-- **Integers are compared exactly.** An operand without a tag is compared with a word exactly if
it writes an integer, with or without a sign and in any number of digits, that lies in the range of
words. Then the answer is that of the comparison of two integers; and any other operand is refused,
and shown. All words can be written, the least one as well, and a word is equal to what is written
if it is that word. -/
theorem integers_compared_exactly (reading : BooleanReading) (word : Int64) (others : List String) :
    (∀ (comparison : Comparison) (operand : String), (∀ kind : Kind, ¬ kind.Begins operand) →
      let outcome :=
        satisfies reading (.integer word) (.comparing comparison) (operand :: others)
      let Means := fun n => Numeral operand.toList n ∧ -2 ^ 63 ≤ n ∧ n < 2 ^ 63
      (∀ answer, outcome = .ok answer ↔
        ∃ n, Means n ∧ (answer = true ↔ comparison.Relates word.toInt n)) ∧
      ((¬ ∃ n, Means n) → outcome = .error (.badOperand .integer operand .notLiteral))) ∧
    ∀ literal : Int64,
      Numeral (toString literal).toList literal.toInt ∧
      satisfies reading (.integer word) (.comparing .equal) (toString literal :: others) =
        .ok (word = literal) := by
  constructor
  · intro comparison operand untagged outcome Means
    have asWord {n : Int} (means : Means n) :
        ∃ literal : Int64, literal.toInt = n ∧ Numeral operand.toList literal.toInt := by
      obtain ⟨literal, rfl⟩ := exists_toInt_iff.mpr means.2
      exact ⟨literal, rfl, means.1⟩
    have answered {n : Int} (means : Means n) :
        outcome = .ok (comparison.holds (compare word.toInt n)) := by
      obtain ⟨literal, rfl, numeral⟩ := asWord means
      exact satisfies_integer_of_numeral numeral comparison others
    have refused (none : ¬ ∃ n, Means n) :
        outcome = .error (.badOperand .integer operand .notLiteral) := by
      refine satisfies_integer_of_no_numeral untagged ?_ comparison others
      rintro ⟨literal, numeral⟩
      exact none ⟨_, numeral, exists_toInt_iff.mp ⟨literal, rfl⟩⟩
    refine ⟨fun answer => ⟨fun done => ?_, ?_⟩, refused⟩
    · by_cases some : ∃ n, Means n
      · obtain ⟨n, means⟩ := some
        obtain rfl := Except.ok.inj ((answered means).symm.trans done)
        exact ⟨n, means, Comparison.holds_compare_iff⟩
      · cases (refused some).symm.trans done
    · rintro ⟨n, means, answer⟩
      rw [answered means, Except.ok.injEq, Bool.eq_iff_iff, answer]
      exact Comparison.holds_compare_iff
  · intro literal
    have numeral := numeral_toString literal
    refine ⟨numeral, ?_⟩
    rw [satisfies_integer_of_numeral numeral, Except.ok.injEq, Bool.eq_iff_iff,
      Comparison.holds_compare_iff, decide_eq_true_iff]
    exact Int64.toInt_inj

/-- The least word is equal to what is written for it, also behind zeros, and is less than the
greatest one. Without the sign it is one too much for a word. -/
theorem integers_compared_exactly_least_word :
    let least := Int64.minValue
    ((∀ kind : Kind, ¬ kind.Begins "-0009223372036854775808") ∧
      satisfies .lenient (.integer least) (.comparing .equal) ["-0009223372036854775808"] =
        .ok true) ∧
    ((∀ kind : Kind, ¬ kind.Begins "+9223372036854775807") ∧
      satisfies .lenient (.integer least) (.comparing .less) ["+9223372036854775807"] =
        .ok true) ∧
    (∀ kind : Kind, ¬ kind.Begins "9223372036854775808") ∧
      (¬ ∃ n, Numeral "9223372036854775808".toList n ∧ -2 ^ 63 ≤ n ∧ n < 2 ^ 63) ∧
      satisfies .lenient (.integer least) (.comparing .equal) ["9223372036854775808"] =
        .error (.badOperand .integer "9223372036854775808" .notLiteral) := by
  intro least
  have leastWritten : Numeral "-0009223372036854775808".toList (-2 ^ 63) :=
    readInteger?_eq_some_iff.mp (by rfl)
  have greatestWritten : Numeral "+9223372036854775807".toList (2 ^ 63 - 1) :=
    readInteger?_eq_some_iff.mp (by rfl)
  have oneTooMuch : Numeral "9223372036854775808".toList (2 ^ 63) :=
    readInteger?_eq_some_iff.mp (by rfl)
  have noWord : ¬ ∃ n, Numeral "9223372036854775808".toList n ∧ -2 ^ 63 ≤ n ∧ n < 2 ^ 63 := by
    rintro ⟨n, numeral, -, high⟩
    have same : some n = some (2 ^ 63) :=
      (readInteger?_eq_some_iff.mpr numeral).symm.trans (readInteger?_eq_some_iff.mpr oneTooMuch)
    obtain rfl := Option.some.inj same
    exact absurd high (lt_irrefl _)
  have untagged : ∀ kind : Kind, ¬ kind.Begins "-0009223372036854775808" :=
    leastWritten.untagged rfl
  have untagged' : ∀ kind : Kind, ¬ kind.Begins "+9223372036854775807" :=
    greatestWritten.untagged rfl
  have untagged'' : ∀ kind : Kind, ¬ kind.Begins "9223372036854775808" :=
    oneTooMuch.untagged rfl
  have compared := (integers_compared_exactly .lenient least []).1
  refine ⟨⟨untagged, ?_⟩, ⟨untagged', ?_⟩, untagged'', noWord, ?_⟩
  · exact ((compared .equal _ untagged).1 true).mpr
      ⟨-2 ^ 63, ⟨leastWritten, by decide, by decide⟩, by decide +kernel⟩
  · exact ((compared .less _ untagged').1 true).mpr
      ⟨2 ^ 63 - 1, ⟨greatestWritten, by decide, by decide⟩, by decide +kernel⟩
  · exact (compared .equal _ untagged'').2 noWord

end Listing
