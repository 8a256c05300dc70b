import Listing.Proofs.Integer
import Listing.Proofs.Range
import Listing.Proofs.Rounding.Nearest
import Listing.Proofs.Text

/-!
# `Listing/Proofs/Decimal.lean` — decimals are rounded once

A decimal is written with a sign or without one, in digits with a point among or around them, and
may end in a power of ten (`Decimal.Writes`). The places behind the point lower the exponent by
their number, so whatever is written is exactly a whole number times a power of ten, and reading
finds these two (`read?_eq_some_iff`): digits can be many and exponents large, but up to here
nothing is rounded.

Then the rational is rounded, once, to the nearest number (`Decimal.round?_eq_some_iff`). A smaller
rational never has a greater nearest number. So the operands of a comparison can be put in order by
what is written, though the comparison sees no more than the numbers: `greaterThan` a decimal
implies `greaterThan` all smaller ones.

**`decimals_rounded_once`** puts this together. Words such as `inf` and `nan` are not among what is
written, in any case and with any sign.
-/

set_option autoImplicit false

namespace Listing

open Outcome Number Text

/-! ## What is written -/

namespace Number

/-- A sign or none, and whether it is a minus. -/
inductive Sign : List Char → Bool → Prop where
  | none : Sign [] false
  | plus : Sign ['+'] false
  | minus : Sign ['-'] true

/-- One digit or more, in front of a point or behind it if there is one: the number that all of them
write, and how many are behind the point. -/
inductive Mantissa : List Char → Nat → Nat → Prop where
  | plain {width number : Nat} {cs : List Char} (digits : DigitsOf (width + 1) number cs) :
      Mantissa cs number 0
  | pointed {width number : Nat} {front back : List Char}
      (digits : DigitsOf (width + 1) number (front ++ back)) :
      Mantissa (front ++ '.' :: back) number back.length

/-- Nothing, or an `e` in either case and an integer. -/
inductive Scale : List Char → Int → Prop where
  | none : Scale [] 0
  | small {cs : List Char} {exponent : Int} (numeral : Numeral cs exponent) :
      Scale ('e' :: cs) exponent
  | capital {cs : List Char} {exponent : Int} (numeral : Numeral cs exponent) :
      Scale ('E' :: cs) exponent

/-- A text writes a decimal. -/
inductive Decimal.Writes : List Char → Decimal → Prop where
  | intro {sign cs ds : List Char} {negative : Bool} {number places : Nat} {exponent : Int}
      (signed : Sign sign negative) (mantissa : Mantissa cs number places)
      (scale : Scale ds exponent) :
      Writes (sign ++ (cs ++ ds)) ⟨negative, number, exponent - places⟩

variable {sign cs ds : List Char} {negative : Bool} {number places : Nat} {exponent : Int}

/-- Both signs come before the point, the digits and the letters. -/
theorem Sign.splitSign_eq (signed : Sign sign negative) {first : Char} (behind : 45 < first.toNat)
    (rest : List Char) : splitSign (sign ++ first :: rest) = (negative, first :: rest) := by
  cases signed with
  | none =>
    have notMinus : first ≠ '-' := fun minus => absurd (minus ▸ behind) (by decide)
    have notPlus : first ≠ '+' := fun plus => absurd (plus ▸ behind) (by decide)
    simp [splitSign, notMinus, notPlus]
  | plus => rfl
  | minus => rfl

theorem exists_sign (cs : List Char) :
    ∃ sign negative rest, Sign sign negative ∧ cs = sign ++ rest ∧
      splitSign cs = (negative, rest) := by
  unfold splitSign
  split
  · exact ⟨_, _, _, .minus, rfl, rfl⟩
  · exact ⟨_, _, _, .plus, rfl, rfl⟩
  · exact ⟨_, _, _, .none, rfl, rfl⟩

/-- A mantissa begins with a digit or the point. -/
theorem Mantissa.exists_cons (mantissa : Mantissa cs number places) :
    ∃ first rest, cs = first :: rest ∧ 45 < first.toNat ∧ first.toNat < 58 := by
  have bounds {first : Char} (digit : first.isDigit = true) :
      45 < first.toNat ∧ first.toNat < 58 := by
    have ends := isDigit_iff_toNat.mp digit
    omega
  cases mantissa with
  | plain digits =>
    obtain ⟨first, rest, rfl⟩ := List.exists_cons_of_length_eq_add_one digits.length_eq
    exact ⟨first, rest, rfl, bounds (digits.isDigit first List.mem_cons_self)⟩
  | @pointed _ _ front back digits =>
    cases front with
    | nil => exact ⟨'.', back, rfl, by decide⟩
    | cons first front =>
      exact ⟨first, front ++ '.' :: back, rfl, bounds (digits.isDigit first List.mem_cons_self)⟩

theorem Scale.stops (scale : Scale ds exponent) : ∀ c ∈ ds.head?, c.isDigit = false := by
  cases scale with
  | none => simp
  | small numeral => simp
  | capital numeral => simp

/-! ## Reading finds it -/

namespace Decimal

theorem readExponent?_eq_some_iff : readExponent? cs = some exponent ↔ Scale cs exponent := by
  refine ⟨fun reads => ?_, fun scale => ?_⟩
  · cases cs with
    | nil =>
      cases reads
      exact .none
    | cons c cs =>
      rw [readExponent?] at reads
      split at reads
      · next mark =>
        have numeral := readInteger?_eq_some_iff.mp reads
        rcases mark with rfl | rfl
        · exact .small numeral
        · exact .capital numeral
      · cases reads
  · cases scale with
    | none => rfl
    | small numeral => simp [readExponent?, readInteger?_eq_some_iff.mpr numeral]
    | capital numeral => simp [readExponent?, readInteger?_eq_some_iff.mpr numeral]

theorem splitFraction_of_scale (scale : Scale ds exponent) : splitFraction ds = ([], ds) := by
  cases scale <;> rfl

/-- The digits in front of the point, those behind it, and what follows, as reading takes them. -/
theorem split_of_mantissa (mantissa : Mantissa cs number places) (scale : Scale ds exponent) :
    ∃ whole fraction, (cs ++ ds).takeWhile Char.isDigit = whole ∧
      splitFraction ((cs ++ ds).dropWhile Char.isDigit) = (fraction, ds) ∧
      ¬ (whole = [] ∧ fraction = []) ∧ ofDigits (whole ++ fraction) = number ∧
      fraction.length = places := by
  cases mantissa with
  | plain digits =>
    obtain ⟨taken, dropped⟩ := takeWhile_append_of_stops digits.isDigit scale.stops
    refine ⟨cs, [], taken, ?_, ?_, ?_, rfl⟩
    · rw [dropped, splitFraction_of_scale scale]
    · intro empty
      cases empty.1 ▸ digits.length_eq
    · rw [List.append_nil, digits.ofDigits_eq]
  | @pointed width _ front back digits =>
    obtain ⟨frontDigits, backDigits⟩ := List.forall_mem_append.mp digits.isDigit
    have point : ∀ c ∈ ('.' :: (back ++ ds)).head?, c.isDigit = false := by simp
    obtain ⟨taken, dropped⟩ := takeWhile_append_of_stops frontDigits point
    obtain ⟨takenBehind, droppedBehind⟩ := takeWhile_append_of_stops backDigits scale.stops
    refine ⟨front, back, ?_, ?_, ?_, digits.ofDigits_eq, rfl⟩
    · rw [List.append_assoc, List.cons_append, taken]
    · rw [List.append_assoc, List.cons_append, dropped, splitFraction, takenBehind, droppedBehind]
    · intro empty
      cases (List.append_eq_nil_iff.mpr empty) ▸ digits.length_eq

/-- The digits that reading takes make a mantissa. -/
theorem exists_mantissa (cs : List Char) {fraction rest : List Char}
    (split : splitFraction (cs.dropWhile Char.isDigit) = (fraction, rest))
    (some : ¬ (cs.takeWhile Char.isDigit = [] ∧ fraction = [])) :
    ∃ front, cs = front ++ rest ∧
      Mantissa front (ofDigits (cs.takeWhile Char.isDigit ++ fraction)) fraction.length := by
  have front : cs = cs.takeWhile Char.isDigit ++ cs.dropWhile Char.isDigit :=
    List.takeWhile_append_dropWhile.symm
  have digits : ∀ c ∈ cs.takeWhile Char.isDigit, c.isDigit = true :=
    fun c mem => List.mem_takeWhile_imp mem
  generalize cs.takeWhile Char.isDigit = whole at *
  generalize cs.dropWhile Char.isDigit = behind at *
  subst front
  have digitsOf (all : ∀ c ∈ fraction, c.isDigit = true) :
      ∃ width, DigitsOf (width + 1) (ofDigits (whole ++ fraction)) (whole ++ fraction) := by
    refine exists_digitsOf_iff.mpr ⟨⟨?_, List.all_eq_true.mpr ?_⟩, rfl⟩
    · rwa [ne_eq, List.append_eq_nil_iff]
    · exact List.forall_mem_append.mpr ⟨digits, all⟩
  unfold splitFraction at split
  split at split
  · next back =>
    cases split
    obtain ⟨width, digitsOf⟩ := digitsOf fun c mem => List.mem_takeWhile_imp mem
    refine ⟨_, ?_, .pointed digitsOf⟩
    rw [List.append_assoc, List.cons_append, List.takeWhile_append_dropWhile]
  · cases split
    obtain ⟨width, digitsOf⟩ := digitsOf (by simp)
    exact ⟨_, rfl, .plain (by simpa using digitsOf)⟩

/-- Reading accepts the texts that write a decimal, and finds it. -/
theorem read?_eq_some_iff {d : Decimal} : read? cs = some d ↔ Writes cs d := by
  refine ⟨fun reads => ?_, fun writes => ?_⟩
  · obtain ⟨sign, negative, rest, signed, rfl, splits⟩ := exists_sign cs
    rw [read?, splits] at reads
    simp only at reads
    generalize parts : splitFraction (rest.dropWhile Char.isDigit) = taken at reads
    obtain ⟨fraction, behind⟩ := taken
    split at reads
    · cases reads
    · next some =>
      obtain ⟨exponent, scaled, rfl⟩ := Option.map_eq_some_iff.mp reads
      obtain ⟨front, whole, mantissa⟩ := exists_mantissa rest parts some
      have all := Writes.intro signed mantissa (readExponent?_eq_some_iff.mp scaled)
      rwa [← whole] at all
  · obtain ⟨signed, mantissa, scale⟩ := writes
    obtain ⟨whole, fraction, taken, split, some, value, rfl⟩ := split_of_mantissa mantissa scale
    obtain ⟨first, rest, rfl, behind, -⟩ := mantissa.exists_cons
    rw [read?, List.cons_append, signed.splitSign_eq behind, ← List.cons_append]
    simp only [taken, split, if_neg some, readExponent?_eq_some_iff.mpr scale, value,
      Option.map_some]

theorem Writes.unique {d d' : Decimal} (writes : Writes cs d) (writes' : Writes cs d') : d = d' :=
  Option.some.inj ((read?_eq_some_iff.mpr writes).symm.trans (read?_eq_some_iff.mpr writes'))

/-- Letters are no decimal, with a sign or without. -/
theorem read?_of_letter (signed : Sign sign negative) {first : Char} (letter : 58 ≤ first.toNat)
    (rest : List Char) : read? (sign ++ first :: rest) = none := by
  have noDigit : first.isDigit = false := by
    rw [Bool.eq_false_iff, ne_eq, isDigit_iff_toNat]
    omega
  have noPoint : first ≠ '.' := fun point => absurd (point ▸ letter) (by decide)
  rw [read?, signed.splitSign_eq (by omega)]
  simp [noDigit, noPoint, splitFraction]

/-- A text with a tag writes no decimal. -/
theorem Writes.untagged {operand : String} {d : Decimal} (writes : Writes operand.toList d)
    (kind : Kind) : ¬ kind.Begins operand := by
  generalize whole : operand.toList = cs at writes
  obtain ⟨signed, mantissa, -⟩ := writes
  cases signed with
  | none =>
    obtain ⟨first, rest, rfl, -, below⟩ := mantissa.exists_cons
    exact Kind.not_begins_of_cons below whole
  | plus => exact Kind.not_begins_of_cons (by decide) whole
  | minus => exact Kind.not_begins_of_cons (by decide) whole

end Decimal

/-! ## Decimals in conditions -/

namespace Binary64

variable {x y : Binary64} {comparison : Comparison}

theorem admits_compare?_iff (ne : comparison ≠ .notEqual) :
    comparison.admits (x.compare? y) = true ↔
      x.isNaN = false ∧ y.isNaN = false ∧
        comparison.Relates x.signedMagnitude y.signedMagnitude := by
  rw [Comparison.admits_eq_true_iff ne]
  simp only [compare?_eq_some_iff, ← Comparison.holds_compare_iff]
  refine ⟨fun compared => ?_, fun compared => ?_⟩
  · obtain ⟨_, ⟨xNumber, yNumber, rfl⟩, holds⟩ := compared
    exact ⟨xNumber, yNumber, holds⟩
  · obtain ⟨xNumber, yNumber, holds⟩ := compared
    exact ⟨_, ⟨xNumber, yNumber, rfl⟩, holds⟩

theorem Nearest.isNaN_eq_false {r : ℚ} (nearest : x.Nearest r) : x.isNaN = false := by
  rw [isNaN, decide_eq_false_iff_not]
  exact Nat.lt_asymm nearest.finite

end Binary64

end Number

section

variable {reading : BooleanReading} {literal : String}

theorem readWhole_decimal_eq_ok_iff {value : Value} :
    readWhole reading .decimal literal = .ok value ↔
      ∃ d number, Decimal.Writes literal.toList d ∧ d.round? = some number ∧
        value = .decimal number := by
  have literal_iff : readLiteral? reading literal.toList .decimal = some value ↔
      ∃ d number, Decimal.Writes literal.toList d ∧ d.round? = some number ∧
        value = .decimal number := by
    simp only [readLiteral?, Option.map_eq_some_iff, Option.bind_eq_some_iff,
      Decimal.read?_eq_some_iff]
    refine ⟨fun read => ?_, fun read => ?_⟩
    · obtain ⟨number, ⟨d, writes, rounds⟩, rfl⟩ := read
      exact ⟨d, number, writes, rounds, rfl⟩
    · obtain ⟨d, number, writes, rounds, rfl⟩ := read
      exact ⟨number, ⟨d, writes, rounds⟩, rfl⟩
  rw [← literal_iff, readWhole]
  cases readLiteral? reading literal.toList .decimal <;> simp

theorem readWhole_decimal_eq_error
    (none : ∀ d, Decimal.Writes literal.toList d → d.round? = none) :
    readWhole reading .decimal literal = .error (.badOperand .decimal literal .notLiteral) := by
  apply readWhole_eq_error
  rw [Option.eq_none_iff_forall_ne_some]
  intro value reads
  have accepted : readWhole reading .decimal literal = .ok value := readWhole_eq_ok reads
  obtain ⟨d, number, writes, rounds, -⟩ := readWhole_decimal_eq_ok_iff.mp accepted
  cases (none d writes).symm.trans rounds

theorem Number.Decimal.Writes.nearest {d : Decimal} {number : Binary64}
    (writes : Decimal.Writes literal.toList d)
    (reads : readWhole reading .decimal literal = .ok (.decimal number)) :
    number.Nearest d.value := by
  obtain ⟨found, _, writes', rounds, same⟩ := readWhole_decimal_eq_ok_iff.mp reads
  cases same
  rw [writes.unique writes']
  exact (round?_eq_some_iff.mp rounds).2.2

/-- A word begins with a letter, which no case makes a digit or a point. -/
theorem Number.Decimal.not_writes_word {sign letters : List Char} {negative : Bool} {word : String}
    (signed : Sign sign negative) (isWord : word ∈ ["inf", "infinity", "nan"])
    (same : agree letters word.toList = true) (d : Decimal) :
    ¬ Decimal.Writes (sign ++ letters) d := by
  have lowered : letters.map Char.toLower = word.toList.map Char.toLower := eq_of_beq same
  obtain ⟨first, rest, starts, letter⟩ : ∃ first rest,
      word.toList.map Char.toLower = first :: rest ∧ 65 ≤ first.toNat := by
    simp only [List.mem_cons, List.not_mem_nil, or_false] at isWord
    rcases isWord with rfl | rfl | rfl <;> exact ⟨_, _, rfl, by decide⟩
  rw [starts, List.map_eq_cons_iff] at lowered
  obtain ⟨initial, others, rfl, rfl, -⟩ := lowered
  have isLetter : 58 ≤ initial.toNat := by
    by_contra below
    rw [toLower_of_lt (by omega)] at letter
    omega
  intro writes
  cases (read?_eq_some_iff.mpr writes).symm.trans (read?_of_letter signed isLetter others)

theorem satisfies_decimal {x number : Binary64} {d : Decimal}
    (writes : Decimal.Writes literal.toList d)
    (reads : readWhole reading .decimal literal = .ok (.decimal number)) (comparison : Comparison)
    (others : List String) :
    satisfies reading (.decimal x) (.comparing comparison) (literal :: others) =
      .ok (comparison.admits (x.compare? number)) := by
  have present : (Value.decimal x).isAbsent = false := rfl
  have supported : Kind.decimal.supports (.comparing comparison) = true :=
    Kind.supports_comparing_of_ne (by decide)
  have readable : readOperand reading .decimal literal = .ok (.decimal number) :=
    (readOperand_of_untagged writes.untagged).trans reads
  exact satisfies_of_readable present supported Operator.noConfusion readable others

/-- What is greater than a decimal is greater than all that come before it, and the other way
round. -/
theorem satisfies_of_value_le {x number number' : Binary64} {d d' : Decimal} {literal' : String}
    (writes : Decimal.Writes literal.toList d) (writes' : Decimal.Writes literal'.toList d')
    (reads : readWhole reading .decimal literal = .ok (.decimal number))
    (reads' : readWhole reading .decimal literal' = .ok (.decimal number'))
    (le : number.value ≤ number'.value) (others : List String) :
    (satisfies reading (.decimal x) (.comparing .greater) (literal' :: others) = .ok true →
      satisfies reading (.decimal x) (.comparing .greater) (literal :: others) = .ok true) ∧
    (satisfies reading (.decimal x) (.comparing .less) (literal :: others) = .ok true →
      satisfies reading (.decimal x) (.comparing .less) (literal' :: others) = .ok true) := by
  have isNumber := (writes.nearest reads).isNaN_eq_false
  have isNumber' := (writes'.nearest reads').isNaN_eq_false
  have ordered : number.signedMagnitude ≤ number'.signedMagnitude := by
    by_contra less
    exact absurd le (Binary64.value_lt_iff.mpr (not_le.mp less)).not_ge
  simp only [satisfies_decimal writes reads, satisfies_decimal writes' reads', Except.ok.injEq,
    Binary64.admits_compare?_iff (show Comparison.greater ≠ .notEqual by decide),
    Binary64.admits_compare?_iff (show Comparison.less ≠ .notEqual by decide),
    Comparison.Relates]
  refine ⟨fun above => ?_, fun below => ?_⟩
  · obtain ⟨xNumber, -, greater⟩ := above
    exact ⟨xNumber, isNumber, by omega⟩
  · obtain ⟨xNumber, -, less⟩ := below
    exact ⟨xNumber, isNumber', by omega⟩

end

/-- **Decimals are rounded once.** An operand without a tag is read as a decimal exactly if it
writes one that rounds to a finite number, and then as the number nearest to the exact rational,
with the sign that is written, also where it is a zero; of two that are as near, the one with the
even significand. Everything else is refused, and shown: `inf`, `infinity` and `nan`, in any case
and with any sign, and what rounds beyond the largest number. So the order of what is written is
kept: a value greater than a decimal is greater than all smaller ones, and a value less than a
decimal is less than all greater ones. -/
theorem decimals_rounded_once (reading : BooleanReading) :
    (∀ literal : String,
      let outcome := readWhole reading .decimal literal
      let Means := fun d => Decimal.Writes literal.toList d ∧ |d.value| < Binary64.overflow
      (∀ value, outcome = .ok value ↔
        ∃ d number, Means d ∧ number.isNegative = d.negative ∧ number.Nearest d.value ∧
          value = .decimal number) ∧
      ((∃ value, outcome = .ok value) ↔ ∃ d, Means d) ∧
      ((¬ ∃ d, Means d) → outcome = .error (.badOperand .decimal literal .notLiteral))) ∧
    (∀ (literal word : String) (sign letters : List Char) (negative : Bool), Sign sign negative →
      word ∈ ["inf", "infinity", "nan"] → agree letters word.toList = true →
        literal.toList = sign ++ letters →
          readWhole reading .decimal literal =
            .error (.badOperand .decimal literal .notLiteral)) ∧
    ∀ (literal literal' : String) (d d' : Decimal) (number number' : Binary64),
      Decimal.Writes literal.toList d → Decimal.Writes literal'.toList d' →
      readWhole reading .decimal literal = .ok (.decimal number) →
      readWhole reading .decimal literal' = .ok (.decimal number') →
      d.value ≤ d'.value →
        number.value ≤ number'.value ∧
        ∀ (x : Binary64) (others : List String),
          let Satisfies := fun comparison operand =>
            satisfies reading (.decimal x) (.comparing comparison) (operand :: others) = .ok true
          (Satisfies .greater literal' → Satisfies .greater literal) ∧
          (Satisfies .less literal → Satisfies .less literal') := by
  refine ⟨fun literal => ?_, ?_, ?_⟩
  · intro outcome Means
    have read (value : Value) : outcome = .ok value ↔
        ∃ d number, Means d ∧ number.isNegative = d.negative ∧ number.Nearest d.value ∧
          value = .decimal number := by
      simp only [outcome, Means, readWhole_decimal_eq_ok_iff, Decimal.round?_eq_some_iff, and_assoc]
    refine ⟨read, ⟨fun accepted => ?_, fun means => ?_⟩, fun none => ?_⟩
    · obtain ⟨value, reads⟩ := accepted
      obtain ⟨d, -, means, -⟩ := (read value).mp reads
      exact ⟨d, means⟩
    · obtain ⟨d, writes, small⟩ := means
      obtain ⟨number, rounds⟩ := Decimal.exists_round?_iff.mpr small
      exact ⟨_, readWhole_decimal_eq_ok_iff.mpr ⟨d, number, writes, rounds, rfl⟩⟩
    · refine readWhole_decimal_eq_error fun d writes => ?_
      rw [Option.eq_none_iff_forall_ne_some]
      intro number rounds
      exact none ⟨d, writes, Decimal.exists_round?_iff.mp ⟨number, rounds⟩⟩
  · intro literal word sign letters negative signed isWord same whole
    refine readWhole_decimal_eq_error fun d writes => ?_
    rw [whole] at writes
    exact absurd writes (Decimal.not_writes_word signed isWord same d)
  · intro literal literal' d d' number number' writes writes' reads reads' le
    have ordered := (writes.nearest reads).value_le (writes'.nearest reads') le
    exact ⟨ordered, fun x others =>
      satisfies_of_value_le writes writes' reads reads' ordered others⟩

/-- One more than 2⁵³ is a tie, and what is too small for any number is a zero with its sign; that
zero comes before one half. Beyond the largest number nothing is read. -/
theorem decimals_rounded_once_at_edges :
    let read := readWhole .lenient .decimal
    let one : Value := .decimal ⟨0x3FF0000000000000⟩
    (read "9007199254740993" = .ok (.decimal ⟨0x4340000000000000⟩) ∧
      Binary64.Nearest ⟨0x4340000000000000⟩ 9007199254740993) ∧
    ((¬ ∃ d, Decimal.Writes "1e309".toList d ∧ |d.value| < Binary64.overflow) ∧
      read "1e309" = .error (.badOperand .decimal "1e309" .notLiteral)) ∧
    read "-Infinity" = .error (.badOperand .decimal "-Infinity" .notLiteral) ∧
    (read "-1e-400" = .ok (.decimal ⟨0x8000000000000000⟩) ∧
      satisfies .lenient one (.comparing .greater) ["0.5"] = .ok true ∧
      satisfies .lenient one (.comparing .greater) ["-1e-400"] = .ok true) := by
  intro read one
  have written {text : String} {d : Decimal} (reads : Decimal.read? text.toList = some d) :
      Decimal.Writes text.toList d := Decimal.read?_eq_some_iff.mp reads
  obtain ⟨exact, words, ordered⟩ := decimals_rounded_once .lenient
  refine ⟨?_, ?_, ?_, ?_⟩
  · have reads : read "9007199254740993" = .ok (.decimal ⟨0x4340000000000000⟩) := by decide +kernel
    obtain ⟨d, _, ⟨writes, -⟩, -, nearest, same⟩ := ((exact "9007199254740993").1 _).mp reads
    cases same
    have value : d.value = 9007199254740993 := by
      rw [writes.unique (written (d := ⟨false, 9007199254740993, 0⟩) (by rfl))]
      simp [Decimal.value, signed]
    exact ⟨reads, value ▸ nearest⟩
  · have tooLarge : ¬ ∃ d, Decimal.Writes "1e309".toList d ∧ |d.value| < Binary64.overflow := by
      intro means
      obtain ⟨d, writes, small⟩ := means
      rw [writes.unique (written (d := ⟨false, 1, 309⟩) (by rfl)), Decimal.value, abs_signed,
        abs_of_nonneg (by positivity)] at small
      exact absurd (Binary64.overflow_le_of_large one_ne_zero (by decide)) small.not_ge
    exact ⟨tooLarge, (exact "1e309").2.2 tooLarge⟩
  · exact words _ "infinity" ['-'] "Infinity".toList true .minus (by simp) (by decide) (by rfl)
  · have reads : read "-1e-400" = .ok (.decimal ⟨0x8000000000000000⟩) := by decide +kernel
    have half : read "0.5" = .ok (.decimal ⟨0x3FE0000000000000⟩) := by decide +kernel
    have above : satisfies .lenient one (.comparing .greater) ["0.5"] = .ok true := by
      decide +kernel
    have le : Decimal.value ⟨true, 1, -400⟩ ≤ Decimal.value ⟨false, 5, -1⟩ := by
      have below : Decimal.value ⟨true, 1, -400⟩ ≤ 0 := neg_nonpos.mpr (by positivity)
      have above : 0 ≤ Decimal.value ⟨false, 5, -1⟩ := by simp [Decimal.value, signed]
      exact below.trans above
    have both := ordered "-1e-400" "0.5" _ _ _ _ (written (by rfl)) (written (by rfl)) reads half le
    exact ⟨reads, above, (both.2 _ []).1 above⟩

end Listing
