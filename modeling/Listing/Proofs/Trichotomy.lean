import Listing.Proofs.Operand

/-!
# `Listing/Proofs/Trichotomy.lean` — the six comparisons of one value

A value is less than an operand, equal to it or greater, exactly one of these, and the other three
comparisons are made of them. That is so of any two things that have an order
(`trichotomous_holds`), so all there is to see is where a value and an operand have one. The operand
always does its part: once read it is present, of the kind of the value, and not a NaN, because a
numeral beyond the finite numbers is refused (`isNaN_readLiteral?`). What is left are values that
are NaNs, and these are different from everything and nothing else.

Before they compare, all six read the operand, and all alike. So they fail together and with the
same fault, except that a missing operand is reported with the name of the operator. This is
`Compared`, which holds of every value that is there, for the comparisons that its kind has.

**`comparisons_trichotomy`** puts the two together.
-/

set_option autoImplicit false

namespace Listing

open Outcome Text Number

/-! ## Comparisons -/

namespace Comparison

/-- These are the answers of the six comparisons to two things that have an order. -/
structure Trichotomous (answer : Comparison → Bool) : Prop where
  exactlyOne : [less, equal, greater].countP answer = 1
  notEqual : answer notEqual = !answer equal
  lessOrEqual : answer lessOrEqual = (answer less || answer equal)
  greaterOrEqual : answer greaterOrEqual = (answer greater || answer equal)

theorem trichotomous_holds (order : Ordering) :
    Trichotomous fun comparison => comparison.holds order := by
  cases order <;> exact ⟨rfl, rfl, rfl, rfl⟩

end Comparison

/-! ## Numbers that are read -/

namespace Number.Binary64

theorem magnitude_ofMagnitude {negative : Bool} {magnitude : Nat} (small : magnitude < 1 <<< 63) :
    (ofMagnitude negative magnitude).magnitude = magnitude := by
  have signBit : (1 <<< 63 : Nat) = 9223372036854775808 := rfl
  simp only [Binary64.magnitude, ofMagnitude, UInt64.toNat_ofNat', signBit] at *
  split <;> omega

theorem lt_infinity_of_magnitudeOfDecimal? {significand : Nat} {exponent : Int} {magnitude : Nat}
    (rounds : magnitudeOfDecimal? significand exponent = some magnitude) :
    magnitude < infinity := by
  have positive : 0 < infinity := by decide
  unfold magnitudeOfDecimal? at rounds
  split at rounds
  · cases rounds; exact positive
  split at rounds
  · cases rounds
  split at rounds
  · cases rounds; exact positive
  dsimp only at rounds
  split at rounds
  · next finite => cases rounds; exact finite
  · cases rounds

/-- Only what is finite is rounded to. -/
theorem isNaN_of_round? {numeral : Decimal} {number : Binary64}
    (rounds : numeral.round? = some number) : number.isNaN = false := by
  obtain ⟨magnitude, nearest, rfl⟩ := Option.map_eq_some_iff.mp rounds
  have finite := lt_infinity_of_magnitudeOfDecimal? nearest
  have small : magnitude < 1 <<< 63 := Nat.lt_trans finite (by decide)
  rw [isNaN, magnitude_ofMagnitude small, decide_eq_false_iff_not]
  exact Nat.lt_asymm finite

theorem compare?_eq_none_iff {x y : Binary64} :
    x.compare? y = none ↔ x.isNaN = true ∨ y.isNaN = true := by
  unfold compare?
  cases x.isNaN <;> cases y.isNaN <;> simp

end Number.Binary64

/-! ## Values -/

namespace Value

/-- Whether the value is a number in name only. -/
def isNaN : Value → Bool
  | decimal number => number.isNaN
  | string _ | date _ | boolean _ | integer _ => false

/-- Present values of one kind have an order, but for NaNs. -/
theorem compare?_eq_none_iff {value operand : Value} (same : operand.kind = value.kind)
    (present : value.isAbsent = false) (operandPresent : operand.isAbsent = false) :
    value.compare? operand = none ↔ value.isNaN = true ∨ operand.isNaN = true := by
  cases value <;> cases operand <;> cases same
  case string text literal =>
    obtain ⟨text, rfl⟩ := Option.isSome_iff_exists.mp (Option.isNone_eq_false_iff.mp present)
    obtain ⟨literal, rfl⟩ :=
      Option.isSome_iff_exists.mp (Option.isNone_eq_false_iff.mp operandPresent)
    simp [compare?, isNaN]
  case date day literal =>
    obtain ⟨day, rfl⟩ := Option.isSome_iff_exists.mp (Option.isNone_eq_false_iff.mp present)
    obtain ⟨literal, rfl⟩ :=
      Option.isSome_iff_exists.mp (Option.isNone_eq_false_iff.mp operandPresent)
    simp [compare?, isNaN]
  case boolean truth literal => simp [compare?, isNaN]
  case integer word literal => simp [compare?, isNaN]
  case decimal number literal => exact Binary64.compare?_eq_none_iff

end Value

section

variable {reading : BooleanReading} {kind : Kind} {value : Value}

theorem isNaN_readLiteral? {cs : List Char} (reads : readLiteral? reading cs kind = some value) :
    value.isNaN = false := by
  cases kind <;> simp only [readLiteral?, Option.some.injEq, Option.map_eq_some_iff] at reads
  case string => subst reads; rfl
  case decimal =>
    obtain ⟨number, rounds, rfl⟩ := reads
    obtain ⟨numeral, -, rounds⟩ := Option.bind_eq_some_iff.mp rounds
    exact Binary64.isNaN_of_round? rounds
  all_goals obtain ⟨_, _, rfl⟩ := reads; rfl

/-- What an operand is read as is present, of the kind that it is read for, and no NaN. -/
theorem of_readOperand {operand : String} (reads : readOperand reading kind operand = .ok value) :
    value.kind = kind ∧ value.isAbsent = false ∧ value.isNaN = false := by
  obtain ⟨-, literal⟩ := readOperand_eq_ok_iff.mp reads
  obtain ⟨sameKind, present⟩ := kind_readLiteral? literal
  exact ⟨sameKind, present, isNaN_readLiteral? literal⟩

end

/-! ## Conditions -/

section

variable {reading : BooleanReading} {value : Value} {comparison : Comparison}

theorem Kind.supports_comparing_of_ne {kind : Kind} (ne : kind ≠ .boolean) :
    kind.supports (.comparing comparison) = true := by
  simp [supports, ne]

/-- What becomes of the comparisons that the kind of a value has: all of them miss an operand, or
find the same fault with it, or answer by the order that the value has to it. -/
inductive Compared (reading : BooleanReading) (value : Value) (operands : List String) : Prop where
  | missing (nothing : operands = [])
      (fails : ∀ comparison, value.kind.supports (.comparing comparison) = true →
        satisfies reading value (.comparing comparison) operands =
          .error (.operandMissing (.comparing comparison)))
  | unusable (something : operands ≠ []) (unusable : Unusable reading value.kind operands)
      (text : String) (cause : OperandCause)
      (fails : ∀ comparison, value.kind.supports (.comparing comparison) = true →
        satisfies reading value (.comparing comparison) operands =
          .error (.badOperand value.kind text cause))
  | ordered (usable : ¬ Unusable reading value.kind operands) (order : Option Ordering)
      (unordered : order = none ↔ value.isNaN = true)
      (answers : ∀ comparison, value.kind.supports (.comparing comparison) = true →
        satisfies reading value (.comparing comparison) operands = .ok (comparison.admits order))

theorem compared (reading : BooleanReading) (present : value.isAbsent = false)
    (operands : List String) : Compared reading value operands := by
  cases operands with
  | nil =>
    refine .missing rfl fun comparison supported => ?_
    rw [satisfies_of_present present supported Operator.noConfusion]
    rfl
  | cons operand others =>
    have outcome {comparison : Comparison}
        (supported : value.kind.supports (.comparing comparison) = true) :=
      @satisfies_of_present reading value (.comparing comparison) (operand :: others) present
        supported Operator.noConfusion
    cases reads : readOperand reading value.kind operand with
    | error fault =>
      obtain ⟨text, cause, rfl⟩ := exists_cause_of_readOperand reads
      refine .unusable (List.cons_ne_nil _ _) (exists_readOperand_eq_error_iff.mp ⟨_, reads⟩)
        text cause fun comparison supported => ?_
      rw [outcome supported, firstOperand, ok_bind, reads, error_bind]
    | ok found =>
      obtain ⟨sameKind, foundPresent, number⟩ := of_readOperand reads
      refine .ordered (not_unusable_of_readOperand reads others) (value.compare? found) ?_
        fun comparison supported => ?_
      · rw [Value.compare?_eq_none_iff sameKind present foundPresent, number]
        simp
      · rw [outcome supported, firstOperand, ok_bind, reads, ok_bind, Operator.relates]

end

/-- **The six comparisons divide all values among them.** Let a value of any kind but boolean be
there. Then all six miss an operand, or find the same fault with the first one, or answer; and if
the value is not a NaN, exactly one of *less*, *equal* and *greater* answers yes, and the others
answer accordingly. A NaN is different from every operand and nothing else. Of a boolean there are
*equal* and *not equal*; they fail together or answer the opposite. An absent value satisfies no
operator, whatever the operands. -/
theorem comparisons_trichotomy (reading : BooleanReading) :
    (∀ (value : Value) (operands : List String), value.isAbsent = false → value.kind ≠ .boolean →
      let outcome := fun comparison => satisfies reading value (.comparing comparison) operands
      (operands = [] ∧
        ∀ comparison, outcome comparison = .error (.operandMissing (.comparing comparison))) ∨
      (operands ≠ [] ∧ Unusable reading value.kind operands ∧
        ∃ text cause, ∀ comparison,
          outcome comparison = .error (.badOperand value.kind text cause)) ∨
      (¬ Unusable reading value.kind operands ∧
        ∃ answer, (∀ comparison, outcome comparison = .ok (answer comparison)) ∧
          (value.isNaN = false → Comparison.Trichotomous answer) ∧
          (value.isNaN = true → ∀ comparison, answer comparison = true ↔ comparison = .notEqual))) ∧
    (∀ (truth : Bool) (operands : List String),
      let outcome := fun comparison =>
        satisfies reading (.boolean truth) (.comparing comparison) operands
      (Unusable reading .boolean operands ∧ (∃ fault, outcome .equal = .error fault) ∧
        ∃ fault, outcome .notEqual = .error fault) ∨
      (¬ Unusable reading .boolean operands ∧
        ∃ same, outcome .equal = .ok same ∧ outcome .notEqual = .ok !same)) ∧
    ∀ (value : Value) (operator : Operator) (operands : List String), value.isAbsent = true →
      satisfies reading value operator operands = .ok false := by
  refine ⟨?_, ?_, ?_⟩
  · intro value operands present notBoolean outcome
    have supported (comparison : Comparison) :
        value.kind.supports (.comparing comparison) = true :=
      Kind.supports_comparing_of_ne notBoolean
    cases compared reading present operands with
    | missing nothing fails =>
      exact .inl ⟨nothing, fun comparison => fails comparison (supported comparison)⟩
    | unusable something unusable text cause fails =>
      exact .inr (.inl ⟨something, unusable, text, cause, fun comparison =>
        fails comparison (supported comparison)⟩)
    | ordered usable order unordered answers =>
      refine .inr (.inr ⟨usable, fun comparison => comparison.admits order, fun comparison =>
        answers comparison (supported comparison), ?_, ?_⟩)
      · intro number
        cases order with
        -- Operands are never NaNs, so only the value can be the reason for having no order.
        | none => cases number.symm.trans (unordered.mp rfl)
        | some order => exact Comparison.trichotomous_holds order
      · intro nan comparison
        rw [unordered.mpr nan]
        exact decide_eq_true_iff
  · intro truth operands outcome
    have present : (Value.boolean truth).isAbsent = false := rfl
    cases compared reading present operands with
    | missing nothing fails =>
      exact .inl ⟨nothing ▸ .missing, ⟨_, fails .equal rfl⟩, ⟨_, fails .notEqual rfl⟩⟩
    | unusable something unusable text cause fails =>
      exact .inl ⟨unusable, ⟨_, fails .equal rfl⟩, ⟨_, fails .notEqual rfl⟩⟩
    | ordered usable order unordered answers =>
      refine .inr ⟨usable, Comparison.equal.admits order, answers .equal rfl, ?_⟩
      cases order with
      | none => cases unordered.mp rfl
      | some order =>
        have opposite := (Comparison.trichotomous_holds order).notEqual
        exact (answers .notEqual rfl).trans (congrArg Except.ok opposite)
  · exact fun value operator operands absent => satisfies_of_absent absent operator operands

/-- A NaN is different from a thousand, the negative zero is equal to zero, and no absent day is
asked what it contains. -/
theorem comparisons_trichotomy_nan :
    let nan : Value := .decimal ⟨0x7FF8000000000000⟩
    let zero : Value := .decimal ⟨0x8000000000000000⟩
    (nan.isAbsent = false ∧ nan.kind ≠ .boolean ∧ nan.isNaN = true ∧
      ∀ comparison, satisfies .lenient nan (.comparing comparison) [":DECIMAL:1e3"] =
        .ok (comparison = .notEqual)) ∧
    (zero.isAbsent = false ∧ zero.kind ≠ .boolean ∧ zero.isNaN = false ∧
      ∃ answer : Comparison → Bool, answer .equal = true ∧ answer .less = false ∧
        (∀ comparison, satisfies .strict zero (.comparing comparison) ["+0.0"] =
          .ok (answer comparison)) ∧
        Comparison.Trichotomous answer) ∧
    (Value.date none).isAbsent = true ∧
      satisfies .strict (.date none) .containing [] = .ok false := by
  intro nan zero
  have thousand : readOperand .lenient .decimal ":DECIMAL:1e3" =
      .ok (.decimal ⟨0x408F400000000000⟩) := by decide +kernel
  have nought : readOperand .strict .decimal "+0.0" = .ok (.decimal ⟨0⟩) := by rfl
  refine ⟨⟨rfl, by decide, by decide, ?_⟩, ⟨rfl, by decide, by decide, ?_⟩, rfl, ?_⟩
  · rcases (comparisons_trichotomy .lenient).1 nan [":DECIMAL:1e3"] rfl (by decide) with
      ⟨nothing, -⟩ | ⟨-, unusable, -⟩ | ⟨-, answer, answers, -, different⟩
    · cases nothing
    · exact absurd unusable (not_unusable_of_readOperand thousand [])
    · intro comparison
      have onlyDifferent : answer comparison = decide (comparison = .notEqual) :=
        Bool.eq_iff_iff.mpr ((different (by decide) comparison).trans decide_eq_true_iff.symm)
      exact (answers comparison).trans (congrArg Except.ok onlyDifferent)
  · rcases (comparisons_trichotomy .strict).1 zero ["+0.0"] rfl (by decide) with
      ⟨nothing, -⟩ | ⟨-, unusable, -⟩ | ⟨-, answer, answers, trichotomous, -⟩
    · cases nothing
    · exact absurd unusable (not_unusable_of_readOperand nought [])
    · have equal : satisfies .strict zero (.comparing .equal) ["+0.0"] = .ok true := by rfl
      have less : satisfies .strict zero (.comparing .less) ["+0.0"] = .ok false := by rfl
      exact ⟨answer, Except.ok.inj ((answers .equal).symm.trans equal),
        Except.ok.inj ((answers .less).symm.trans less), answers, trichotomous (by decide)⟩
  · exact (comparisons_trichotomy .strict).2.2 _ _ _ rfl

end Listing
