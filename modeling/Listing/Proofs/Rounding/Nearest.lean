import Listing.Number.Decimal
import Listing.Proofs.Rounding

/-!
# `Listing/Proofs/Rounding/Nearest.lean` — the number nearest to a rational

A finite bit pattern has a rational `value`: a significand times a power of two, with a sign. A
number is nearest to a rational (`Nearest`) if no finite number is nearer, and where another one is
as near, it has the even significand. Nothing in this speaks of how one rounds.

Signed magnitudes are in the order of values, and a signed magnitude between those of two finite
numbers belongs to a finite number. So between two different numbers with even significands there
is a third, and with it two facts about being nearest follow from the definition alone: it keeps the
order (`Nearest.value_le`), and a rational has one nearest value (`Nearest.eq`). Zero has two
patterns, which differ in the sign.

Rounding finds the nearest number with the sign that is written, if the rational is below the
threshold (`round?_eq_some_iff`).
-/

set_option autoImplicit false

namespace Listing.Number

/-- A rational with a sign in front. -/
def signed (negative : Bool) (r : ℚ) : ℚ :=
  if negative then -r else r

theorem abs_signed (negative : Bool) (r : ℚ) : |signed negative r| = |r| := by
  cases negative <;> simp [signed]

theorem signed_sub (negative : Bool) (r s : ℚ) :
    signed negative r - signed negative s = signed negative (r - s) := by
  cases negative <;> simp [signed, add_comm, sub_eq_add_neg]

namespace Binary64

/-! ## Values -/

/-- The fraction with the leading bit, which only the numbers of the least exponent lack. -/
def significand (x : Binary64) : Nat :=
  if x.magnitude < 2 ^ 52 then x.magnitude else 2 ^ 52 + x.magnitude % 2 ^ 52

/-- The exponent of the last bit of the significand. -/
def exponent (x : Binary64) : Int :=
  if x.magnitude < 2 ^ 52 then -1074 else x.magnitude / 2 ^ 52 - 1075

/-- The rational that a finite number is. -/
def value (x : Binary64) : ℚ :=
  signed x.isNegative (x.significand * 2 ^ x.exponent)

def IsFinite (x : Binary64) : Prop :=
  x.magnitude < infinity

/-- No finite number is nearer to a rational than this one; and if another one is as near, this one
has the even significand. -/
structure Nearest (x : Binary64) (r : ℚ) : Prop where
  finite : x.IsFinite
  closest : ∀ y : Binary64, y.IsFinite → |x.value - r| ≤ |y.value - r|
  even : ∀ y : Binary64, y.IsFinite → y.value ≠ x.value → |y.value - r| = |x.value - r| →
    Even x.significand

variable {x y : Binary64}

theorem even_significand_iff : Even x.significand ↔ Even x.magnitude := by
  simp only [significand, Nat.even_iff]
  split <;> omega

theorem value_eq (x : Binary64) :
    x.value = signed x.isNegative (units x.magnitude / unitsOfOne) := by
  have hidden : (1 <<< 52 : Nat) = 2 ^ 52 := rfl
  unfold value significand exponent units
  congr 1
  rw [hidden]
  split
  · rfl
  · next large =>
    have doublings : (x.magnitude / 2 ^ 52 : Int) - 1075 =
        (x.magnitude / 2 ^ 52 - 1 : Nat) - (1074 : Nat) := by
      omega
    rw [doublings, zpow_sub₀ two_ne_zero, zpow_natCast, zpow_natCast, Nat.shiftLeft_eq,
      unitsOfOne, mul_div_assoc', Nat.cast_mul, Nat.cast_pow, Nat.cast_ofNat]

theorem abs_value (x : Binary64) : |x.value| = units x.magnitude / unitsOfOne := by
  rw [value_eq, abs_signed, abs_of_nonneg (div_nonneg (Nat.cast_nonneg _) unitsOfOne_pos.le)]

/-! ## The order of values -/

/-- The value in units, from the signed magnitude. -/
def signedUnits : Int → Int
  | .ofNat magnitude => units magnitude
  | .negSucc less => -units (less + 1)

theorem signedUnits_lt {i j : Int} (before : i < j) : signedUnits i < signedUnits j := by
  have positive (less : Nat) : 0 < units (less + 1) := strictMono_units less.succ_pos
  cases i with
  | ofNat i =>
    cases j with
    | ofNat j => exact Int.ofNat_lt.mpr (strictMono_units (Int.ofNat_lt.mp before))
    | negSucc j =>
      have below := Int.negSucc_lt_zero j
      exact absurd (Int.lt_trans before below) (Int.not_lt.mpr (Int.natCast_nonneg i))
  | negSucc i =>
    have below := positive i
    cases j with
    | ofNat j =>
      show -(units (i + 1) : Int) < units j
      omega
    | negSucc j =>
      have closer : units (j + 1) < units (i + 1) := strictMono_units (by omega)
      show -(units (i + 1) : Int) < -units (j + 1)
      omega

theorem signedUnits_lt_iff {i j : Int} : signedUnits i < signedUnits j ↔ i < j := by
  refine ⟨fun less => ?_, signedUnits_lt⟩
  rcases Int.lt_trichotomy i j with before | rfl | after
  · exact before
  · exact absurd less (Int.lt_irrefl _)
  · exact absurd (signedUnits_lt after) (Int.lt_asymm less)

theorem signedUnits_inj {i j : Int} : signedUnits i = signedUnits j ↔ i = j := by
  refine ⟨fun same => ?_, congrArg signedUnits⟩
  have notBefore : ¬ i < j := by rw [← signedUnits_lt_iff, same]; exact Int.lt_irrefl _
  have notAfter : ¬ j < i := by rw [← signedUnits_lt_iff, same]; exact Int.lt_irrefl _
  omega

theorem value_eq_signedUnits (x : Binary64) :
    x.value = signedUnits x.signedMagnitude / unitsOfOne := by
  rw [value_eq, signedMagnitude, signed]
  split
  · cases x.magnitude with
    | zero => simp [signedUnits, units_zero]
    | succ less =>
      show -(units (less + 1) / unitsOfOne) = ((-units (less + 1) : Int) : ℚ) / unitsOfOne
      simp [neg_div]
  · rfl

theorem value_lt_iff : x.value < y.value ↔ x.signedMagnitude < y.signedMagnitude := by
  rw [value_eq_signedUnits, value_eq_signedUnits, div_lt_div_iff_of_pos_right unitsOfOne_pos,
    Int.cast_lt, signedUnits_lt_iff]

theorem natAbs_signedMagnitude (x : Binary64) : x.signedMagnitude.natAbs = x.magnitude := by
  unfold signedMagnitude
  split <;> simp

theorem isNegative_ofMagnitude {negative : Bool} {magnitude : Nat} (small : magnitude < 1 <<< 63) :
    (ofMagnitude negative magnitude).isNegative = negative := by
  have signBit : (1 <<< 63 : Nat) = 9223372036854775808 := rfl
  simp only [isNegative, ofMagnitude, UInt64.toNat_ofNat', signBit] at *
  cases negative <;> simp <;> omega

theorem exists_signedMagnitude {i : Int} (small : i.natAbs < infinity) :
    ∃ x : Binary64, x.IsFinite ∧ x.signedMagnitude = i := by
  have fits : i.natAbs < 1 <<< 63 := small.trans (by decide)
  refine ⟨ofMagnitude (i < 0) i.natAbs, ?_, ?_⟩
  · rwa [IsFinite, magnitude_ofMagnitude fits]
  · rw [signedMagnitude, isNegative_ofMagnitude fits, magnitude_ofMagnitude fits]
    simp only [decide_eq_true_eq]
    split <;> omega

/-- Numbers with even significands are no neighbours. -/
theorem exists_between (finite : x.IsFinite) (finite' : y.IsFinite) (less : x.value < y.value)
    (even : Even x.significand) (even' : Even y.significand) :
    ∃ z : Binary64, z.IsFinite ∧ x.value < z.value ∧ z.value < y.value := by
  rw [even_significand_iff, Nat.even_iff, ← natAbs_signedMagnitude] at even even'
  rw [IsFinite, ← natAbs_signedMagnitude] at finite finite'
  rw [value_lt_iff] at less
  obtain ⟨z, isFinite, next⟩ :=
    exists_signedMagnitude (i := x.signedMagnitude + 1) (by omega)
  exact ⟨z, isFinite, value_lt_iff.mpr (by omega), value_lt_iff.mpr (by omega)⟩

/-- A value and a sign belong to one pattern. -/
theorem eq_of_value_eq (sameSign : x.isNegative = y.isNegative) (same : x.value = y.value) :
    x = y := by
  have sameMagnitude : x.magnitude = y.magnitude := by
    rw [value_eq_signedUnits, value_eq_signedUnits, div_left_inj' unitsOfOne_pos.ne',
      Int.cast_inj] at same
    rw [← natAbs_signedMagnitude, signedUnits_inj.mp same, natAbs_signedMagnitude]
  have signBit : (1 <<< 63 : Nat) = 9223372036854775808 := rfl
  have bound := x.bits.toNat_lt
  have bound' := y.bits.toNat_lt
  simp only [isNegative, magnitude, signBit, decide_eq_decide] at sameSign sameMagnitude
  have sameBits : x.bits = y.bits := UInt64.toNat_inj.mp (by omega)
  cases x
  cases y
  exact congrArg Binary64.mk sameBits

/-! ## Nearest numbers -/

/-- Of two numbers the one nearest to the smaller rational is the smaller one. -/
theorem Nearest.value_le {r s : ℚ} (nearest : x.Nearest r) (nearest' : y.Nearest s) (le : r ≤ s) :
    x.value ≤ y.value := by
  by_contra greater
  rw [not_le] at greater
  -- Both rationals lie on the wrong side of the middle, so they are the middle, and it is a tie.
  have low : x.value + y.value ≤ 2 * r := by
    have squares := sq_le_sq.mpr (nearest.closest y nearest'.finite)
    nlinarith
  have high : 2 * s ≤ x.value + y.value := by
    have squares := sq_le_sq.mpr (nearest'.closest x nearest.finite)
    nlinarith
  obtain rfl : r = s := by linarith
  have middle : y.value - r = -(x.value - r) := by linarith
  have same : |y.value - r| = |x.value - r| := by rw [middle, abs_neg]
  obtain ⟨z, finite, above, below⟩ := exists_between nearest'.finite nearest.finite greater
    (nearest'.even x nearest.finite greater.ne' same.symm)
    (nearest.even y nearest'.finite greater.ne same)
  have closest := nearest.closest z finite
  have nearer : |z.value - r| < x.value - r := abs_lt.mpr ⟨by linarith, by linarith⟩
  exact absurd closest (nearer.trans_le (le_abs_self _)).not_ge

theorem Nearest.eq {r : ℚ} (nearest : x.Nearest r) (nearest' : y.Nearest r)
    (sameSign : x.isNegative = y.isNegative) : x = y :=
  eq_of_value_eq sameSign
    ((nearest.value_le nearest' le_rfl).antisymm (nearest'.value_le nearest le_rfl))

/-- The nearest magnitude makes the nearest number. Numbers of the other sign are not nearer,
because they are as far from the mirror image. -/
theorem Nearest.of_isNearest {r : ℚ} (nonneg : 0 ≤ r) (finite : x.IsFinite)
    (nearest : IsNearest x.magnitude (r * unitsOfOne)) : x.Nearest (signed x.isNegative r) := by
  have scaled (y : Binary64) : |units y.magnitude / unitsOfOne - r| =
      |units y.magnitude - r * unitsOfOne| / unitsOfOne := by
    rw [← abs_of_pos unitsOfOne_pos, ← abs_div, abs_of_pos unitsOfOne_pos, sub_div,
      mul_div_cancel_right₀ _ unitsOfOne_pos.ne']
  have distance : |x.value - signed x.isNegative r| =
      |units x.magnitude - r * unitsOfOne| / unitsOfOne := by
    rw [value_eq, signed_sub, abs_signed, scaled]
  have distance_le (y : Binary64) : |units y.magnitude - r * unitsOfOne| / unitsOfOne ≤
      |y.value - signed x.isNegative r| := by
    have reverse := abs_abs_sub_abs_le y.value (signed x.isNegative r)
    rwa [abs_value, abs_signed, abs_of_nonneg nonneg, scaled] at reverse
  refine ⟨finite, fun y _ => ?_, fun y _ ne same => ?_⟩
  · rw [distance]
    exact (div_le_div_of_nonneg_right (nearest.closest _) unitsOfOne_pos.le).trans (distance_le y)
  · have atMost := (distance_le y).trans_eq (same.trans distance)
    rw [div_le_div_iff_of_pos_right unitsOfOne_pos] at atMost
    have sameDistance := atMost.antisymm (nearest.closest y.magnitude)
    rw [even_significand_iff]
    by_cases sameMagnitude : y.magnitude = x.magnitude
    · -- The other number is the mirror image, and as near only if both are zero.
      have opposite : y.value = -x.value := by
        rw [value_eq, value_eq, sameMagnitude] at ne ⊢
        revert ne
        cases x.isNegative <;> cases y.isNegative <;> simp [signed]
      have product : x.value * signed x.isNegative r = 0 := by
        have squares := (sq_eq_sq_iff_abs_eq_abs _ _).mpr same
        rw [opposite] at squares
        linarith
      have zero : x.value = 0 := by
        refine (mul_eq_zero.mp product).resolve_right fun nothing => ne ?_
        have origin : r = 0 := by
          rw [← abs_eq_zero, ← abs_signed x.isNegative, nothing, abs_zero]
        have noUnits : units x.magnitude = 0 := by
          simpa [origin, units_zero] using nearest.closest 0
        simp [value_eq, sameMagnitude, noUnits, signed]
      exact absurd (opposite.trans (by simp [zero])) ne
    · exact nearest.even _ sameMagnitude sameDistance

end Binary64

/-! ## Decimals -/

namespace Decimal

open Binary64

variable {d : Decimal}

/-- The rational that a decimal is. -/
def value (d : Decimal) : ℚ :=
  signed d.negative (d.significand * 10 ^ d.exponent)

/-- Below the threshold a decimal is rounded to the nearest number, and else not. -/
theorem round?_cases (d : Decimal) :
    (∃ number, d.round? = some number ∧ |d.value| < overflow ∧ number.isNegative = d.negative ∧
      number.Nearest d.value) ∨
    (d.round? = none ∧ overflow ≤ |d.value|) := by
  have nonneg : (0 : ℚ) ≤ d.significand * 10 ^ d.exponent := by positivity
  rw [value, abs_signed, abs_of_nonneg nonneg]
  rcases magnitudeOfDecimal?_cases d.significand d.exponent with
    ⟨magnitude, rounds, finite, nearest⟩ | ⟨rounds, large⟩
  · have small : magnitude < 1 <<< 63 := finite.trans (by decide)
    have sign : (ofMagnitude d.negative magnitude).isNegative = d.negative :=
      isNegative_ofMagnitude small
    refine .inl ⟨ofMagnitude d.negative magnitude, ?_, ?_, sign, ?_⟩
    · rw [round?, rounds, Option.map_some]
    · exact lt_of_mul_lt_mul_right (nearest.lt_infinity_iff.mp finite) unitsOfOne_pos.le
    · rw [← @magnitude_ofMagnitude d.negative magnitude small] at finite nearest
      have all := Nearest.of_isNearest nonneg finite nearest
      rwa [sign] at all
  · refine .inr ⟨?_, le_of_mul_le_mul_right large unitsOfOne_pos⟩
    rw [round?, rounds, Option.map_none]

theorem exists_round?_iff : (∃ number, d.round? = some number) ↔ |d.value| < overflow := by
  rcases round?_cases d with ⟨number, rounds, small, -, -⟩ | ⟨rounds, large⟩
  · simp [rounds, small]
  · simp [rounds, large]

/-- Rounding finds the nearest number, once. -/
theorem round?_eq_some_iff {number : Binary64} :
    d.round? = some number ↔
      |d.value| < overflow ∧ number.isNegative = d.negative ∧ number.Nearest d.value := by
  rcases round?_cases d with ⟨found, rounds, small, sign, nearest⟩ | ⟨rounds, large⟩
  · rw [rounds, Option.some.injEq]
    refine ⟨fun same => same ▸ ⟨small, sign, nearest⟩, fun found' => ?_⟩
    exact nearest.eq found'.2.2 (sign.trans found'.2.1.symm)
  · simp [rounds, large.not_gt]

end Decimal

end Listing.Number
