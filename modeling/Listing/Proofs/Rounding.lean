import Listing.Proofs.Trichotomy
import Mathlib.Algebra.Order.Field.Power
import Mathlib.Data.Rat.Cast.Order
import Mathlib.Tactic.FieldSimp
import Mathlib.Tactic.Linarith
import Mathlib.Tactic.Positivity
import Mathlib.Tactic.Ring

/-!
# `Listing/Proofs/Rounding.lean` — the magnitude nearest to a quotient

The finite numbers are marks on a line, and their values in `units` grow with their magnitudes
(`strictMono_units`). Nothing is special about the magnitude at which the numbers end: `units` goes
on, as if exponents had no bound, and so does rounding. So "too large" need not be known beforehand;
it is seen from the magnitude that was found (`IsNearest.lt_infinity_iff`).

A quotient lies between two neighbouring marks, and these are a quotient of 53 bits and its
successor, halved or doubled as often as the quotient asks (`units_shift_add`). Of the two marks one
is nearer, or both are as near, and no other mark can be nearer than both (`IsNearest.of_between`).
Which one it is can be seen from the remainder of the division, so `roundQuotient` finds it
(`isNearest_nearestMagnitude`).

The two shortcuts for decimals of extreme exponents agree with this (`magnitudeOfDecimal?_cases`).
-/

set_option autoImplicit false

namespace Listing.Number.Binary64

/-! ## Marks on a line -/

/-- A significand of 53 bits, or of fewer if it is not doubled, is worth what its doublings make of
it. The next power of two may be written with it, too. -/
theorem units_shift_add {doublings significand : Nat}
    (normal : doublings = 0 ∨ 2 ^ 52 ≤ significand) (fits : significand ≤ 2 ^ 53) :
    units (doublings <<< 52 + significand) = significand * 2 ^ doublings := by
  have hidden : (1 <<< 52 : Nat) = 4503599627370496 := rfl
  simp only [Nat.reducePow] at normal fits
  unfold units
  rw [Nat.shiftLeft_eq, hidden, Nat.shiftLeft_eq]
  simp only [Nat.reducePow]
  split
  · next small =>
    obtain rfl : doublings = 0 := by omega
    simp
  · next large =>
    rcases fits.lt_or_eq with less | rfl
    · have again : 4503599627370496 + (doublings * 4503599627370496 + significand) %
          4503599627370496 = significand := by omega
      have often : (doublings * 4503599627370496 + significand) / 4503599627370496 - 1 =
          doublings := by omega
      rw [again, often]
    · -- The significand is a power of two, and stands for half of it with one more doubling.
      have again : (doublings * 4503599627370496 + 9007199254740992) % 4503599627370496 = 0 := by
        omega
      have often : (doublings * 4503599627370496 + 9007199254740992) / 4503599627370496 - 1 =
          doublings + 1 := by omega
      rw [again, often, pow_succ']
      omega

/-- Every magnitude is a significand with doublings. -/
theorem exists_shift_add (magnitude : Nat) :
    ∃ doublings significand, (doublings = 0 ∨ 2 ^ 52 ≤ significand) ∧ significand < 2 ^ 53 ∧
      magnitude = doublings <<< 52 + significand := by
  simp only [Nat.shiftLeft_eq, Nat.reducePow]
  rcases Nat.lt_or_ge magnitude 9007199254740992 with small | large
  · exact ⟨0, magnitude, by omega, by omega, by omega⟩
  · exact ⟨magnitude / 4503599627370496 - 1, 4503599627370496 + magnitude % 4503599627370496,
      by omega, by omega, by omega⟩

theorem strictMono_units : StrictMono units := by
  refine strictMono_nat_of_lt_succ fun magnitude => ?_
  obtain ⟨doublings, significand, normal, fits, rfl⟩ := exists_shift_add magnitude
  rw [units_shift_add normal fits.le, add_assoc, units_shift_add (by omega) fits]
  gcongr
  exact significand.lt_succ_self

theorem units_zero : units 0 = 0 := rfl

theorem units_one : units 1 = 1 := rfl

/-! ## The nearest mark -/

/-- No mark is nearer to an amount of units; and if another one is as near, this one is even. -/
structure IsNearest (magnitude : Nat) (amount : ℚ) : Prop where
  closest : ∀ other, |units magnitude - amount| ≤ |units other - amount|
  even : ∀ other, other ≠ magnitude → |units other - amount| = |units magnitude - amount| →
    Even magnitude

variable {magnitude chosen other : Nat} {amount : ℚ}

theorem distance_lt_of_lt (low : units magnitude ≤ amount) (below : other < magnitude) :
    |units magnitude - amount| < |units other - amount| := by
  have less : (units other : ℚ) < units magnitude := Nat.cast_lt.mpr (strictMono_units below)
  rw [abs_of_nonpos (by linarith), abs_of_nonpos (by linarith)]
  linarith

theorem distance_lt_of_gt (high : amount ≤ units magnitude) (above : magnitude < other) :
    |units magnitude - amount| < |units other - amount| := by
  have less : (units magnitude : ℚ) < units other := Nat.cast_lt.mpr (strictMono_units above)
  rw [abs_of_nonneg (by linarith), abs_of_nonneg (by linarith)]
  linarith

/-- Between two neighbouring marks the nearer one of them is the nearest of all. -/
theorem IsNearest.of_between (low : units magnitude ≤ amount)
    (high : amount ≤ units (magnitude + 1))
    (isEnd : chosen = magnitude ∨ chosen = magnitude + 1)
    (closer : |units chosen - amount| ≤ |units magnitude - amount|)
    (closer' : |units chosen - amount| ≤ |units (magnitude + 1) - amount|)
    (tie : |units magnitude - amount| = |units (magnitude + 1) - amount| → Even chosen) :
    IsNearest chosen amount := by
  refine ⟨fun other => ?_, fun other ne same => ?_⟩
  · rcases lt_trichotomy other magnitude with below | rfl | above
    · exact closer.trans (distance_lt_of_lt low below).le
    · exact closer
    · rcases (Nat.succ_le_of_lt above).eq_or_lt with rfl | beyond
      · exact closer'
      · exact closer'.trans (distance_lt_of_gt high beyond).le
  · rcases lt_trichotomy other magnitude with below | rfl | above
    · exact absurd same (closer.trans_lt (distance_lt_of_lt low below)).ne'
    · obtain rfl := isEnd.resolve_left ne.symm
      exact tie same
    · rcases (Nat.succ_le_of_lt above).eq_or_lt with rfl | beyond
      · obtain rfl := isEnd.resolve_right ne.symm
        exact tie same.symm
      · exact absurd same (closer'.trans_lt (distance_lt_of_gt high beyond)).ne'

theorem isNearest_zero (low : 0 ≤ amount) (half : 2 * amount ≤ 1) : IsNearest 0 amount := by
  have zero : (units 0 : ℚ) = 0 := by simp [units_zero]
  have one : (units 1 : ℚ) = 1 := by simp [units_one]
  have above : (units 0 : ℚ) ≤ amount := by rwa [zero]
  have below : amount ≤ units (0 + 1) := by
    rw [one]
    linarith
  refine .of_between above below (.inl rfl) le_rfl ?_ fun _ => Even.zero
  rw [zero, one, zero_sub, abs_neg, abs_of_nonneg low, abs_of_nonneg (by linarith)]
  linarith

/-! ## Rounding a quotient -/

theorem roundQuotient_cases (numerator denominator : Nat) :
    let quotient := numerator / denominator
    let twice := 2 * (numerator % denominator)
    (roundQuotient numerator denominator = quotient ∧ twice ≤ denominator ∧
      (twice = denominator → Even quotient)) ∨
    (roundQuotient numerator denominator = quotient + 1 ∧ denominator ≤ twice ∧
      (twice = denominator → Even (quotient + 1))) := by
  simp only [roundQuotient, Nat.even_iff]
  split <;> omega

/-- Halving leaves 53 bits, unless there were fewer and nothing is halved. -/
theorem significand_bounds (numerator denominator : Nat) :
    let doublings := (numerator / denominator).log2 - 52
    let significand := numerator / (denominator <<< doublings)
    (doublings = 0 ∨ 2 ^ 52 ≤ significand) ∧ significand < 2 ^ 53 := by
  intro doublings significand
  have halved : significand = numerator / denominator / 2 ^ doublings := by
    rw [Nat.div_div_eq_div_mul, ← Nat.shiftLeft_eq]
  rw [halved]
  refine ⟨?_, ?_⟩
  · by_cases few : doublings = 0
    · exact .inl few
    · refine .inr ((Nat.le_div_iff_mul_le (by positivity)).mpr ?_)
      have nonzero : numerator / denominator ≠ 0 := by
        intro zero
        simp [doublings, zero] at few
      rw [← pow_add, Nat.add_sub_of_le (by omega)]
      exact Nat.log2_self_le nonzero
  · rw [Nat.div_lt_iff_lt_mul (by positivity), ← pow_add]
    refine Nat.lt_log2_self.trans_le (Nat.pow_le_pow_right (by decide) ?_)
    omega

/-- How far a quotient is from the two marks around it: the remainder of the division tells. -/
theorem distances {numerator denominator doublings quotient remainder : Nat}
    (positive : 0 < denominator) (normal : doublings = 0 ∨ 2 ^ 52 ≤ quotient)
    (fits : quotient < 2 ^ 53)
    (divided : numerator = (denominator <<< doublings) * quotient + remainder) :
    (units (doublings <<< 52 + quotient) : ℚ) - numerator / denominator =
        -(remainder / denominator) ∧
      (units (doublings <<< 52 + quotient + 1) : ℚ) - numerator / denominator =
        ((denominator <<< doublings : Nat) - remainder) / denominator := by
  have low := units_shift_add normal fits.le
  have high : units (doublings <<< 52 + quotient + 1) = (quotient + 1) * 2 ^ doublings := by
    rw [add_assoc, units_shift_add (by omega) fits]
  have nonzero : (denominator : ℚ) ≠ 0 := Nat.cast_ne_zero.mpr positive.ne'
  rw [low, high, divided, Nat.shiftLeft_eq]
  push_cast
  refine ⟨?_, ?_⟩
  · field_simp
    ring
  · field_simp
    ring

theorem isNearest_nearestMagnitude (numerator : Nat) {denominator : Nat}
    (positive : 0 < denominator) :
    IsNearest (nearestMagnitude numerator denominator) (numerator / denominator) := by
  obtain ⟨normal, fits⟩ := significand_bounds numerator denominator
  unfold nearestMagnitude
  dsimp only
  generalize (numerator / denominator).log2 - 52 = doublings at normal fits ⊢
  have cases := roundQuotient_cases numerator (denominator <<< doublings)
  have small : numerator % (denominator <<< doublings) ≤ denominator <<< doublings :=
    (Nat.mod_lt _ (by rw [Nat.shiftLeft_eq]; positivity)).le
  obtain ⟨below, above⟩ := distances positive normal fits (Nat.div_add_mod _ _).symm
  dsimp only at cases
  generalize numerator / (denominator <<< doublings) = quotient at cases below above
  generalize numerator % (denominator <<< doublings) = remainder at small cases below above
  generalize denominator <<< doublings = step at small cases below above ⊢
  have positive' : (0 : ℚ) < denominator := Nat.cast_pos.mpr positive
  have room : (0 : ℚ) ≤ step - remainder := sub_nonneg.mpr (Nat.cast_le.mpr small)
  have distance : |(units (doublings <<< 52 + quotient) : ℚ) - numerator / denominator| =
      remainder / denominator := by
    rw [below, abs_neg, abs_of_nonneg (by positivity)]
  have distance' : |(units (doublings <<< 52 + quotient + 1) : ℚ) - numerator / denominator| =
      (step - remainder) / denominator := by
    rw [above, abs_of_nonneg (by positivity)]
  have low : (units (doublings <<< 52 + quotient) : ℚ) ≤ numerator / denominator := by
    rw [← sub_nonpos, below]
    exact neg_nonpos.mpr (by positivity)
  have high : (numerator / denominator : ℚ) ≤ units (doublings <<< 52 + quotient + 1) := by
    rw [← sub_nonneg, above]
    positivity
  have halfway (same : |(units (doublings <<< 52 + quotient) : ℚ) - numerator / denominator| =
      |(units (doublings <<< 52 + quotient + 1) : ℚ) - numerator / denominator|) :
      2 * remainder = step := by
    rw [distance, distance', div_left_inj' positive'.ne'] at same
    have twice : (2 * remainder : ℚ) = step := by linarith
    exact_mod_cast twice
  -- Whole doublings are even, so the sum is even with its second part.
  have shifted : Even (doublings <<< 52) := by
    rw [Nat.shiftLeft_eq]
    exact (even_two.pow_of_ne_zero (by decide)).mul_left _
  rcases cases with ⟨rounded, atMost, even⟩ | ⟨rounded, atLeast, even⟩
  · have atMost' : (2 * remainder : ℚ) ≤ step := by exact_mod_cast atMost
    rw [rounded]
    refine .of_between low high (.inl rfl) le_rfl ?_ fun same => shifted.add (even (halfway same))
    rw [distance, distance']
    gcongr
    linarith
  · have atLeast' : (step : ℚ) ≤ 2 * remainder := by exact_mod_cast atLeast
    rw [rounded, ← add_assoc]
    refine .of_between low high (.inr rfl) ?_ le_rfl fun same => ?_
    · rw [distance, distance']
      gcongr
      linarith
    · rw [add_assoc]
      exact shifted.add (even (halfway same))

/-! ## Where the finite numbers end -/

/-- The number of units in one. -/
def unitsOfOne : ℚ :=
  2 ^ 1074

theorem unitsOfOne_pos : 0 < unitsOfOne := by
  unfold unitsOfOne
  positivity

/-- Halfway between the largest finite number, which is `(2 ^ 53 - 1) * 2 ^ 971`, and the next one,
were there one more: `2 ^ 1024`. -/
def overflow : ℚ :=
  (2 ^ 54 - 1) * 2 ^ 970

/-- The threshold is the middle of the two marks around it. -/
theorem two_mul_overflow :
    2 * (overflow * unitsOfOne) = units (infinity - 1) + units infinity := by
  have largest : infinity - 1 = 2045 <<< 52 + (2 ^ 53 - 1) := by decide
  have next : infinity = 2045 <<< 52 + 2 ^ 53 := by decide
  have split : (2 : ℚ) ^ 2045 = 2 * (2 ^ 970 * 2 ^ 1074) := by
    rw [← pow_add, ← pow_succ']
  rw [largest, next, units_shift_add (.inr (by decide)) (by decide),
    units_shift_add (.inr (by decide)) le_rfl, overflow, unitsOfOne, Nat.cast_mul, Nat.cast_mul,
    Nat.cast_pow 2 2045, Nat.cast_ofNat, split, mul_assoc (2 ^ 54 - 1)]
  generalize (2 ^ 970 * 2 ^ 1074 : ℚ) = half
  norm_num
  ring

/-- What lies below the threshold is nearest to something finite. At the threshold itself it is the
even mark that is taken, and that is the infinite one. -/
theorem IsNearest.lt_infinity_iff (nearest : IsNearest magnitude amount) :
    magnitude < infinity ↔ amount < overflow * unitsOfOne := by
  have less : (units (infinity - 1) : ℚ) < units infinity :=
    Nat.cast_lt.mpr (strictMono_units (by decide))
  have middle := two_mul_overflow
  refine ⟨fun finite => ?_, fun small => ?_⟩
  · by_contra large
    have below : (units magnitude : ℚ) ≤ units (infinity - 1) :=
      Nat.cast_le.mpr (strictMono_units.monotone (Nat.le_sub_one_of_lt finite))
    have closest := nearest.closest infinity
    have distance : |units magnitude - amount| = amount - units magnitude := by
      rw [abs_of_nonpos (by linarith), neg_sub]
    have beyond : |units infinity - amount| ≤ amount - units (infinity - 1) :=
      abs_le.mpr ⟨by linarith, by linarith⟩
    have isLargest : units magnitude = units (infinity - 1) :=
      Nat.cast_injective (R := ℚ) (below.antisymm (by linarith))
    obtain rfl := strictMono_units.injective isLargest
    have even := nearest.even infinity (by decide) (by linarith)
    exact absurd even (by decide)
  · by_contra infinite
    have above : (units infinity : ℚ) ≤ units magnitude :=
      Nat.cast_le.mpr (strictMono_units.monotone (Nat.le_of_not_lt infinite))
    have closest := nearest.closest (infinity - 1)
    have distance : units magnitude - amount ≤ |units magnitude - amount| := le_abs_self _
    have nearer : |(units (infinity - 1) : ℚ) - amount| < units infinity - amount :=
      abs_lt.mpr ⟨by linarith, by linarith⟩
    linarith

/-! ## Decimals -/

section

variable {significand : Nat} {exponent : Int}

theorem overflow_le_of_large (nonzero : significand ≠ 0) (large : 308 < exponent) :
    overflow ≤ significand * 10 ^ exponent := by
  have one : (1 : ℚ) ≤ significand := Nat.one_le_cast.mpr (Nat.one_le_iff_ne_zero.mpr nonzero)
  calc overflow
      ≤ 2 ^ 54 * 2 ^ 970 := by unfold overflow; gcongr; norm_num
    _ = 2 * (2 ^ 93) ^ 11 := by rw [← pow_add, ← pow_mul, ← pow_succ']
    _ ≤ 10 * (10 ^ 28) ^ 11 := by gcongr <;> norm_num
    _ = 1 * 10 ^ (309 : Int) := by rw [← pow_mul, ← pow_succ', one_mul]; rfl
    _ ≤ significand * 10 ^ exponent := by gcongr; norm_num; exact large

theorem half_le_of_small (small : significand.log2 + 1076 ≤ 3 * -exponent) :
    2 * (significand * 10 ^ exponent * unitsOfOne) ≤ 1 := by
  obtain ⟨places, rfl⟩ : ∃ places : Nat, exponent = -places := ⟨(-exponent).toNat, by omega⟩
  have bound : significand * 2 ^ 1075 ≤ 10 ^ places := by
    calc significand * 2 ^ 1075
        ≤ 2 ^ (significand.log2 + 1) * 2 ^ 1075 := by gcongr; exact Nat.lt_log2_self.le
      _ = 2 ^ (significand.log2 + 1076) := (pow_add 2 _ 1075).symm
      _ ≤ 2 ^ (3 * places) := by gcongr; norm_num; omega
      _ = 8 ^ places := pow_mul 2 3 places
      _ ≤ 10 ^ places := by gcongr; norm_num
  have bound' : (significand * 2 ^ 1075 : ℚ) ≤ 10 ^ places := by
    have cast : ((significand * 2 ^ 1075 : Nat) : ℚ) ≤ (10 ^ places : Nat) := Nat.cast_le.mpr bound
    simpa only [Nat.cast_mul, Nat.cast_pow, Nat.cast_ofNat] using cast
  have twice : (2 ^ 1075 : ℚ) = 2 * unitsOfOne := pow_succ' 2 1074
  calc 2 * (significand * 10 ^ (-places : Int) * unitsOfOne)
      = significand * 2 ^ 1075 / 10 ^ places := by rw [zpow_neg, zpow_natCast, twice]; ring
    _ ≤ 1 := div_le_one_of_le₀ bound' (by positivity)

/-- A decimal in units, as a quotient of natural numbers. -/
theorem decimal_eq_quotient (significand : Nat) (exponent : Int) :
    significand * (10 : ℚ) ^ exponent * unitsOfOne =
      ((significand * 10 ^ exponent.toNat) <<< 1074 : Nat) /
        (10 ^ (-exponent).toNat : Nat) := by
  have scale : (10 : ℚ) ^ exponent = 10 ^ exponent.toNat / 10 ^ (-exponent).toNat := by
    rw [← zpow_natCast, ← zpow_natCast, ← zpow_sub₀ (by norm_num)]
    congr 1
    omega
  simp only [Nat.shiftLeft_eq, scale, unitsOfOne, Nat.cast_mul, Nat.cast_pow, Nat.cast_ofNat]
  rw [mul_div_assoc', div_mul_eq_mul_div]

/-- The magnitude of a decimal is the nearest one, and there is none if the nearest is infinite. -/
theorem magnitudeOfDecimal?_cases (significand : Nat) (exponent : Int) :
    let amount : ℚ := significand * 10 ^ exponent * unitsOfOne
    (∃ magnitude, magnitudeOfDecimal? significand exponent = some magnitude ∧
      magnitude < infinity ∧ IsNearest magnitude amount) ∨
    (magnitudeOfDecimal? significand exponent = none ∧ overflow * unitsOfOne ≤ amount) := by
  intro amount
  have positive := unitsOfOne_pos
  unfold magnitudeOfDecimal?
  split
  · next zero =>
    have nothing : amount = 0 := by simp [amount, zero]
    exact .inl ⟨0, rfl, by decide, isNearest_zero nothing.ge (by simp [nothing])⟩
  next nonzero =>
  split
  · next large =>
    exact .inr ⟨rfl, mul_le_mul_of_nonneg_right (overflow_le_of_large nonzero large) positive.le⟩
  split
  · next small =>
    exact .inl ⟨0, rfl, by decide, isNearest_zero (by positivity) (half_le_of_small small)⟩
  have nearest : IsNearest (nearestMagnitude ((significand * Nat.pow 10 exponent.toNat) <<< 1074)
      (Nat.pow 10 (-exponent).toNat)) amount := by
    rw [show amount = _ from decimal_eq_quotient significand exponent]
    exact isNearest_nearestMagnitude _ (Nat.pow_pos (by decide))
  dsimp only
  split
  · next finite => exact .inl ⟨_, rfl, finite, nearest⟩
  · next infinite => exact .inr ⟨rfl, not_lt.mp (mt nearest.lt_infinity_iff.mpr infinite)⟩

end

end Listing.Number.Binary64
