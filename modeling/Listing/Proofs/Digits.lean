import Listing.Number.Digits
import Mathlib.Data.Nat.Digits.Defs

/-!
# `Listing/Proofs/Digits.lean` — digit strings and the numbers that they write

A digit string is read from its front, one step for each digit. What it *says* is the sum over its
places: the last digit counts ones, the one before it tens. `DigitsOf` is this meaning, together
with the number of digits, and `DigitsOf.ofDigits_eq` says that reading finds it.

With a given width a number has one digit string, and strings of one width stand in the order of
their numbers. The second is the stronger statement (`DigitsOf.compare_eq`): strings are compared
from the front, and the first digit that differs outweighs all that follow. So the first follows
from it, because only equal strings compare as equal. The string itself is the usual numeral with
zeros in front (`padded`).
-/

set_option autoImplicit false

namespace Listing.Number

open Std

/-! ## One digit -/

theorem isDigit_iff_toNat {c : Char} : c.isDigit = true ↔ 48 ≤ c.toNat ∧ c.toNat ≤ 57 := by
  simp only [Char.isDigit, Bool.and_eq_true, decide_eq_true_eq, ge_iff_le, UInt32.le_iff_toNat_le]
  exact Iff.rfl

theorem digitValue_lt {c : Char} (digit : c.isDigit = true) : digitValue c < 10 := by
  have bounds := isDigit_iff_toNat.mp digit
  show c.toNat - 48 < 10
  omega

/-- Digits are in the order of their values. -/
theorem compare_digitValue {c d : Char} (digit : c.isDigit = true) (digit' : d.isDigit = true) :
    compare (digitValue c) (digitValue d) = compare c d := by
  have low := (isDigit_iff_toNat.mp digit).1
  have low' := (isDigit_iff_toNat.mp digit').1
  have less : digitValue c < digitValue d ↔ c < d := by
    rw [Char.lt_def, UInt32.lt_iff_toNat_lt]
    show c.toNat - 48 < d.toNat - 48 ↔ c.toNat < d.toNat
    omega
  have same : digitValue c = digitValue d ↔ c = d := by
    rw [← Char.toNat_inj]
    show c.toNat - 48 = d.toNat - 48 ↔ c.toNat = d.toNat
    omega
  show compareOfLessAndEq (digitValue c) (digitValue d) = compareOfLessAndEq c d
  simp only [compareOfLessAndEq, less, same]

/-! ## Strings of digits -/

/-- So many digits that write a number, each counting by its place. -/
structure DigitsOf (width number : Nat) (cs : List Char) : Prop where
  length_eq : cs.length = width
  isDigit : ∀ c ∈ cs, c.isDigit = true
  value_eq : Nat.ofDigits 10 (cs.reverse.map digitValue) = number

/-- Reading from the front and counting by places is the same. -/
theorem ofDigits_eq_places (cs : List Char) :
    ofDigits cs = Nat.ofDigits 10 (cs.reverse.map digitValue) := by
  rw [Nat.ofDigits_eq_foldr, List.foldr_map, List.foldr_reverse]
  simp only [Nat.cast_id, Nat.add_comm]
  rfl

/-- A number with one more digit in front is in the order of that digit, and then of the rest. -/
theorem compare_add_mul {place low low' high high' : Nat} (less : low < place)
    (less' : low' < place) :
    compare (low + place * high) (low' + place * high') =
      (compare high high').then (compare low low') := by
  rcases Nat.lt_trichotomy high high' with lt | rfl | gt
  · have step : place * (high + 1) ≤ place * high' := Nat.mul_le_mul_left place lt
    rw [Nat.compare_eq_lt.mpr lt, Ordering.lt_then, Nat.compare_eq_lt]
    rw [Nat.mul_add_one] at step
    omega
  · rw [ReflOrd.compare_self, Ordering.eq_then]
    simp only [Nat.compare_eq_ite_lt, Nat.add_lt_add_iff_right]
  · have step : place * (high' + 1) ≤ place * high := Nat.mul_le_mul_left place gt
    rw [Nat.compare_eq_gt.mpr gt, Ordering.gt_then, Nat.compare_eq_gt]
    rw [Nat.mul_add_one] at step
    omega

namespace DigitsOf

variable {width number number' : Nat} {cs ds : List Char}

theorem of_isDigit (digits : ∀ c ∈ cs, c.isDigit = true) :
    DigitsOf cs.length (ofDigits cs) cs :=
  ⟨rfl, digits, (ofDigits_eq_places cs).symm⟩

theorem ofDigits_eq (h : DigitsOf width number cs) : ofDigits cs = number :=
  (ofDigits_eq_places cs).trans h.value_eq

theorem lt (h : DigitsOf width number cs) : number < 10 ^ width := by
  rw [← h.value_eq, ← h.length_eq, ← List.length_reverse, ← List.length_map (f := digitValue)]
  apply Nat.ofDigits_lt_base_pow_length (by decide)
  intro value mem
  obtain ⟨c, isPart, rfl⟩ := List.mem_map.mp mem
  exact digitValue_lt (h.isDigit c (List.mem_reverse.mp isPart))

/-- The first digit counts by the number of those behind it. -/
theorem of_cons {c : Char} (h : DigitsOf width number (c :: cs)) :
    ∃ rest, DigitsOf cs.length rest cs ∧ number = rest + 10 ^ cs.length * digitValue c := by
  refine ⟨ofDigits cs, of_isDigit fun d mem => h.isDigit d (List.mem_cons_of_mem c mem), ?_⟩
  rw [← h.value_eq, ofDigits_eq_places, List.reverse_cons, List.map_append, Nat.ofDigits_append,
    List.length_map, List.length_reverse, List.map_singleton, Nat.ofDigits_singleton]

/-- Digit strings of one width are in the order of their numbers. -/
theorem compare_eq (h : DigitsOf width number cs) (h' : DigitsOf width number' ds) :
    compare cs ds = compare number number' := by
  induction cs generalizing ds width number number' with
  | nil =>
    obtain rfl := List.eq_nil_of_length_eq_zero (h'.length_eq.trans h.length_eq.symm)
    rw [← h.value_eq, ← h'.value_eq]
    rfl
  | cons c cs ih =>
    cases ds with
    | nil => cases h.length_eq.trans h'.length_eq.symm
    | cons d ds =>
      have sameLength : ds.length = cs.length :=
        Nat.succ.inj (h'.length_eq.trans h.length_eq.symm)
      obtain ⟨rest, isRest, rfl⟩ := h.of_cons
      obtain ⟨rest', isRest', rfl⟩ := h'.of_cons
      rw [sameLength] at isRest' ⊢
      rw [compare_add_mul isRest.lt isRest'.lt, ← ih isRest isRest',
        compare_digitValue (h.isDigit c List.mem_cons_self) (h'.isDigit d List.mem_cons_self),
        List.compare_cons_cons]

/-- A number has one digit string of a width. -/
theorem unique (h : DigitsOf width number cs) (h' : DigitsOf width number ds) : cs = ds := by
  have equal : compare cs ds = .eq := (h.compare_eq h').trans ReflOrd.compare_self
  exact LawfulEqOrd.eq_of_compare equal

end DigitsOf

/-! ## Zeros in front -/

/-- The usual numeral of a number, with zeros in front up to a width. -/
def padded (width number : Nat) : List Char :=
  (Nat.toDigits 10 number).leftpad width '0'

theorem digitsOf_toDigits (number : Nat) :
    DigitsOf (Nat.toDigits 10 number).length number (Nat.toDigits 10 number) := by
  have digits : ∀ c ∈ Nat.toDigits 10 number, c.isDigit = true :=
    fun c mem => Nat.isDigit_of_mem_toDigits (by decide) (by decide) mem
  have value : ofDigits (Nat.toDigits 10 number) = number := Nat.ofDigitChars_ten_toDigits
  have all := DigitsOf.of_isDigit digits
  rwa [value] at all

/-- Zeros in front do not count. -/
theorem DigitsOf.zeros_append {width number : Nat} {cs : List Char}
    (h : DigitsOf width number cs) (zeros : Nat) :
    DigitsOf (zeros + width) number (List.replicate zeros '0' ++ cs) := by
  refine ⟨?_, ?_, ?_⟩
  · rw [List.length_append, List.length_replicate, h.length_eq]
  · intro c mem
    rcases List.mem_append.mp mem with zero | mem
    · rw [List.eq_of_mem_replicate zero]
      decide
    · exact h.isDigit c mem
  · have noValue : digitValue '0' = 0 := rfl
    rw [← h.value_eq, List.reverse_append, List.reverse_replicate, List.map_append,
      List.map_replicate, noValue, Nat.ofDigits_append_replicate_zero]

theorem digitsOf_padded {width number : Nat} (positive : 0 < width) (fits : number < 10 ^ width) :
    DigitsOf width number (padded width number) := by
  have short : (Nat.toDigits 10 number).length ≤ width :=
    (Nat.length_toDigits_le_iff (by decide) positive).mpr fits
  have all := (digitsOf_toDigits number).zeros_append (width - (Nat.toDigits 10 number).length)
  rwa [Nat.sub_add_cancel short] at all

theorem digitsOf_iff {width number : Nat} (positive : 0 < width) {cs : List Char} :
    DigitsOf width number cs ↔ number < 10 ^ width ∧ cs = padded width number := by
  constructor
  · exact fun h => ⟨h.lt, h.unique (digitsOf_padded positive h.lt)⟩
  · rintro ⟨fits, rfl⟩
    exact digitsOf_padded positive fits

end Listing.Number
