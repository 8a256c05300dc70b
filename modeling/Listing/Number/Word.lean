/-!
# `Listing/Number/Word.lean` — integers that fit a machine word

Field values, positions and sizes are 64-bit words, but they are read from texts that can name any
integer. The two conversions here give a word only when it stands for *that* integer: a number out
of range is refused and never wrapped.
-/

set_option autoImplicit false

namespace Listing.Number

/-- The signed word with the value `n`, if there is one. -/
def toInt64? (n : Int) : Option Int64 :=
  if Int64.minValue.toInt ≤ n ∧ n ≤ Int64.maxValue.toInt then some (Int64.ofInt n) else none

/-- The unsigned word with the value `n`, if there is one. -/
def toUInt64? (n : Int) : Option UInt64 :=
  if 0 ≤ n ∧ n < UInt64.size then some (UInt64.ofNat n.toNat) else none

theorem toInt64?_eq_some_iff {n : Int} {word : Int64} :
    toInt64? n = some word ↔ word.toInt = n := by
  constructor
  · intro h
    simp only [toInt64?] at h
    split at h
    · next range =>
      rw [Int64.toInt_minValue, Int64.toInt_maxValue] at range
      rw [Option.some.injEq] at h
      rw [← h, Int64.toInt_ofInt_of_le (by omega) (by omega)]
    · contradiction
  · rintro rfl
    simp only [toInt64?]
    rw [if_pos ⟨word.minValue_le_toInt, word.toInt_le⟩, Int64.ofInt_toInt]

theorem toUInt64?_eq_some_iff {n : Int} {word : UInt64} :
    toUInt64? n = some word ↔ (word.toNat : Int) = n := by
  have upper := word.toNat_lt_size
  constructor
  · intro h
    simp only [toUInt64?] at h
    split at h
    · next range =>
      rw [Option.some.injEq] at h
      rw [← h, UInt64.toNat_ofNat_of_lt' (by omega)]
      omega
    · contradiction
  · rintro rfl
    simp only [toUInt64?]
    rw [if_pos ⟨by omega, by omega⟩]
    simp

end Listing.Number
