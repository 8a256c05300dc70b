/-!
# `Listing/Text/Ranges.lean` — sets of code points as range tables

Three of the rules of this library are decided by a property of Unicode: which characters are
trimmed, which letters have a lower-case form and which characters of a name are shown escaped.
Each property is a table of inclusive ranges in ascending order, and all of them are asked the
same question, which is answered here once: `Ranges.covers`.

The scan stops at the first range that begins above the code point, so a table is cheap for the
characters that come first in it. That is also the one thing that could go wrong: in a table out
of order a later range is never reached. `covers_iff` says that an ascending table answers for all
of its ranges.
-/

set_option autoImplicit false

namespace Listing.Text

/-- Inclusive ranges of code points, `(first, last)`, in ascending order. -/
abbrev Ranges := List (Nat × Nat)

namespace Ranges

/-- Whether the code point `n` lies in one of the ranges. -/
def covers : Ranges → Nat → Bool
  | [], _ => false
  | (first, last) :: rest, n => first ≤ n && (n ≤ last || covers rest n)

/-- Whether the ranges begin at `low` or later, run forwards, and each begins after the end of the
one before it. -/
def ascendsFrom : Nat → Ranges → Bool
  | _, [] => true
  | low, (first, last) :: rest => low ≤ first && first ≤ last && ascendsFrom (last + 1) rest

/-- The ranges are in ascending order and share no code point. -/
def Ascending (table : Ranges) : Prop :=
  table.ascendsFrom 0 = true

instance (table : Ranges) : Decidable table.Ascending :=
  inferInstanceAs (Decidable (_ = true))

theorem le_of_mem_of_ascendsFrom {table : Ranges} {low : Nat}
    (ascends : table.ascendsFrom low = true) {range : Nat × Nat} (mem : range ∈ table) :
    low ≤ range.1 := by
  induction table generalizing low with
  | nil => cases mem
  | cons head rest ih =>
    simp only [ascendsFrom, Bool.and_eq_true, decide_eq_true_eq] at ascends
    obtain ⟨⟨le, forwards⟩, restAscends⟩ := ascends
    rcases List.mem_cons.mp mem with rfl | mem
    · exact le
    · have := ih restAscends mem
      omega

theorem covers_iff_of_ascendsFrom {table : Ranges} {low : Nat}
    (ascends : table.ascendsFrom low = true) (n : Nat) :
    table.covers n = true ↔ ∃ range ∈ table, range.1 ≤ n ∧ n ≤ range.2 := by
  induction table generalizing low with
  | nil => simp [covers]
  | cons head rest ih =>
    obtain ⟨first, last⟩ := head
    simp only [ascendsFrom, Bool.and_eq_true, decide_eq_true_eq] at ascends
    obtain ⟨⟨-, forwards⟩, restAscends⟩ := ascends
    simp only [covers, Bool.and_eq_true, Bool.or_eq_true, decide_eq_true_eq, ih restAscends,
      List.mem_cons, exists_eq_or_imp]
    constructor
    · rintro ⟨le, le' | found⟩
      · exact .inl ⟨le, le'⟩
      · exact .inr found
    · rintro (⟨le, le'⟩ | ⟨range, mem, le, le'⟩)
      · exact ⟨le, .inl le'⟩
      · have := le_of_mem_of_ascendsFrom restAscends mem
        exact ⟨by omega, .inr ⟨range, mem, le, le'⟩⟩

/-- In an ascending table the early stop hides nothing: `covers` finds every range. -/
theorem covers_iff {table : Ranges} (ascending : table.Ascending) (n : Nat) :
    table.covers n = true ↔ ∃ range ∈ table, range.1 ≤ n ∧ n ≤ range.2 :=
  covers_iff_of_ascendsFrom ascending n

end Ranges

end Listing.Text
