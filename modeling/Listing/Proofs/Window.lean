import Mathlib.Algebra.Group.Nat.Defs
import Listing.Page
import Listing.Request

/-!
# `Listing/Proofs/Window.lean` — windows as numbers

Positions and sizes pass through three types on their way: a request names signed words, a window
holds unsigned ones, and a page is cut by counting. Statements about paging are about numbers, so
the lemmas here translate once, and nothing after this file looks at a word.

`Window.ofRequest_eq_ok_iff` says which windows can be asked for, `Settings.check_eq_ok_iff` what
usable settings promise, and `Request.window_eq_ok` puts the two together: under usable settings
every request with a position from 0 and a size from 1 on has a window, and its size is the
`Request.pageSize`, which is never 0.
-/

set_option autoImplicit false

namespace Listing

/-! ## Settings -/

theorem Settings.check_eq_ok_iff {settings : Settings} :
    settings.check = .ok () ↔
      1 ≤ settings.defaultPageSize.toNat ∧
        settings.defaultPageSize.toNat ≤ settings.maxPageSize.toNat := by
  unfold check
  by_cases zero : settings.defaultPageSize = 0
  · simp [zero]
  · have positive : settings.defaultPageSize.toNat ≠ 0 :=
      fun h => zero (UInt64.toNat_inj.mp h)
    by_cases small : settings.maxPageSize < settings.defaultPageSize
    · simp only [if_neg zero, if_pos small, reduceCtorEq, false_iff]
      have := UInt64.lt_iff_toNat_lt.mp small
      omega
    · simp only [if_neg zero, if_neg small, true_iff]
      have := UInt64.not_lt.mp small
      exact ⟨Nat.one_le_iff_ne_zero.mpr positive, UInt64.le_iff_toNat_le.mp this⟩

/-! ## Windows -/

namespace Window

/-- A signed word that is not negative keeps its value when it is taken as an unsigned one. -/
theorem toNat_toUInt64 {word : Int64} (h : 0 ≤ word.toInt) :
    (word.toUInt64.toNat : Int) = word.toInt := by
  have nonneg : 0 ≤ word := Int64.le_iff_toInt_le.mpr h
  rw [Int64.toNat_toUInt64_of_le nonneg, Int64.cast_toNatClampNeg word nonneg]

theorem toNat_min (a b : UInt64) : (min a b).toNat = min a.toNat b.toNat := by
  -- The least of two words is a choice between them, which no lemma about numbers sees through.
  show (if a ≤ b then a else b).toNat = min a.toNat b.toNat
  by_cases le : a ≤ b
  · rw [if_pos le, Nat.min_eq_left (UInt64.le_iff_toNat_le.mp le)]
  · rw [if_neg le, Nat.min_eq_right (Nat.le_of_not_le fun h => le (UInt64.le_iff_toNat_le.mpr h))]

/-- A window can be asked for from position 0 and from size 1 on; its size is then the one asked
for, or the maximum if that is smaller. -/
theorem ofRequest_eq_ok_iff {position size : Int64} {maximum : UInt64} {window : Window} :
    ofRequest position size maximum = .ok window ↔
      0 ≤ position.toInt ∧ 1 ≤ size.toInt ∧ (window.position.toNat : Int) = position.toInt ∧
        (window.size.toNat : Int) = min size.toInt maximum.toNat := by
  unfold ofRequest
  by_cases negative : position < 0
  · have : position.toInt < 0 := Int64.lt_iff_toInt_lt.mp negative
    simp only [if_pos negative, reduceCtorEq, false_iff]
    omega
  have nonneg : 0 ≤ position.toInt := Int64.le_iff_toInt_le.mp (Int64.not_lt.mp negative)
  by_cases nothing : size ≤ 0
  · have : size.toInt ≤ 0 := Int64.le_iff_toInt_le.mp nothing
    simp only [if_neg negative, if_pos nothing, reduceCtorEq, false_iff]
    omega
  have positive : 0 < size.toInt := Int64.lt_iff_toInt_lt.mp (Int64.not_le.mp nothing)
  have positionValue := toNat_toUInt64 nonneg
  have sizeValue := toNat_toUInt64 (Int.le_of_lt positive)
  have least := toNat_min size.toUInt64 maximum
  rw [if_neg negative, if_neg nothing, Except.ok.injEq]
  constructor
  · rintro rfl
    refine ⟨nonneg, positive, positionValue, ?_⟩
    show ((min size.toUInt64 maximum).toNat : Int) = _
    omega
  · -- Words with the same values are the same, so the values determine the window.
    obtain ⟨givenPosition, givenSize⟩ := window
    rintro ⟨-, -, samePosition, sameSize⟩
    dsimp only at samePosition sameSize
    have eqPosition : position.toUInt64 = givenPosition := UInt64.toNat_inj.mp (by omega)
    have eqSize : min size.toUInt64 maximum = givenSize := UInt64.toNat_inj.mp (by omega)
    rw [eqPosition, eqSize]

theorem finish_lt_iff {window : Window} {total : Nat} (small : total ≤ limit) :
    window.finish < total ↔ window.position.toNat + window.size.toNat < total := by
  unfold finish
  omega

end Window

/-! ## Pages -/

/-- The end of a window stops at the largest word, but no result is longer than that. -/
theorem Page.hasMore_ofResult_iff {α : Type} {result : List α} {window : Window}
    (few : result.length < 2 ^ 64) :
    (ofResult result window).hasMore = true ↔
      window.position.toNat + window.size.toNat < result.length := by
  have inWords : result.length ≤ Window.limit := by
    unfold Window.limit UInt64.size
    omega
  rw [← Window.finish_lt_iff inWords]
  exact decide_eq_true_iff

/-! ## Requests -/

namespace Request

/-- The size of the pages that a request gets: the size it names or else the default, and the
largest allowed one if that is smaller. -/
def pageSize (request : Request) (settings : Settings) : UInt64 :=
  min (request.size.getD (defaultSize settings)).toUInt64 settings.maxPageSize

/-- The default is the default page size, as far as a signed word reaches. -/
theorem toInt_defaultSize (settings : Settings) :
    (defaultSize settings).toInt = min settings.defaultPageSize.toNat (2 ^ 63 - 1 : Nat) := by
  have largest : Int64.maxValue.toNatClampNeg = 2 ^ 63 - 1 := by decide
  unfold defaultSize
  rw [largest, Int64.toInt_ofNat_of_lt (by omega)]

variable {request : Request} {settings : Settings}

/-- Under usable settings a request that names no size gets one, so the only bad sizes are those
that a request names. -/
theorem one_le_size (usable : settings.check = .ok ())
    (positive : ∀ size, request.size = some size → 1 ≤ size.toInt) :
    1 ≤ (request.size.getD (defaultSize settings)).toInt := by
  cases named : request.size with
  | some size => exact positive size named
  | none =>
    obtain ⟨atLeastOne, -⟩ := Settings.check_eq_ok_iff.mp usable
    rw [Option.getD_none, toInt_defaultSize]
    omega

theorem pageSize_pos (usable : settings.check = .ok ())
    (positive : ∀ size, request.size = some size → 1 ≤ size.toInt) :
    0 < (request.pageSize settings).toNat := by
  obtain ⟨atLeastOne, atMost⟩ := Settings.check_eq_ok_iff.mp usable
  have asked := one_le_size usable positive
  have value := Window.toNat_toUInt64 (Int.le_trans (by decide) asked)
  rw [pageSize, Window.toNat_min]
  omega

/-- The window of a request that names a position. The position is given as a number, so the
lemma holds as far as a signed word can name it. -/
theorem window_eq_ok (usable : settings.check = .ok ())
    (positive : ∀ size, request.size = some size → 1 ≤ size.toInt) {position : Nat}
    (small : position < 2 ^ 63) :
    { request with position := some (Int64.ofNat position) }.window settings =
      .ok ⟨UInt64.ofNat position, request.pageSize settings⟩ := by
  have asked := one_le_size usable positive
  have value := Window.toNat_toUInt64 (Int.le_trans (by decide) asked)
  show Window.ofRequest (Int64.ofNat position) (request.size.getD (defaultSize settings))
    settings.maxPageSize = _
  rw [Window.ofRequest_eq_ok_iff, Int64.toInt_ofNat_of_lt small]
  refine ⟨by omega, asked, ?_, ?_⟩
  · rw [UInt64.toNat_ofNat_of_lt' (by simp only [UInt64.size]; omega)]
  · rw [pageSize, Window.toNat_min]
    omega

end Request

end Listing
