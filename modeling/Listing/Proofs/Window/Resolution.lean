import Listing.Proofs.Window

/-!
# `Listing/Proofs/Window/Resolution.lean` — which window a request gets

The position and the size of a request are numbers, or are missing, and then the settings have a
number in their place (`Request.askedPosition`, `Request.askedSize`). They pass through signed and
unsigned words on their way to a window, and on this way nothing happens to them: a window is
refused for the sign of a number, the position before the size; the size is lowered to the maximum;
and that is all. In particular the window ends where the two numbers say, since two signed words
that are not negative never add up to more than an unsigned word can hold.

`Request.Resolution` lists what can become of a request. Usable settings add that the size which
stands in for a missing one is neither refused nor lowered.

**`window_resolution`** says so of all requests and all settings, usable or not.
-/

set_option autoImplicit false

namespace Listing

/-- A window that was asked for ends before the largest word. -/
theorem Window.add_lt_limit {position size : Int64} {maximum : UInt64} {window : Window}
    (settles : ofRequest position size maximum = .ok window) :
    window.position.toNat + window.size.toNat < limit := by
  obtain ⟨-, -, samePosition, sameSize⟩ := ofRequest_eq_ok_iff.mp settles
  -- The maximum may be any word, but the size that it lowers is a signed one.
  have positionRange := Int64.toInt_lt position
  have sizeRange := Int64.toInt_lt size
  unfold limit UInt64.size
  omega

namespace Request

/-! ## What is asked for -/

/-- The position that a request asks for. -/
def askedPosition (request : Request) : Int :=
  (request.position.map Int64.toInt).getD 0

/-- The size that a request asks for. If it does not say, it asks for the default page size, or for
the largest signed word if that is smaller. -/
def askedSize (request : Request) (settings : Settings) : Int :=
  (request.size.map Int64.toInt).getD (min settings.defaultPageSize.toNat (2 ^ 63 - 1) : Nat)

variable {request : Request} {settings : Settings} {window : Window}

theorem toInt_position (request : Request) :
    (request.position.getD 0).toInt = request.askedPosition := by
  unfold askedPosition
  cases request.position <;> rfl

theorem toInt_size (request : Request) (settings : Settings) :
    (request.size.getD (defaultSize settings)).toInt = request.askedSize settings := by
  unfold askedSize
  cases request.size with
  | none => exact toInt_defaultSize settings
  | some size => rfl

theorem askedSize_of_none (unnamed : request.size = none) :
    request.askedSize settings = (min settings.defaultPageSize.toNat (2 ^ 63 - 1) : Nat) := by
  rw [askedSize, unnamed, Option.map_none, Option.getD_none]

/-! ## What becomes of it -/

theorem window_eq_ok_iff :
    request.window settings = .ok window ↔
      0 ≤ request.askedPosition ∧ 1 ≤ request.askedSize settings ∧
        (window.position.toNat : Int) = request.askedPosition ∧
        (window.size.toNat : Int) =
          min (request.askedSize settings) settings.maxPageSize.toNat := by
  rw [← toInt_position, ← toInt_size]
  exact Window.ofRequest_eq_ok_iff

/-- What can become of a request. The position is looked at before the size. -/
inductive Resolution (request : Request) (settings : Settings) : Prop where
  | positionNegative (negative : request.askedPosition < 0) (word : Int64)
      (named : request.position = some word)
      (fails : request.window settings = .error (.badWindow (.positionNegative word)))
  | sizeNotPositive (nonneg : 0 ≤ request.askedPosition) (nothing : request.askedSize settings < 1)
      (word : Int64) (value : word.toInt = request.askedSize settings)
      (fails : request.window settings = .error (.badWindow (.sizeNotPositive word)))
  | settled (nonneg : 0 ≤ request.askedPosition) (positive : 1 ≤ request.askedSize settings)
      (window : Window) (settles : request.window settings = .ok window)

theorem resolution (request : Request) (settings : Settings) : Resolution request settings := by
  have position := toInt_position request
  have size := toInt_size request settings
  by_cases negative : request.position.getD 0 < 0
  · cases named : request.position with
    | none => simp [named] at negative
    | some word =>
      rw [named] at position negative
      refine .positionNegative ?_ word named ?_
      · rw [← position]
        exact Int64.lt_iff_toInt_lt.mp negative
      · unfold window Window.ofRequest
        rw [named, if_pos negative]
        rfl
  have nonneg := Int64.le_iff_toInt_le.mp (Int64.not_lt.mp negative)
  rw [position] at nonneg
  by_cases nothing : request.size.getD (defaultSize settings) ≤ 0
  · refine .sizeNotPositive nonneg ?_ _ size ((if_neg negative).trans (if_pos nothing))
    rw [← size]
    exact Int.lt_add_one_of_le (Int64.le_iff_toInt_le.mp nothing)
  · have positive := Int64.lt_iff_toInt_lt.mp (Int64.not_le.mp nothing)
    rw [size] at positive
    exact .settled nonneg positive _ ((if_neg negative).trans (if_neg nothing))

theorem exists_window_iff :
    (∃ window, request.window settings = .ok window) ↔
      0 ≤ request.askedPosition ∧ 1 ≤ request.askedSize settings := by
  constructor
  · rintro ⟨window, settles⟩
    obtain ⟨nonneg, positive, -⟩ := window_eq_ok_iff.mp settles
    exact ⟨nonneg, positive⟩
  · rintro ⟨nonneg, positive⟩
    cases resolution request settings with
    | positionNegative negative word named fails => omega
    | sizeNotPositive nonneg nothing word value fails => omega
    | settled nonneg positive window settles => exact ⟨window, settles⟩

/-! ## Usable settings -/

/-- Usable settings have room for an element on every page. -/
theorem size_of_usable (usable : settings.check = .ok ())
    (settles : request.window settings = .ok window) :
    1 ≤ window.size.toNat ∧ window.size.toNat ≤ settings.maxPageSize.toNat := by
  obtain ⟨atLeastOne, atMost⟩ := Settings.check_eq_ok_iff.mp usable
  obtain ⟨-, asked, -, size⟩ := window_eq_ok_iff.mp settles
  omega

/-- What usable settings say in the place of a missing size is never above their maximum. -/
theorem size_of_none (usable : settings.check = .ok ()) (unnamed : request.size = none)
    (settles : request.window settings = .ok window) :
    window.size.toNat = min settings.defaultPageSize.toNat (2 ^ 63 - 1) := by
  obtain ⟨atLeastOne, atMost⟩ := Settings.check_eq_ok_iff.mp usable
  obtain ⟨-, -, -, size⟩ := window_eq_ok_iff.mp settles
  rw [askedSize_of_none unnamed] at size
  omega

theorem exists_window_iff_of_none (usable : settings.check = .ok ())
    (unnamed : request.size = none) :
    (∃ window, request.window settings = .ok window) ↔ 0 ≤ request.askedPosition := by
  obtain ⟨atLeastOne, -⟩ := Settings.check_eq_ok_iff.mp usable
  rw [exists_window_iff, askedSize_of_none unnamed]
  omega

/-- **A request gets the window that it asks for.** For all requests and all settings, there is a
window exactly if the position asked for is not negative and the size is positive. The window begins
at that position; its size is the one asked for, or the maximum if that is smaller; and it ends
where the two say, before the largest word. A negative position is reported whatever the size is, a
size that is not positive only when the position is not negative. Of settings that have been
checked, or read from a text, every window has a size from 1 to the maximum; a request that names no
size is refused for its position only, and gets the default page size, as far as a signed word
reaches. -/
theorem window_resolution (request : Request) (settings : Settings) :
    let position := request.askedPosition
    let size := request.askedSize settings
    ((∃ window, request.window settings = .ok window) ↔ 0 ≤ position ∧ 1 ≤ size) ∧
    (∀ window, request.window settings = .ok window →
      (window.position.toNat : Int) = position ∧
        (window.size.toNat : Int) = min size settings.maxPageSize.toNat ∧
        window.finish = window.position.toNat + window.size.toNat ∧
        window.position.toNat + window.size.toNat < Window.limit) ∧
    (position < 0 → ∃ word, request.position = some word ∧
      request.window settings = .error (.badWindow (.positionNegative word))) ∧
    (0 ≤ position → size < 1 → ∃ word : Int64, word.toInt = size ∧
      request.window settings = .error (.badWindow (.sizeNotPositive word))) ∧
    (settings.check = .ok () ∨ (∃ text, Settings.read text = .ok settings) →
      (∀ window, request.window settings = .ok window →
        1 ≤ window.size.toNat ∧ window.size.toNat ≤ settings.maxPageSize.toNat) ∧
      (request.size = none →
        ((∃ window, request.window settings = .ok window) ↔ 0 ≤ position) ∧
        ∀ window, request.window settings = .ok window →
          window.size.toNat = min settings.defaultPageSize.toNat (2 ^ 63 - 1))) := by
  refine ⟨exists_window_iff, ?_, ?_, ?_, ?_⟩
  · intro window settles
    obtain ⟨-, -, samePosition, sameSize⟩ := window_eq_ok_iff.mp settles
    have inWords := Window.add_lt_limit settles
    exact ⟨samePosition, sameSize, Nat.min_eq_left (Nat.le_of_lt inWords), inWords⟩
  · intro negative
    cases resolution request settings with
    | positionNegative _ word named fails => exact ⟨word, named, fails⟩
    | sizeNotPositive nonneg => exact absurd negative (Int.not_lt.mpr nonneg)
    | settled nonneg => exact absurd negative (Int.not_lt.mpr nonneg)
  · intro nonneg nothing
    cases resolution request settings with
    | positionNegative negative => exact absurd negative (Int.not_lt.mpr nonneg)
    | sizeNotPositive _ _ word value fails => exact ⟨word, value, fails⟩
    | settled _ positive => exact absurd nothing (Int.not_lt.mpr positive)
  · intro usable
    have usable : settings.check = .ok () := by
      rcases usable with checked | ⟨text, reads⟩
      · exact checked
      · exact Settings.check_of_read reads
    exact ⟨fun window settles => size_of_usable usable settles, fun unnamed =>
      ⟨exists_window_iff_of_none usable unnamed, fun window settles =>
        size_of_none usable unnamed settles⟩⟩

/-- Settings with nothing but largest words, asked for what begins at the largest position that a
request can name; and what is reported when the position and the size are both wrong, or only the
size. -/
theorem window_resolution_largest :
    let settings : Settings :=
      { defaultPageSize := 0xFFFFFFFFFFFFFFFF, maxPageSize := 0xFFFFFFFFFFFFFFFF }
    let last : Request := { position := some Int64.maxValue }
    let wrong : Request := { position := some (-1), size := some 0 }
    let empty : Request := { size := some 0 }
    settings.check = .ok () ∧
      (∃ window, last.window settings = .ok window ∧ window.size.toNat = 2 ^ 63 - 1 ∧
        window.finish = 2 ^ 64 - 2) ∧
      wrong.window settings = .error (.badWindow (.positionNegative (-1))) ∧
      empty.window settings = .error (.badWindow (.sizeNotPositive 0)) := by
  intro settings last wrong empty
  have checked : settings.check = .ok () := by decide
  refine ⟨checked, ?_, ?_, ?_⟩
  · obtain ⟨-, numbers, -, -, usable⟩ := window_resolution last settings
    obtain ⟨available, sizes⟩ := (usable (.inl checked)).2 rfl
    obtain ⟨window, settles⟩ := available.mpr (by decide)
    have size : window.size.toNat = 2 ^ 63 - 1 := sizes window settles
    obtain ⟨position, -, ends, -⟩ := numbers window settles
    have position : (window.position.toNat : Int) = 2 ^ 63 - 1 := position
    exact ⟨window, settles, size, by omega⟩
  · obtain ⟨-, -, negative, -⟩ := window_resolution wrong settings
    obtain ⟨word, named, fails⟩ := negative (by decide)
    cases named
    exact fails
  · obtain ⟨-, -, -, nothing, -⟩ := window_resolution empty settings
    obtain ⟨word, value, fails⟩ := nothing (by decide) (by decide)
    obtain rfl : word = 0 := Int64.toInt_inj.mp value
    exact fails

end Request

end Listing
