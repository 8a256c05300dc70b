import Listing.Fault

/-!
# `Listing/Window.lean` — which part of a result is wanted

A window is a position and a size, both unsigned words. A request names them as signed ones, so
the first thing to settle is the sign: a negative position is reported before a size that is not
positive. A size above the allowed maximum is no fault; it is lowered to the maximum.

The end of a window may lie beyond the largest word. It stops there.
-/

set_option autoImplicit false

namespace Listing

/-- The positions from `position` on, `size` of them. -/
structure Window where
  position : UInt64
  size : UInt64
  deriving DecidableEq

namespace Window

/-- The largest word. -/
def limit : Nat :=
  UInt64.size - 1

/-- The first position behind the window, or the largest word if that comes first. -/
def finish (window : Window) : Nat :=
  min (window.position.toNat + window.size.toNat) limit

/-- The window that a request asks for, with at most `maximum` positions. -/
def ofRequest (position size : Int64) (maximum : UInt64) : Except Fault Window :=
  if position < 0 then .error (.badWindow (.positionNegative position))
  else if size ≤ 0 then .error (.badWindow (.sizeNotPositive size))
  else .ok ⟨position.toUInt64, min size.toUInt64 maximum⟩

/-- The elements of a list that stand in the window. -/
def slice {α : Type} (window : Window) (items : List α) : List α :=
  (items.drop window.position.toNat).take window.size.toNat

theorem map_slice {α β : Type} (f : α → β) (window : Window) (items : List α) :
    (window.slice items).map f = window.slice (items.map f) := by
  simp only [slice, List.map_take, List.map_drop]

end Window

end Listing
