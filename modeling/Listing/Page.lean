import Listing.Window

/-!
# `Listing/Page.lean` — one page of a result

A page is the part of a complete result that stands in a window, with what a caller needs to know
about the rest: how many elements there are altogether, and whether any stand behind the window.
-/

set_option autoImplicit false

namespace Listing

/-- A part of a result. -/
structure Page (α : Type) where
  items : List α
  window : Window
  /-- The number of elements of the complete result. -/
  total : Nat
  /-- Whether elements of the result stand behind the window. -/
  hasMore : Bool
  deriving DecidableEq

namespace Page

variable {α : Type}

/-- The page of a complete result that stands in a window. -/
def ofResult (result : List α) (window : Window) : Page α where
  items := window.slice result
  window := window
  total := result.length
  hasMore := window.finish < result.length

def size (page : Page α) : Nat :=
  page.items.length

def map {β : Type} (f : α → β) (page : Page α) : Page β :=
  { page with items := page.items.map f }

theorem map_map {β γ : Type} (f : α → β) (g : β → γ) (page : Page α) :
    (page.map f).map g = page.map fun item => g (f item) := by
  simp only [map, List.map_map, Function.comp_def]

/-- It makes no difference whether a result is renamed as a whole or on each page. -/
theorem map_ofResult {β : Type} (f : α → β) (result : List α) (window : Window) :
    (ofResult result window).map f = ofResult (result.map f) window := by
  simp only [map, ofResult, Window.map_slice, List.length_map]

end Page

end Listing
