import Listing.Text.Ranges

/-!
# `Listing/Text/Blank.lean` — blank characters and trimming

A clause may be surrounded by blanks, and a clause of nothing but blanks counts as no clause. A
blank is a character with the Unicode property `White_Space`: the ASCII blanks, the no-break and
ideographic spaces, the line and paragraph separators. The zero-width space and the byte order
mark do *not* have the property, so they stay where they are and make a clause malformed.

Trimming works on lists of characters, as all reading does in this library; `trimmed` is the same
on a text.
-/

set_option autoImplicit false

namespace Listing.Text

/-- The code points with the property `White_Space`. -/
def blankRanges : Ranges :=
  [(0x9, 0xD), (0x20, 0x20), (0x85, 0x85), (0xA0, 0xA0), (0x1680, 0x1680), (0x2000, 0x200A),
    (0x2028, 0x2029), (0x202F, 0x202F), (0x205F, 0x205F), (0x3000, 0x3000)]

theorem ascending_blankRanges : blankRanges.Ascending := by
  decide

def isBlank (c : Char) : Bool :=
  blankRanges.covers c.toNat

theorem isBlank_of_isWhitespace {c : Char} (h : c.isWhitespace = true) : isBlank c = true := by
  simp only [Char.isWhitespace, Bool.or_eq_true, decide_eq_true_eq] at h
  rcases h with ((rfl | rfl) | rfl) | rfl <;> decide

/-- The characters between the leading and the trailing blanks. -/
def trim (cs : List Char) : List Char :=
  ((cs.dropWhile isBlank).reverse.dropWhile isBlank).reverse

/-- The text between the leading and the trailing blanks. -/
def trimmed (text : String) : String :=
  String.ofList (trim text.toList)

/-- Dropping from the front leaves nothing exactly when every character is dropped. -/
private theorem dropWhile_eq_nil_iff {p : Char → Bool} {cs : List Char} :
    cs.dropWhile p = [] ↔ ∀ c ∈ cs, p c = true := by
  induction cs with
  | nil => simp
  | cons c cs ih =>
    by_cases h : p c = true
    · simp [h, ih]
    · simp [h]

/-- Nothing is left exactly when there was nothing but blanks. -/
theorem trim_eq_nil_iff {cs : List Char} : trim cs = [] ↔ ∀ c ∈ cs, isBlank c = true := by
  rw [trim, List.reverse_eq_nil_iff, dropWhile_eq_nil_iff]
  simp only [List.mem_reverse]
  rw [← dropWhile_eq_nil_iff]
  constructor
  · intro h
    cases rest : cs.dropWhile isBlank with
    | nil => exact dropWhile_eq_nil_iff.mp rest
    | cons c tail =>
      rw [rest, dropWhile_eq_nil_iff] at h
      have kept := List.head?_dropWhile_not isBlank cs
      rw [rest] at kept
      simp_all
  · intro h
    rw [dropWhile_eq_nil_iff.mpr h]
    rfl

end Listing.Text
