/-!
# `Listing/Text/Ascii.lean` — the ASCII alphabet

Operator names, type tags, sort directions, `true` and `false`, and field names are compared with
the letters `A` to `Z` taken as `a` to `z` and every other character as itself. So `İ` is not an
`i` here and the long s is not an `s`, whatever the rules for field *values* say
(`Listing/Text/Lowercase.lean`).

The names that a clause may mention are identifiers of the same alphabet.
-/

set_option autoImplicit false

namespace Listing.Text

/-- Whether two texts are equal once ASCII capitals are taken as small letters. -/
def agree (left right : List Char) : Bool :=
  left.map Char.toLower == right.map Char.toLower

theorem agree_refl (cs : List Char) : agree cs cs = true := by
  simp [agree]

theorem agree_comm (left right : List Char) : agree left right = agree right left := by
  simp only [agree, Bool.beq_comm]

theorem agree_trans {a b c : List Char} (hab : agree a b = true) (hbc : agree b c = true) :
    agree a c = true := by
  simp only [agree, beq_iff_eq] at *
  exact hab.trans hbc

/-- Texts that agree have the same number of characters. -/
theorem length_eq_of_agree {left right : List Char} (h : agree left right = true) :
    left.length = right.length := by
  simpa using congrArg List.length (eq_of_beq h)

/-- The characters of an identifier: ASCII letters, ASCII digits and the underscore. -/
def isIdentifierChar (c : Char) : Bool :=
  c.isAlphanum || c == '_'

def isIdentifier (cs : List Char) : Bool :=
  !cs.isEmpty && cs.all isIdentifierChar

end Listing.Text
