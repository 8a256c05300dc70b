/-!
# `Listing/Quantifier.lean` — the word in front of a condition

A condition may begin with `forAll` or `thereExists`, written directly before the field name and
in exactly these letters. Fields hold single values, so the word does not change what a condition
means; it is kept because a condition is written back the way it was read.

The word is taken off first, whatever follows it. A field whose own name begins with one of the
words can therefore only be reached by a condition that has a quantifier.
-/

set_option autoImplicit false

namespace Listing

/-- The quantifier of a condition; most have none and are plain. -/
inductive Quantifier where
  | forAll
  | thereExists
  | plain
  deriving DecidableEq

namespace Quantifier

def all : List Quantifier :=
  [.forAll, .thereExists, .plain]

/-- The word for the quantifier in a condition. -/
def keyword : Quantifier → String
  | .forAll => "forAll"
  | .thereExists => "thereExists"
  | .plain => ""

/-- The quantifier that a text begins with. -/
def detect (cs : List Char) : Quantifier :=
  if Quantifier.forAll.keyword.toList.isPrefixOf cs then .forAll
  else if Quantifier.thereExists.keyword.toList.isPrefixOf cs then .thereExists
  else .plain

theorem keyword_prefix_of_detect (cs : List Char) : (detect cs).keyword.toList <+: cs := by
  unfold detect
  split
  · next h => exact List.isPrefixOf_iff_prefix.mp h
  · split
    · next h => exact List.isPrefixOf_iff_prefix.mp h
    · exact List.nil_prefix

/-- The name of the quantifier, also where there is no word for it. -/
def name : Quantifier → String
  | .forAll => "forAll"
  | .thereExists => "thereExists"
  | .plain => "none"

/-- The quantifier with a name, letter for letter. -/
def ofName? (name : String) : Option Quantifier :=
  all.find? (·.name = name)

/-- The word for the quantifier in reports. -/
def label : Quantifier → String
  | .forAll => "FOR_ALL"
  | .thereExists => "THERE_EXISTS"
  | .plain => "NONE"

end Quantifier

end Listing
