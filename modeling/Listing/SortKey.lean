import Listing.Fault
import Listing.Text.Ascii
import Listing.Text.Blank
import Listing.Text.Pieces

/-!
# `Listing/SortKey.lean` — one clause of a sort order

A sort key is a field name and a direction. It is written `name:asc` or `name:desc`, with the
direction in any ASCII case; `name` alone means ascending and `-name` descending. The short forms
do not mix with the long one: in `-name:desc` everything behind the minus is taken for the field
name and found malformed.
-/

set_option autoImplicit false

namespace Listing

open Text

inductive Direction where
  | ascending
  | descending
  deriving DecidableEq

namespace Direction

def keyword : Direction → String
  | .ascending => "asc"
  | .descending => "desc"

/-- The direction that a word names, in any ASCII case. -/
def ofKeyword? (word : List Char) : Option Direction :=
  [ascending, descending].find? fun direction => agree direction.keyword.toList word

/-- An order taken in the direction. -/
def apply : Direction → Ordering → Ordering
  | .ascending, order => order
  | .descending, order => order.swap

end Direction

/-- One clause of a sort order. -/
structure SortKey where
  field : String
  direction : Direction
  deriving DecidableEq

namespace SortKey

def render (key : SortKey) : String :=
  key.field ++ ":" ++ key.direction.keyword

/-- Takes a sort key without surrounding blanks apart, into a field name that is still to be
checked and a direction, or the word that is none. -/
def splitDirection : List Char → Except (List Char) (List Char × Direction)
  | '-' :: field => .ok (field, .descending)
  | cs =>
    match cut? ':' cs with
    | none => .ok (cs, .ascending)
    | some (field, word) =>
      match Direction.ofKeyword? word with
      | some direction => .ok (field, direction)
      | none => .error word

/-- Reads a sort key, blanks around it aside. -/
def read (text : String) : Except SortCause SortKey :=
  match trim text.toList with
  | [] => .error .blank
  | cs =>
    match splitDirection cs with
    | .error word => .error (.directionUnknown (String.ofList word) text)
    | .ok (field, direction) =>
      if isIdentifier field then .ok ⟨String.ofList field, direction⟩
      else .error (.fieldMalformed text)

def parse (text : String) : Except Fault SortKey :=
  (read text).mapError .badSortKey

/-! ## Sort orders -/

/-- The clauses of a sort order: the pieces between its semicolons, without the blank ones. -/
def clauses (order : String) : List String :=
  ((split ';' order.toList).filter (trim · ≠ [])).map String.ofList

/-- Reads a sort order, most significant key first. An unreadable clause fails the whole. -/
def parseOrder (order : String) : Except Fault (List SortKey) :=
  (clauses order).mapM parse

end SortKey

end Listing
