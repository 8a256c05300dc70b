/-!
# `Listing/Kind.lean` — the five kinds of field

Every field has one kind, and the kind decides how an operand is read, which operators make sense
and how values are ordered. The kinds are listed in the order in which values of *different* kinds
sort.

An operand may say of what kind it is, with a tag in front such as `:integer:42`. The tag of a
kind is its name between colons, except that a date says `dateTime`.
-/

set_option autoImplicit false

namespace Listing

/-- What a field holds. -/
inductive Kind where
  | string
  | date
  | boolean
  | integer
  | decimal
  deriving DecidableEq

namespace Kind

/-- All kinds, in the order of their values. -/
def all : List Kind :=
  [.string, .date, .boolean, .integer, .decimal]

theorem mem_all (kind : Kind) : kind ∈ all := by
  cases kind <;> decide

def rank : Kind → Nat
  | .string => 0
  | .date => 1
  | .boolean => 2
  | .integer => 3
  | .decimal => 4

theorem rank_injective {left right : Kind} (h : left.rank = right.rank) : left = right := by
  cases left <;> cases right <;> first | rfl | cases h

def name : Kind → String
  | .string => "string"
  | .date => "date"
  | .boolean => "boolean"
  | .integer => "integer"
  | .decimal => "decimal"

/-- The kind with a name, letter for letter. -/
def ofName? (name : String) : Option Kind :=
  all.find? (·.name = name)

/-- The tag by which an operand names its kind. -/
def tag : Kind → String
  | .string => ":string:"
  | .date => ":dateTime:"
  | .boolean => ":boolean:"
  | .integer => ":integer:"
  | .decimal => ":decimal:"

theorem ofName?_name (kind : Kind) : ofName? kind.name = some kind := by
  cases kind <;> rfl

end Kind

end Listing
