import Listing.Fault
import Listing.Quantifier

/-!
# `Listing/Condition.lean` — one clause of a filter

A condition names a field, an operator and operands, and may have a quantifier in front:

    thereExiststag().equalTo(red,green)

It remembers the text it was read from, for reports. A condition that was built from parts has no
such text; it takes the one that `render` gives it, as if it had been read from there. Nothing
checks the parts, so that text need not read back as the same condition: a `,` in an operand, for
one, reads as two operands.
-/

set_option autoImplicit false

namespace Listing

/-- One clause of a filter. -/
structure Condition where
  quantifier : Quantifier
  field : String
  operator : Operator
  operands : List String
  /-- The text the condition was read from. -/
  text : String
  deriving DecidableEq

namespace Condition

/-- The written form of a condition with these parts. -/
def render (quantifier : Quantifier) (field : String) (operator : Operator)
    (operands : List String) : String :=
  quantifier.keyword ++ field ++ fieldMarker ++ "." ++ operator.keyword ++ "(" ++
    ",".intercalate operands ++ ")"

/-- The written form of a condition. It need not be the text the condition was read from: the
operator may have been written in another case. -/
def rendered (condition : Condition) : String :=
  render condition.quantifier condition.field condition.operator condition.operands

/-- The condition with these parts and its written form. -/
def ofParts (quantifier : Quantifier) (field : String) (operator : Operator)
    (operands : List String) : Condition :=
  { quantifier, field, operator, operands, text := render quantifier field operator operands }

@[simp] theorem text_ofParts (quantifier : Quantifier) (field : String) (operator : Operator)
    (operands : List String) :
    (ofParts quantifier field operator operands).text =
      (ofParts quantifier field operator operands).rendered :=
  rfl

end Condition

end Listing
