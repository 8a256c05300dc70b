import Listing.Condition
import Listing.Operand

/-!
# `Listing/Matching.lean` — when a value satisfies a condition

Not every operator makes sense for every kind:

| kind             | `equalTo`, `notEqualTo` | the four orderings | `isLike` |
|------------------|-------------------------|--------------------|----------|
| string           | yes                     | yes                | yes      |
| boolean          | yes                     | no                 | no       |
| date             | yes                     | yes                | no       |
| integer, decimal | yes                     | yes                | no       |

`none` makes sense everywhere and is satisfied by every value that is there. `checkSupported`
applies the table by itself, so a whole request can be checked before a record is looked at.

`satisfies` answers for one value. An absent value satisfies nothing, and does so before anything
else is looked at. Only then come the faults: an operator without meaning for the kind, a missing
operand, an operand that cannot be read. None of them depends on the value.
-/

set_option autoImplicit false

namespace Listing

/-- Whether an operator has a meaning for values of a kind. -/
def Kind.supports (kind : Kind) : Operator → Bool
  | .comparing comparison => kind ≠ .boolean || !comparison.isOrdering
  | .containing => kind = .string
  | .unrestricted => true

/-- Refuses an operator without meaning for a kind. -/
def checkSupported (kind : Kind) (operator : Operator) : Except Fault Unit :=
  if kind.supports operator then .ok () else .error (.unsupported operator kind)

/-- The operand that counts: the first one. -/
def firstOperand (operator : Operator) : List String → Except Fault String
  | [] => .error (.operandMissing operator)
  | operand :: _ => .ok operand

/-- Whether a value stands to an operand, both present, as the operator asks. -/
def Operator.relates : Operator → Value → Value → Bool
  | .comparing comparison, value, operand => comparison.admits (value.compare? operand)
  | .containing, value, operand => value.contains operand
  | .unrestricted, _, _ => true

/-- Whether a value satisfies an operator with its operands. -/
def satisfies (reading : BooleanReading) (value : Value) (operator : Operator)
    (operands : List String) : Except Fault Bool :=
  if value.isAbsent then .ok false
  else do
    checkSupported value.kind operator
    if operator = .unrestricted then
      return true
    else
      let operand ← readOperand reading value.kind (← firstOperand operator operands)
      return operator.relates value operand

/-- Whether a value satisfies a condition. -/
def Condition.matches (reading : BooleanReading) (condition : Condition) (value : Value) :
    Except Fault Bool :=
  satisfies reading value condition.operator condition.operands

end Listing
