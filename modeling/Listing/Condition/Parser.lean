import Listing.Condition
import Listing.Text.Ascii
import Listing.Text.Blank
import Listing.Text.Pieces

/-!
# `Listing/Condition/Parser.lean` — reading conditions

The form has no nesting and no escapes, so a condition is read from left to right in four steps,
each of which takes off what it understands:

    quantifier   field ()   . operator (   operands )

1. `Quantifier.detect` takes off the quantifier, if there is one.
2. `readField` takes the field name up to the first `(`, which must belong to the marker `()`.
3. `readOperator` takes the dot and the operator up to the next `(`.
4. `readOperands` takes the rest, which must end in `)`. What is between is cut at every comma and
   otherwise left alone: operands may hold brackets, dots and blanks.

A step that fails says what it missed, and where: the number of UTF-8 bytes accepted so far.
-/

set_option autoImplicit false

namespace Listing.Condition

open Text

/-- The number of UTF-8 bytes of a text. -/
def byteLength (cs : List Char) : Nat :=
  (String.ofList cs).utf8ByteSize

@[simp] theorem byteLength_append (left right : List Char) :
    byteLength (left ++ right) = byteLength left + byteLength right := by
  simp [byteLength, String.ofList_append]

/-- Takes off a field name and the marker behind it. The text begins at the byte `offset`. -/
def readField (offset : Nat) (cs : List Char) :
    Except ConditionCause (List Char × List Char) :=
  match cut? '(' cs with
  | none | some ([], _) => .error .fieldMissing
  | some (field, ')' :: rest) =>
    if isIdentifier field then .ok (field, rest)
    else .error (.fieldMalformed (String.ofList field) offset)
  | some _ => .error (.markerMissing offset)

/-- Takes off a dot, an operator and an opening bracket. The text begins at the byte `offset`. -/
def readOperator (offset : Nat) : List Char → Except ConditionCause (Operator × List Char)
  | '.' :: cs =>
    match cut? '(' cs with
    | none => .error (.openingMissing (offset + 1))
    | some ([], _) => .error .operatorMissing
    | some (word, rest) =>
      match Operator.ofKeyword? word with
      | some operator => .ok (operator, rest)
      | none => .error (.operatorUnknown (String.ofList word))
  | _ => .error (.dotMissing offset)

/-- Cuts an operand list at its commas; an empty list has no operands. -/
def splitOperands (cs : List Char) : List String :=
  if cs = [] then [] else (split ',' cs).map String.ofList

/-- Reads what is left after the opening bracket of a text of `size` bytes. -/
def readOperands (size : Nat) (cs : List Char) : Except ConditionCause (List String) :=
  if cs.getLast? = some ')' then .ok (splitOperands cs.dropLast)
  else .error (.closingMissing size)

def read (cs : List Char) : Except ConditionCause Condition :=
  if trim cs = [] then .error .blank
  else do
    let quantifier := Quantifier.detect cs
    let start := quantifier.keyword.utf8ByteSize
    let (field, rest) ← readField start (cs.drop quantifier.keyword.length)
    let (operator, rest) ← readOperator (start + byteLength field + fieldMarker.utf8ByteSize) rest
    let operands ← readOperands (byteLength cs) rest
    return {
      quantifier
      field := String.ofList field
      operator
      operands
      text := String.ofList cs
    }

/-- Reads a condition. Blanks around it are not trimmed. -/
def parse (text : String) : Except Fault Condition :=
  (read text.toList).mapError (.badCondition text)

/-! ## Filters -/

/-- The clauses of a filter: the pieces between its semicolons, trimmed, without the blank ones. -/
def clauses (filter : String) : List String :=
  (((split ';' filter.toList).map trim).filter (· ≠ [])).map String.ofList

/-- Reads a filter, all conditions of which must hold. An unreadable clause fails the whole. -/
def parseFilter (filter : String) : Except Fault (List Condition) :=
  (clauses filter).mapM parse

end Listing.Condition
