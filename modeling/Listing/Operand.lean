import Listing.Fault
import Listing.Number.Decimal
import Listing.Number.Word
import Listing.Value

/-!
# `Listing/Operand.lean` — reading operands as values

The operands of a condition are texts; the field that the condition is about says what they are
texts *of*. So an operand is always read for a kind, in two steps:

1. **The tag.** An operand may begin with the tag of a kind, in any ASCII case. The tag of the
   field's own kind is taken off, once; the tag of another kind makes the operand unusable, and
   the fault shows the whole operand.
2. **The literal.** What remains is read as a value of the kind, and a fault shows only that.

Booleans can be read in two ways. The lenient reading takes everything but `true` for false; the
strict one accepts `true` and `false` and nothing else.
-/

set_option autoImplicit false

namespace Listing

open Text Number

/-! ## Booleans -/

/-- How boolean operands are read. -/
inductive BooleanReading where
  | lenient
  | strict
  deriving DecidableEq

namespace BooleanReading

def all : List BooleanReading :=
  [.lenient, .strict]

def name : BooleanReading → String
  | .lenient => "lenient"
  | .strict => "strict"

/-- The reading with a name, letter for letter. -/
def ofName? (name : String) : Option BooleanReading :=
  all.find? (·.name = name)

def read? (reading : BooleanReading) (cs : List Char) : Option Bool :=
  if agree cs "true".toList then some true
  else match reading with
    | .lenient => some false
    | .strict => if agree cs "false".toList then some false else none

/-- What the strict reading accepts the lenient one reads alike. -/
theorem read?_lenient_of_strict {cs : List Char} {truth : Bool}
    (h : strict.read? cs = some truth) : lenient.read? cs = some truth := by
  simp only [read?] at *
  split
  · simp_all
  · split at h <;> simp_all

end BooleanReading

/-! ## Tags -/

def hasTag (cs : List Char) (kind : Kind) : Bool :=
  agree (cs.take kind.tag.length) kind.tag.toList

/-- The kind whose tag a text begins with, if any, and the text without the tag. -/
def splitTag (cs : List Char) : Option Kind × List Char :=
  match Kind.all.find? (hasTag cs) with
  | some kind => (some kind, cs.drop kind.tag.length)
  | none => (none, cs)

/-! ## Literals -/

/-- Reads a text without a tag as a value of a kind. -/
def readLiteral? (reading : BooleanReading) (cs : List Char) : Kind → Option Value
  | .string => some (.string (some (String.ofList cs)))
  | .date => (Date.read? cs).map fun day => .date (some day)
  | .boolean => (reading.read? cs).map .boolean
  | .integer => ((readInteger? cs).bind toInt64?).map .integer
  | .decimal => ((Decimal.read? cs).bind Decimal.round?).map .decimal

def readOperand (reading : BooleanReading) (kind : Kind) (operand : String) :
    Except Fault Value :=
  let (tag, literal) := splitTag operand.toList
  if tag.all (· = kind) then
    match readLiteral? reading literal kind with
    | some value => .ok value
    | none => .error (.badOperand kind (String.ofList literal) .notLiteral)
  else
    .error (.badOperand kind operand .foreignTag)

/-- An operand is read as a present value of the kind it is read for. -/
theorem kind_readLiteral? {reading : BooleanReading} {cs : List Char} {kind : Kind} {value : Value}
    (h : readLiteral? reading cs kind = some value) :
    value.kind = kind ∧ value.isAbsent = false := by
  cases kind <;> simp only [readLiteral?, Option.some.injEq, Option.map_eq_some_iff] at h
  case string => subst h; exact ⟨rfl, rfl⟩
  all_goals obtain ⟨_, _, rfl⟩ := h; exact ⟨rfl, rfl⟩

end Listing
