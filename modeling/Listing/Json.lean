import Listing.Number.Digits
import Listing.Number.Word

/-!
# `Listing/Json.lean` — JSON values

Settings and requests arrive as JSON texts. A value is kept as the text gives it and nothing is
interpreted early:

* A number stays a literal, because `10` is an integer and `10.0` and `1e1` are not.
* The members of an object stay in a list with repetitions, because a repeated name may be a fault.
* A string may hold the escape of half a surrogate pair, which is no character. Such a string has
  no text. It is harmless where nobody looks at it and unusable elsewhere.

The second half gives values their use: as integers of a given width, texts, names of alternatives,
and as the fields of a record (`Json.slots?`).
-/

set_option autoImplicit false

namespace Listing

inductive Json where
  | null
  | boolean (truth : Bool)
  | number (literal : List Char)
  | string (text : Option String)
  | array (items : List Json)
  | object (members : List (Option String × Json))

namespace Json

/-! ## Single values -/

/-- The integer that a value is. A zero with a minus in front is a different number and no
integer. -/
def integer? : Json → Option Int
  | number literal =>
    (Number.readInteger? literal).filter fun n => literal.head? ≠ some '-' || n ≠ 0
  | _ => none

def int64? (json : Json) : Option Int64 :=
  json.integer?.bind Number.toInt64?

def uint64? (json : Json) : Option UInt64 :=
  json.integer?.bind Number.toUInt64?

def text? : Json → Option String
  | string text => text
  | _ => none

/-- The name of the alternative that a value stands for: a string, or an object with that name and
`null`, as for an alternative without data. -/
def alternative? : Json → Option String
  | string text => text
  | object [(name, null)] => name
  | _ => none

/-- Reads a value that may also be `null`, for nothing. -/
def nullable? {α : Type} (read? : Json → Option α) : Json → Option (Option α)
  | null => some none
  | json => (read? json).map some

/-! ## Records -/

/-- The value of one member of an object, or nothing if there is none; it must not be repeated. -/
def slot? (members : List (Option String × Json)) (name : String) : Option (Option Json) :=
  match members.filter (·.1 = some name) with
  | [] => some none
  | [member] => some (some member.2)
  | _ => none

/-- The values that a JSON value gives to the fields of a record: an object gives them by name, an
array in order. Fields may be missing. Other names are ignored but must be texts, and an array must
not be too long. -/
def slots? (names : List String) : Json → Option (List (Option Json))
  | object members =>
    if members.all (·.1.isSome) then names.mapM (slot? members) else none
  | array items =>
    if items.length ≤ names.length then
      some (items.map some ++ List.replicate (names.length - items.length) none)
    else
      none
  | _ => none

/-- Reads the value of a field, or takes the default where it is missing. -/
def fill? {α : Type} (read? : Json → Option α) (default : α) : Option Json → Option α
  | none => some default
  | some json => read? json

end Json

end Listing
