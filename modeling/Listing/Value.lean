import Listing.Date
import Listing.Kind
import Listing.Number.Binary64
import Listing.Text.Lowercase

/-!
# `Listing/Value.lean` — field values and their two orders

A field has a value in every record. Strings and dates may be absent; the other kinds always have
a value.

Values are compared for two purposes, and the two orders must not be mixed up:

* **Sorting** needs a place for everything. `sortCompare` is total: absent values come first, all
  NaNs and both zeros have places of their own, and values of different kinds sort by kind.
* **Conditions** compare a value with an operand. `compare?` is the order of what the values
  *mean*: the two zeros are equal, and where no order makes sense (an absent value, a NaN, two
  kinds) there is none.
-/

set_option autoImplicit false

namespace Listing

open Text Number

/-- The value of a field in a record. -/
inductive Value where
  | string (text : Option String)
  | date (day : Option Date)
  | boolean (truth : Bool)
  | integer (word : Int64)
  | decimal (number : Binary64)
  deriving DecidableEq

namespace Value

def kind : Value → Kind
  | string _ => .string
  | date _ => .date
  | boolean _ => .boolean
  | integer _ => .integer
  | decimal _ => .decimal

/-- Whether the record has no value for the field. -/
def isAbsent : Value → Bool
  | string text => text.isNone
  | date day => day.isNone
  | boolean _ | integer _ | decimal _ => false

/-- Puts what is absent before what is present. -/
def absentFirst {α : Type} (order : α → α → Ordering) : Option α → Option α → Ordering
  | none, none => .eq
  | none, some _ => .lt
  | some _, none => .gt
  | some a, some b => order a b

/-- The order in which values are sorted. -/
def sortCompare : Value → Value → Ordering
  | string a, string b => absentFirst compareFolded a b
  | date a, date b => absentFirst Date.compare a b
  | boolean a, boolean b => compare a b
  | integer a, integer b => compare a b
  | decimal a, decimal b => a.compareTotal b
  | a, b => compare a.kind.rank b.kind.rank

/-- The order of two values for a condition, if they have one. -/
def compare? : Value → Value → Option Ordering
  | string (some a), string (some b) => some (compareFolded a b)
  | date (some a), date (some b) => some (a.compare b)
  | boolean a, boolean b => some (compare a b)
  | integer a, integer b => some (compare a b)
  | decimal a, decimal b => a.compare? b
  | _, _ => none

/-- Whether a value has the other one inside it, as only a string can. -/
def contains : Value → Value → Bool
  | string (some a), string (some b) => containsFolded a b
  | _, _ => false

end Value

end Listing
