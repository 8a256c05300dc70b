import Listing.Settings
import Listing.Window

/-!
# `Listing/Request.lean` — what a client asks for

A request has four parts, each of which may be missing: a filter, a sort order, a position and a
size. Without a filter every record is listed, without an order the records stay as they are,
without a position the list begins at its first element, and without a size the page is as large
as the settings say.

A request may arrive as a JSON text. In an object any part may be left out or be `null`; in an
array all four must be given, in this order.
-/

set_option autoImplicit false

namespace Listing

/-- What a client asks for. -/
structure Request where
  /-- The filter, as a text. -/
  query : Option String := none
  /-- The sort order, as a text. -/
  sort : Option String := none
  position : Option Int64 := none
  size : Option Int64 := none
  deriving DecidableEq

namespace Request

/-- The size for a request that names none: the default, as far as a signed word can say it. -/
def defaultSize (settings : Settings) : Int64 :=
  Int64.ofNat (min settings.defaultPageSize.toNat Int64.maxValue.toNatClampNeg)

def window (request : Request) (settings : Settings) : Except Fault Window :=
  Window.ofRequest (request.position.getD 0) (request.size.getD (defaultSize settings))
    settings.maxPageSize

/-! ## Reading -/

/-- The names of the parts in a text, in their order. -/
def names : List String :=
  ["query", "sort", "position", "size"]

/-- Whether a JSON value leaves no part out where that is not allowed. -/
def isComplete : Json → Bool
  | .array items => items.length = names.length
  | _ => true

def ofJson? (json : Json) : Option Request :=
  match json.slots? names with
  | some [query, sort, position, size] =>
    if isComplete json then do
      return {
        query := ← Json.fill? (Json.nullable? Json.text?) none query
        sort := ← Json.fill? (Json.nullable? Json.text?) none sort
        position := ← Json.fill? (Json.nullable? Json.int64?) none position
        size := ← Json.fill? (Json.nullable? Json.int64?) none size
      }
    else none
  | _ => none

def read? (text : String) : Option Request :=
  (Json.read? text).bind ofJson?

end Request

end Listing
