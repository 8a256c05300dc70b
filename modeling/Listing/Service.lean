import Listing.Arrangement
import Listing.Condition.Parser
import Listing.Page
import Listing.Request
import Listing.Selection

/-!
# `Listing/Service.lean` — listing records

A service knows the fields of a record type and the settings of its host. It keeps nothing between
requests. A request goes through these steps, and the first fault ends it:

1. the window is settled;
2. the filter and then the sort order are read;
3. the conditions of the filter are bound, and the records that satisfy them are selected;
4. the sort keys are bound, and what was selected is put in order;
5. the page is cut out.

So a fault in the text of a filter is reported before an unknown field in a sort order, and whether
a sort key is known matters only once the filter has gone through all records without a fault.
-/

set_option autoImplicit false

namespace Listing

/-- What is needed to list records of type `ρ`. -/
structure Service (ρ : Type) where
  schema : Schema ρ
  settings : Settings := .default

namespace Service

variable {ρ : Type}

/-- The records that satisfy all conditions, in their order. -/
def select (service : Service ρ) (records : List ρ) (conditions : List Condition) :
    Except Fault (List ρ) := do
  let bound ← service.schema.bindConditions conditions
  let test := fun record => matchesAll service.settings.booleanReading record bound
  if records.length < service.settings.parallelThreshold.toNat then keep test records
  else keepInTasks test records

def sort (service : Service ρ) (records : List ρ) (order : List SortKey) :
    Except Fault (List ρ) := do
  return arrange (← service.schema.bindKeys order) records

/-- Selects records, puts them in order and cuts out a page. -/
def execute (service : Service ρ) (records : List ρ) (conditions : List Condition)
    (order : List SortKey) (window : Window) : Except Fault (Page ρ) := do
  let selected ← service.select records conditions
  let sorted ← service.sort selected order
  return .ofResult sorted window

def list (service : Service ρ) (records : List ρ) (request : Request) :
    Except Fault (Page ρ) := do
  let window ← request.window service.settings
  let conditions ← Condition.parseFilter (request.query.getD "")
  let order ← SortKey.parseOrder (request.sort.getD "")
  service.execute records conditions order window

end Service

end Listing
