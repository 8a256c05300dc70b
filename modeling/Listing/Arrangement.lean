import Listing.Schema
import Listing.SortKey

/-!
# `Listing/Arrangement.lean` — records in order

Records are ordered by a list of sort keys: by the first, among equals by the second, and so on.
Each key has its own direction. Records that are equal under all keys stay in the order in which
they came, also under a descending key, because a direction turns only the comparison around.
-/

set_option autoImplicit false

namespace Listing

variable {ρ : Type}

/-- A sort key together with the accessor of its field. -/
structure BoundKey (ρ : Type) where
  accessor : Accessor ρ
  direction : Direction

def Schema.bindKey (schema : Schema ρ) (key : SortKey) : Except Fault (BoundKey ρ) := do
  return ⟨← schema.resolve key.field, key.direction⟩

/-- Binds all keys of a sort order; the first that cannot be bound is to blame. -/
def Schema.bindKeys (schema : Schema ρ) (order : List SortKey) :
    Except Fault (List (BoundKey ρ)) :=
  order.mapM schema.bindKey

def BoundKey.compare (key : BoundKey ρ) (left right : ρ) : Ordering :=
  key.direction.apply ((key.accessor.extract left).sortCompare (key.accessor.extract right))

/-- The order of two records under several keys, the first of which weighs most. -/
def compareRecords : List (BoundKey ρ) → ρ → ρ → Ordering
  | [], _, _ => .eq
  | key :: keys, left, right => (key.compare left right).then (compareRecords keys left right)

/-- The records in order, equals as they came. -/
def arrange (keys : List (BoundKey ρ)) (records : List ρ) : List ρ :=
  records.mergeSort fun left right => (compareRecords keys left right).isLE

end Listing
