import Listing.Matching
import Listing.Schema

/-!
# `Listing/Selection.lean` — the records that satisfy a filter

A filter is a list of conditions, all of which must hold. It is applied in two steps.

**Binding** looks up the field of each condition and checks that the operator has a meaning for
its kind. It needs no record, so a filter that cannot work is refused even where there is nothing
to filter.

**Keeping** goes through the records in order, and for each through the conditions in order up to
the first that does not hold. A fault there ends everything. Conditions behind one that does not
hold are not looked at, so an operand that cannot be read does no harm where it is never reached.

A long list of records is cut into pieces, each of which is a task of its own. `keepInTasks_eq`
says that nobody can tell: kept records and faults are those of going through the list in one.
-/

set_option autoImplicit false

namespace Listing

variable {ρ : Type}

/-! ## Binding -/

/-- A condition together with the accessor of its field. -/
structure BoundCondition (ρ : Type) where
  accessor : Accessor ρ
  condition : Condition

/-- Looks up the field of a condition and checks the operator. -/
def Schema.bindCondition (schema : Schema ρ) (condition : Condition) :
    Except Fault (BoundCondition ρ) := do
  let accessor ← schema.resolve condition.field
  checkSupported accessor.kind condition.operator
  return ⟨accessor, condition⟩

/-- Binds all conditions of a filter; the first that cannot be bound is to blame. -/
def Schema.bindConditions (schema : Schema ρ) (conditions : List Condition) :
    Except Fault (List (BoundCondition ρ)) :=
  conditions.mapM schema.bindCondition

/-! ## Keeping -/

def BoundCondition.matches (reading : BooleanReading) (bound : BoundCondition ρ) (record : ρ) :
    Except Fault Bool :=
  bound.condition.matches reading (bound.accessor.extract record)

/-- Whether a record satisfies all conditions, looked at in order up to the first that fails. -/
def matchesAll (reading : BooleanReading) (record : ρ) :
    List (BoundCondition ρ) → Except Fault Bool
  | [] => .ok true
  | bound :: rest => do
    if ← bound.matches reading record then matchesAll reading record rest
    else return false

/-- The records that pass a test which may have a fault, in order. -/
def keep (test : ρ → Except Fault Bool) : List ρ → Except Fault (List ρ)
  | [] => .ok []
  | record :: rest => do
    let passes ← test record
    let kept ← keep test rest
    return if passes then record :: kept else kept

/-- What is kept of two lists in a row is kept of the first and then of the second. -/
theorem keep_append (test : ρ → Except Fault Bool) (left right : List ρ) :
    keep test (left ++ right) = do
      let first ← keep test left
      let second ← keep test right
      return first ++ second := by
  induction left with
  | nil =>
    cases h : keep test right <;> simp [keep, h, bind, Except.bind, pure, Except.pure]
  | cons record rest ih =>
    rw [List.cons_append, keep, keep, ih]
    cases test record with
    | error fault => rfl
    | ok passes =>
      cases keep test rest with
      | error fault => rfl
      | ok kept =>
        cases keep test right with
        | error fault => rfl
        | ok others => cases passes <;> rfl

/-! ## Tasks -/

/-- Cuts a list into pieces of `size + 1` elements; the last piece may be shorter. -/
def cutEvery (size : Nat) : List ρ → List (List ρ)
  | [] => []
  | record :: rest => (record :: rest.take size) :: cutEvery size (rest.drop size)
termination_by records => records.length
decreasing_by simp only [List.length_drop, List.length_cons]; omega

theorem flatten_cutEvery (size : Nat) (records : List ρ) :
    (cutEvery size records).flatten = records := by
  fun_induction cutEvery size records with
  | case1 => rfl
  | case2 record rest ih => simp [ih]

/-- The number of records in the piece of one task, less one. -/
def pieceSize : Nat :=
  1023

/-- What several tasks have kept, one after the other, or the first fault among them. -/
def gather : List (Task (Except Fault (List ρ))) → Except Fault (List ρ)
  | [] => .ok []
  | task :: rest => do
    let kept ← task.get
    let others ← gather rest
    return kept ++ others

/-- Keeps the same records as `keep`, with a task for each piece of the list. -/
def keepInTasks (test : ρ → Except Fault Bool) (records : List ρ) : Except Fault (List ρ) :=
  gather ((cutEvery pieceSize records).map fun piece => Task.spawn fun _ => keep test piece)

/-- However a list is cut, gathering what the pieces give is the same as keeping from the whole. -/
theorem gather_pieces (test : ρ → Except Fault Bool) (pieces : List (List ρ)) :
    gather (pieces.map fun piece => Task.spawn fun _ => keep test piece) =
      keep test pieces.flatten := by
  induction pieces with
  | nil => rfl
  | cons piece rest ih => rw [List.map_cons, gather, ih, List.flatten_cons, keep_append]; rfl

theorem keepInTasks_eq (test : ρ → Except Fault Bool) (records : List ρ) :
    keepInTasks test records = keep test records := by
  rw [keepInTasks, gather_pieces, flatten_cutEvery]

end Listing
