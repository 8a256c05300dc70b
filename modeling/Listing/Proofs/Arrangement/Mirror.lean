import Listing.Proofs.Arrangement.Chain
import Listing.Proofs.InputOrder

/-!
# `Listing/Proofs/Arrangement/Mirror.lean` — sorting the other way round

The other direction of a key turns its comparison round and nothing else. So to sort by keys in
their other directions is to look at the sorting in a mirror, and a mirror shows the records that
come in the other way round as well. That is the exact statement: records that come in reverse, in
the other directions, are sorted in reverse (`StablySorted.mirrored`).

Records that come in as before cannot be sorted in reverse if there are ties, because these stay as
they came. But a tie is all that can differ: there are the same ties in the same places, as
for records in any other order (`arrange_ties_of_perm`).

**`sort_mirrored`** says both.
-/

set_option autoImplicit false

namespace Listing

open Outcome Std

/-! ## The other direction -/

def Direction.mirrored : Direction → Direction
  | .ascending => .descending
  | .descending => .ascending

def SortKey.mirrored (key : SortKey) : SortKey :=
  { key with direction := key.direction.mirrored }

variable {ρ : Type} {keys : List (BoundKey ρ)} {records sorted : List ρ}

def BoundKey.mirrored (key : BoundKey ρ) : BoundKey ρ :=
  { key with direction := key.direction.mirrored }

theorem Direction.apply_mirrored (direction : Direction) (order : Ordering) :
    direction.mirrored.apply order = (direction.apply order).swap := by
  cases direction with
  | ascending => rfl
  | descending => exact (Ordering.swap_swap).symm

/-- The comparisons of all keys are turned round, and so is the first that tells records apart. -/
theorem compareRecords_mirrored (left right : ρ) :
    compareRecords (keys.map BoundKey.mirrored) left right = compareRecords keys right left := by
  have turned : compareRecords (keys.map BoundKey.mirrored) left right =
      (compareRecords keys left right).swap := by
    induction keys with
    | nil => rfl
    | cons key keys ih =>
      have head : key.mirrored.compare left right = (key.compare left right).swap :=
        key.direction.apply_mirrored _
      rw [List.map_cons, compareRecords, compareRecords, ih, head, Ordering.swap_then]
  rw [turned]
  exact OrientedCmp.eq_swap.symm

theorem ties_mirrored (record : ρ) (records : List ρ) :
    ties (keys.map BoundKey.mirrored) record records = ties keys record records := by
  unfold ties
  refine List.filter_congr fun other _ => ?_
  rw [compareRecords_mirrored]
  exact decide_eq_decide.mpr OrientedCmp.eq_comm

theorem ties_reverse (record : ρ) (records : List ρ) :
    ties keys record records.reverse = (ties keys record records).reverse :=
  List.filter_reverse

/-- In the mirror, order is order and ties are as they came. -/
theorem StablySorted.mirrored (h : StablySorted keys records sorted) :
    StablySorted (keys.map BoundKey.mirrored) records.reverse sorted.reverse := by
  refine stablySorted_iff_ties.mpr ⟨?_, fun record => ?_⟩
  · simp only [List.pairwise_reverse, compareRecords_mirrored]
    exact h.ordered
  · rw [ties_mirrored, ties_mirrored, ties_reverse, ties_reverse, h.ties_eq]

theorem arrange_reverse (keys : List (BoundKey ρ)) (records : List ρ) :
    arrange (keys.map BoundKey.mirrored) records.reverse = (arrange keys records).reverse :=
  (stablySorted_arrange keys records).mirrored.eq_arrange.symm

theorem arrange_mirrored (keys : List (BoundKey ρ)) (records : List ρ) :
    arrange (keys.map BoundKey.mirrored) records = (arrange keys records.reverse).reverse := by
  rw [← arrange_reverse, List.reverse_reverse]

/-- Records that come in as before are sorted in reverse, but for ties. -/
theorem arrange_mirrored_tied (keys : List (BoundKey ρ)) (records : List ρ) :
    List.Forall₂ (fun left right => compareRecords keys left right = .eq)
      (arrange (keys.map BoundKey.mirrored) records) (arrange keys records).reverse := by
  have same : (arrange keys records.reverse).map (compareRecords keys) =
      (arrange keys records).map (compareRecords keys) :=
    arrange_ties_of_perm records.reverse_perm
  have places := congrArg List.reverse same
  rw [← List.map_reverse, ← List.map_reverse, ← arrange_mirrored, ← List.forall₂_eq_eq_eq,
    List.forall₂_map_left_iff, List.forall₂_map_right_iff] at places
  exact places.imp fun _ _ => compareRecords_eq_eq_iff.mpr

/-- Ties do not turn round. -/
theorem ties_arrange_mirrored (keys : List (BoundKey ρ)) (records : List ρ) (record : ρ) :
    ties keys record (arrange (keys.map BoundKey.mirrored) records) =
      ties keys record records := by
  have kept := (stablySorted_arrange (keys.map BoundKey.mirrored) records).ties_eq record
  rwa [ties_mirrored, ties_mirrored] at kept

/-! ## Sorting by fields -/

theorem Schema.bindKey_mirrored (schema : Schema ρ) (key : SortKey) :
    schema.bindKey key.mirrored = BoundKey.mirrored <$> schema.bindKey key := by
  unfold Schema.bindKey SortKey.mirrored
  cases schema.resolve key.field <;> rfl

theorem Schema.bindKeys_mirrored (schema : Schema ρ) (order : List SortKey) :
    schema.bindKeys (order.map SortKey.mirrored) =
      List.map BoundKey.mirrored <$> schema.bindKeys order := by
  unfold Schema.bindKeys
  rw [List.mapM_map, ← mapM_map_result]
  exact mapM_congr fun key _ => schema.bindKey_mirrored key

namespace Service

theorem sort_reverse (service : Service ρ) (records : List ρ) (order : List SortKey) :
    service.sort records.reverse (order.map SortKey.mirrored) =
      List.reverse <$> service.sort records order := by
  unfold sort
  rw [Schema.bindKeys_mirrored]
  cases service.schema.bindKeys order with
  | error fault => rfl
  | ok keys => exact congrArg Except.ok (arrange_reverse keys records)

/-- **Sorting in the other directions is sorting in a mirror.** Records that come in reverse are
sorted in reverse, or neither can be sorted, for the same fault. If all fields are known, records
that come in as before are sorted in reverse but for ties: in each place there is a record that is
tied with the one in the mirror, and the records that are tied with a given one stay as they
came. -/
theorem sort_mirrored (service : Service ρ) (records : List ρ) (order : List SortKey) :
    service.sort records.reverse (order.map SortKey.mirrored) =
      List.reverse <$> service.sort records order ∧
    ((∀ key ∈ order, service.schema.get? key.field ≠ none) →
      ∃ keys sorted mirrored, List.Forall₂ service.schema.BindsKey order keys ∧
        service.sort records order = .ok sorted ∧
        service.sort records.reverse (order.map SortKey.mirrored) = .ok sorted.reverse ∧
        service.sort records (order.map SortKey.mirrored) = .ok mirrored ∧
        List.Forall₂ (fun left right => compareRecords keys left right = .eq)
          mirrored sorted.reverse ∧
        ∀ record, ties keys record mirrored = ties keys record records) := by
  refine ⟨sort_reverse service records order, ?_⟩
  intro known
  obtain ⟨keys, binds⟩ := Schema.exists_bindsKeys_iff.mpr known
  have sorts (records : List ρ) : service.sort records order = .ok (arrange keys records) :=
    sort_eq_ok_iff_arrange.mpr ⟨keys, binds, rfl⟩
  have reversed := sort_reverse service records order
  have mirrored := sort_reverse service records.reverse order
  rw [sorts] at reversed mirrored
  rw [List.reverse_reverse] at mirrored
  have isArranged := arrange_mirrored keys records
  refine ⟨keys, _, _, binds, sorts records, reversed, mirrored, ?_, ?_⟩
  · exact isArranged ▸ arrange_mirrored_tied keys records
  · exact isArranged ▸ ties_arrange_mirrored keys records

/-- Two records are tied. They are in reverse if they come in reverse, and else as they came. -/
theorem sort_mirrored_tied :
    let schema := Schema.empty.insert "done" (.boolean Prod.fst)
    let service : Service (Bool × Nat) := { schema }
    let records := [(false, 1), (true, 2), (false, 3)]
    (∀ key ∈ [(⟨"done", .ascending⟩ : SortKey)], schema.get? key.field ≠ none) ∧
      service.sort records [⟨"done", .ascending⟩] = .ok [(false, 1), (false, 3), (true, 2)] ∧
      service.sort records.reverse [⟨"done", .descending⟩] =
        .ok [(true, 2), (false, 3), (false, 1)] ∧
      ∃ keys mirrored, service.sort records [⟨"done", .descending⟩] = .ok mirrored ∧
        List.Forall₂ (fun left right => compareRecords keys left right = .eq)
          mirrored [(true, 2), (false, 3), (false, 1)] ∧
        ∀ record, ties keys record mirrored = ties keys record records := by
  intro schema service records
  have stable : StablySorted [⟨.boolean Prod.fst, .ascending⟩] records
      [(false, 1), (false, 3), (true, 2)] :=
    ⟨[((false, 1), 0), ((false, 3), 2), ((true, 2), 1)], by decide, rfl, by decide⟩
  have sorts : service.sort records [⟨"done", .ascending⟩] =
      .ok [(false, 1), (false, 3), (true, 2)] :=
    sort_eq_ok_iff.mpr ⟨_, .cons ⟨rfl, rfl⟩ .nil, stable⟩
  have found : schema.get? "done" = some (.boolean Prod.fst) := by rfl
  have known : ∀ key ∈ [(⟨"done", .ascending⟩ : SortKey)], schema.get? key.field ≠ none := by
    rw [List.forall_mem_singleton, found]
    exact Option.some_ne_none _
  obtain ⟨reversed, mirrors⟩ := sort_mirrored service records [⟨"done", .ascending⟩]
  rw [sorts] at reversed
  obtain ⟨keys, sorted, mirrored, -, sorts', -, isMirrored, tied, kept⟩ := mirrors known
  obtain rfl := Except.ok.inj (sorts.symm.trans sorts')
  exact ⟨known, sorts, reversed, keys, mirrored, isMirrored, tied, kept⟩

end Service

end Listing
