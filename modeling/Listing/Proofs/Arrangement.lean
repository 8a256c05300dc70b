import Listing.Proofs.Outcome
import Listing.Proofs.SortOrder
import Listing.Service

/-!
# `Listing/Proofs/Arrangement.lean` — what sorting does

Sorting puts records in the order of the sort keys and leaves equals as they came. What the second
half means has to be said in terms of where a record came from, because two records may be equal
in every respect. So `StablySorted` gives every record of the sorted list the number it had before,
and asks that numbers increase among equals.

That pins the sorted list down: the order of the records together with their numbers has no ties
left, and a list in an order without ties is determined by its elements (`StablySorted.unique`).

**`sort_stable`** puts this together with what happens when a field is not known.
-/

set_option autoImplicit false

namespace Listing

open Outcome Std

variable {ρ : Type}

/-- The records in the order of the keys, equals as they came: `numbered` is the sorted list with
the position that each record had before. -/
def StablySorted (keys : List (BoundKey ρ)) (records sorted : List ρ) : Prop :=
  ∃ numbered : List (ρ × Nat), numbered.Perm records.zipIdx ∧ sorted = numbered.map Prod.fst ∧
    numbered.Pairwise fun earlier later =>
      compareRecords keys earlier.1 later.1 ≠ .gt ∧
        (compareRecords keys earlier.1 later.1 = .eq → earlier.2 < later.2)

theorem numbers_lt (records : List ρ) : records.zipIdx.Pairwise fun a b => a.2 < b.2 := by
  have counted : (records.zipIdx.map Prod.snd).Pairwise (· < ·) := by
    rw [List.zipIdx_map_snd]
    exact List.pairwise_lt_range'
  exact List.pairwise_map.mp counted

theorem numbers_ne {records : List ρ} {numbered : List (ρ × Nat)}
    (perm : numbered.Perm records.zipIdx) : numbered.Pairwise fun a b => a.2 ≠ b.2 :=
  (perm.pairwise_iff Ne.symm).mpr ((numbers_lt records).imp Nat.ne_of_lt)

theorem compareRecords_singleton (key : BoundKey ρ) : compareRecords [key] = key.compare :=
  funext fun _ => funext fun _ => Ordering.then_eq

/-- The order of two records under several keys is that of the first key that tells them apart. -/
theorem compareRecords_eq_iff {keys : List (BoundKey ρ)} {left right : ρ} {order : Ordering}
    (ne : order ≠ .eq) :
    compareRecords keys left right = order ↔
      ∃ key, FirstNot (fun key => key.compare left right = .eq) keys key ∧
        key.compare left right = order := by
  induction keys with
  | nil => simp [compareRecords, not_firstNot_nil, ne.symm]
  | cons key keys ih =>
    rw [compareRecords, exists_firstNot_cons_iff, ← ih]
    cases key.compare left right with
    | eq => simp [ne.symm]
    | lt => simp
    | gt => simp

namespace StablySorted

variable {keys : List (BoundKey ρ)} {records sorted other : List ρ}

theorem perm (h : StablySorted keys records sorted) : sorted.Perm records := by
  obtain ⟨numbered, perm, rfl, -⟩ := h
  have forgotten := perm.map Prod.fst
  rwa [List.zipIdx_map_fst] at forgotten

theorem ordered (h : StablySorted keys records sorted) :
    sorted.Pairwise fun earlier later => compareRecords keys earlier later ≠ .gt := by
  obtain ⟨numbered, -, rfl, ordered⟩ := h
  exact List.pairwise_map.mpr (ordered.imp And.left)

/-- Two lists of the same numbered records, both in order, are the same: no two different places
are equal in this order. -/
theorem unique (h : StablySorted keys records sorted) (h' : StablySorted keys records other) :
    sorted = other := by
  obtain ⟨numbered, perm, rfl, ordered⟩ := h
  obtain ⟨numbered', perm', rfl, ordered'⟩ := h'
  congr 1
  refine List.Perm.eq_of_pairwise ?_ ordered ordered' (perm.trans perm'.symm)
  intro a b _ _ ab ba
  have equal : compareRecords keys a.1 b.1 = .eq :=
    OrientedCmp.isLE_antisymm (Ordering.ne_gt_iff_isLE.mp ab.1) (Ordering.ne_gt_iff_isLE.mp ba.1)
  exact absurd (ab.2 equal) (Nat.lt_asymm (ba.2 (OrientedCmp.eq_symm equal)))

theorem of_nil (records : List ρ) : StablySorted [] records records := by
  refine ⟨records.zipIdx, .refl _, (List.zipIdx_map_fst 0 records).symm, ?_⟩
  exact (numbers_lt records).imp fun before => ⟨by simp [compareRecords], fun _ => before⟩

end StablySorted

theorem isLE_total (keys : List (BoundKey ρ)) (left right : ρ) :
    ((compareRecords keys left right).isLE || (compareRecords keys right left).isLE) = true := by
  have turned : compareRecords keys right left = (compareRecords keys left right).swap :=
    OrientedCmp.eq_swap
  rw [turned]
  cases compareRecords keys left right <;> rfl

/-- Nothing in a list in order comes before its head. -/
theorem isLE_head {keys : List (BoundKey ρ)} {first record : ρ} {rest : List ρ}
    (ordered : (first :: rest).Pairwise fun earlier later =>
      compareRecords keys earlier later ≠ .gt)
    (mem : record ∈ first :: rest) : (compareRecords keys first record).isLE := by
  rcases List.mem_cons.mp mem with rfl | mem
  · exact ReflCmp.isLE_rfl
  · exact Ordering.ne_gt_iff_isLE.mp ((List.pairwise_cons.mp ordered).1 record mem)

/-- Sorting the records together with their numbers, which decide between equals, sorts the
records as `arrange` does. -/
theorem stablySorted_arrange (keys : List (BoundKey ρ)) (records : List ρ) :
    StablySorted keys records (arrange keys records) := by
  let le := fun left right : ρ => (compareRecords keys left right).isLE
  have trans : ∀ a b c, le a b = true → le b c = true → le a c = true :=
    fun _ _ _ => TransCmp.isLE_trans
  have perm : (records.zipIdx.mergeSort (List.zipIdxLE le)).Perm records.zipIdx :=
    List.mergeSort_perm _ _
  refine ⟨_, perm, List.mergeSort_zipIdx.symm, ?_⟩
  have sorted := List.pairwise_mergeSort (List.zipIdxLE_trans trans)
    (List.zipIdxLE_total (isLE_total keys)) records.zipIdx
  refine (sorted.and (numbers_ne perm)).imp ?_
  rintro earlier later ⟨inOrder, ne⟩
  unfold List.zipIdxLE at inOrder
  split at inOrder
  · next isLE =>
    refine ⟨Ordering.ne_gt_iff_isLE.mpr isLE, fun equal => ?_⟩
    have back : le later.1 earlier.1 = true :=
      Ordering.isLE_of_eq_eq (OrientedCmp.eq_symm equal)
    rw [if_pos back, decide_eq_true_iff] at inOrder
    exact Nat.lt_of_le_of_ne inOrder ne
  · cases inOrder

theorem StablySorted.eq_arrange {keys : List (BoundKey ρ)} {records sorted : List ρ}
    (h : StablySorted keys records sorted) : sorted = arrange keys records :=
  h.unique (stablySorted_arrange keys records)

/-! ## Sorting by fields -/

namespace Schema

variable {schema : Schema ρ}

/-- A sort key is bound to the accessor of its field, in its own direction. -/
def BindsKey (schema : Schema ρ) (key : SortKey) (bound : BoundKey ρ) : Prop :=
  schema.get? key.field = some bound.accessor ∧ bound.direction = key.direction

theorem bindKey_eq_ok_iff {key : SortKey} {bound : BoundKey ρ} :
    schema.bindKey key = .ok bound ↔ schema.BindsKey key bound := by
  unfold bindKey BindsKey resolve
  obtain ⟨accessor, direction⟩ := bound
  cases schema.get? key.field with
  | none => simp
  | some found => simp [eq_comm]

theorem exists_bindKey_iff {key : SortKey} :
    (∃ bound, schema.bindKey key = .ok bound) ↔ schema.get? key.field ≠ none := by
  simp only [bindKey_eq_ok_iff]
  constructor
  · rintro ⟨bound, known, -⟩ unknown
    cases known.symm.trans unknown
  · intro known
    obtain ⟨accessor, found⟩ := Option.ne_none_iff_exists'.mp known
    exact ⟨⟨accessor, key.direction⟩, found, rfl⟩

theorem bindKey_eq_error_iff {key : SortKey} {fault : Fault} :
    schema.bindKey key = .error fault ↔
      schema.get? key.field = none ∧ fault = .unknownField key.field := by
  unfold bindKey resolve
  cases schema.get? key.field with
  | none => simp [eq_comm]
  | some found => simp

end Schema

namespace Service

/-- `Service.sort` on records that are held in a variable: the keys are bound first, and then the
variable is changed. -/
def sortInPlace (service : Service ρ) (order : List SortKey) :
    ExceptT Fault (StateM (List ρ)) Unit := do
  let keys ← service.schema.bindKeys order
  modify (arrange keys)

theorem run_sortInPlace (service : Service ρ) (records : List ρ) (order : List SortKey) :
    (service.sortInPlace order).run.run records =
      match service.sort records order with
      | .ok sorted => (.ok (), sorted)
      | .error fault => (.error fault, records) := by
  unfold sortInPlace sort
  cases service.schema.bindKeys order <;> rfl

theorem sort_eq_ok_iff {service : Service ρ} {records sorted : List ρ} {order : List SortKey} :
    service.sort records order = .ok sorted ↔
      ∃ keys, List.Forall₂ service.schema.BindsKey order keys ∧
        StablySorted keys records sorted := by
  unfold sort
  rw [bind_eq_ok_iff]
  constructor
  · rintro ⟨keys, binds, h⟩
    obtain rfl := Except.ok.inj h
    refine ⟨keys, ?_, stablySorted_arrange keys records⟩
    exact (mapM_eq_ok_iff.mp binds).imp fun _ _ => Schema.bindKey_eq_ok_iff.mp
  · rintro ⟨keys, binds, stable⟩
    refine ⟨keys, ?_, ?_⟩
    · exact mapM_eq_ok_iff.mpr (binds.imp fun _ _ => Schema.bindKey_eq_ok_iff.mpr)
    · rw [stable.unique (stablySorted_arrange keys records)]
      rfl

theorem sort_eq_ok_iff_arrange {service : Service ρ} {records sorted : List ρ}
    {order : List SortKey} :
    service.sort records order = .ok sorted ↔
      ∃ keys, List.Forall₂ service.schema.BindsKey order keys ∧ sorted = arrange keys records := by
  rw [sort_eq_ok_iff]
  constructor
  · intro ⟨keys, binds, stable⟩
    exact ⟨keys, binds, stable.eq_arrange⟩
  · intro ⟨keys, binds, isArranged⟩
    exact ⟨keys, binds, isArranged ▸ stablySorted_arrange keys records⟩

theorem sort_eq_error_iff {service : Service ρ} {records : List ρ} {order : List SortKey}
    {fault : Fault} :
    service.sort records order = .error fault ↔
      ∃ key, FirstNot (fun key => service.schema.get? key.field ≠ none) order key ∧
        fault = .unknownField key.field := by
  have unbound : service.sort records order = .error fault ↔
      service.schema.bindKeys order = .error fault := by
    unfold sort
    cases service.schema.bindKeys order <;> simp
  rw [unbound, Schema.bindKeys, mapM_eq_error_iff]
  simp only [Schema.exists_bindKey_iff, Schema.bindKey_eq_error_iff]
  constructor
  · rintro ⟨key, first, -, blame⟩
    exact ⟨key, first, blame⟩
  · rintro ⟨key, first, blame⟩
    exact ⟨key, first, not_not.mp first.not, blame⟩

/-- **Sorting is stable, and lexicographic in the keys.** It fails when a field is not known,
blames the first such field and leaves records that are held in a variable as they were. Otherwise
the keys are bound, and the result is the one list of the records in which no record comes after a
greater one and equals are as they came. Which of two records is the greater is decided by the
first key that tells them apart; without any key nothing moves. -/
theorem sort_stable (service : Service ρ) (records : List ρ) (order : List SortKey) :
    (∀ fault, service.sort records order = .error fault ↔
      ∃ key, FirstNot (fun key => service.schema.get? key.field ≠ none) order key ∧
        fault = .unknownField key.field) ∧
    (∀ sorted, service.sort records order = .ok sorted ↔
      ∃ keys, List.Forall₂ service.schema.BindsKey order keys ∧
        StablySorted keys records sorted) ∧
    (∀ keys : List (BoundKey ρ), ∃! sorted, StablySorted keys records sorted) ∧
    (∀ (keys : List (BoundKey ρ)) (left right : ρ) (decided : Ordering), decided ≠ .eq →
      (compareRecords keys left right = decided ↔
        ∃ key, FirstNot (fun key => key.compare left right = .eq) keys key ∧
          key.compare left right = decided)) ∧
    ((service.sortInPlace order).run.run records =
      match service.sort records order with
      | .ok sorted => (.ok (), sorted)
      | .error fault => (.error fault, records)) ∧
    service.sort records [] = .ok records := by
  refine ⟨fun _ => sort_eq_error_iff, fun _ => sort_eq_ok_iff, fun keys => ?_,
    fun _ _ _ _ => compareRecords_eq_iff, run_sortInPlace service records order, ?_⟩
  · exact ⟨_, stablySorted_arrange keys records,
      fun _ stable => stable.unique (stablySorted_arrange keys records)⟩
  · exact sort_eq_ok_iff.mpr ⟨[], .nil, StablySorted.of_nil records⟩

/-- A descending key turns the order round, but equals stay as they came. -/
theorem sort_stable_descending :
    let service : Service (Bool × Nat) :=
      { schema := Schema.empty.insert "done" (.boolean Prod.fst) }
    let records := [(false, 1), (true, 2), (false, 3)]
    let keys : List (BoundKey (Bool × Nat)) := [⟨.boolean Prod.fst, .descending⟩]
    service.sort records [⟨"done", .descending⟩] = .ok [(true, 2), (false, 1), (false, 3)] ∧
      service.sort records [⟨"done", .descending⟩, ⟨"due", .ascending⟩, ⟨"by", .ascending⟩] =
        .error (.unknownField "due") ∧
      Ordering.gt ≠ .eq ∧ compareRecords keys (false, 1) (true, 2) = .gt := by
  intro service records keys
  refine ⟨?_, ?_, by decide, ?_⟩
  · refine ((sort_stable service records _).2.1 _).mpr ⟨keys, .cons ⟨rfl, rfl⟩ .nil, ?_⟩
    exact ⟨[((true, 2), 1), ((false, 1), 0), ((false, 3), 2)], by decide, rfl, by decide⟩
  · refine ((sort_stable service records _).1 _).mpr ⟨⟨"due", .ascending⟩, ?_, rfl⟩
    exact ⟨[⟨"done", .descending⟩], [⟨"by", .ascending⟩], rfl, by decide, by decide⟩
  · refine ((sort_stable service records []).2.2.2.1 keys _ _ .gt (by decide)).mpr ?_
    exact ⟨⟨.boolean Prod.fst, .descending⟩,
      Outcome.firstNot_cons_iff.mpr (.inl ⟨by decide, rfl⟩), rfl⟩

end Service

end Listing
