import Listing.Proofs.Arrangement

/-!
# `Listing/Proofs/Arrangement/Chain.lean` — sorting by one key after the other

A reader who sorts a table by clicking on its columns ends with the column that weighs most, and
what the earlier clicks did is still seen among its ties. Sorting by several keys at once is the
same, and the reason is stability.

Numbers, by which `StablySorted` says that sorting is stable, are of no use for this, as the second
sort numbers anew. What carries over from sort to sort is that the records which are tied with a
given one stay in their order (`ties`). A list in order, with its ties as they came, is the sorted
list (`stablySorted_iff_ties`). So two sorts make one under the keys of both, as
`StablySorted.append` says: what is tied under all of the keys is tied under those of each sort, and
what the second sort ties it leaves in the order of the first.

**`sort_chain`** says so of `Service.sort`, with what follows from it.
-/

set_option autoImplicit false

namespace Listing

open Outcome Std

variable {ρ : Type} {keys more : List (BoundKey ρ)} {record first : ρ} {records rest : List ρ}

/-! ## Ties -/

/-- The records that are tied with the given one, in their order. -/
def ties (keys : List (BoundKey ρ)) (record : ρ) (records : List ρ) : List ρ :=
  records.filter fun other => compareRecords keys record other = .eq

theorem mem_of_mem_ties {other : ρ} (mem : other ∈ ties keys record records) : other ∈ records :=
  (List.mem_filter.mp mem).1

theorem mem_ties_self (mem : record ∈ records) : record ∈ ties keys record records :=
  List.mem_filter.mpr ⟨mem, decide_eq_true ReflCmp.compare_self⟩

theorem ties_cons_of_eq (tied : compareRecords keys record first = .eq) :
    ties keys record (first :: rest) = first :: ties keys record rest :=
  List.filter_cons_of_pos (decide_eq_true tied)

theorem ties_cons_of_ne (apart : compareRecords keys record first ≠ .eq) :
    ties keys record (first :: rest) = ties keys record rest :=
  List.filter_cons_of_neg (by rw [decide_eq_true_iff]; exact apart)

theorem mem_iff_of_ties {left right : List ρ}
    (same : ∀ record, ties keys record left = ties keys record right) :
    record ∈ left ↔ record ∈ right := by
  constructor
  · intro mem
    exact mem_of_mem_ties (same record ▸ mem_ties_self mem)
  · intro mem
    exact mem_of_mem_ties ((same record).symm ▸ mem_ties_self mem)

/-- Two lists in order are the same if they have the same ties. By induction on the lists: neither
head can come after the other, so they are tied, and each is the first of its ties. -/
theorem eq_of_ties {left right : List ρ}
    (ordered : left.Pairwise fun earlier later => compareRecords keys earlier later ≠ .gt)
    (ordered' : right.Pairwise fun earlier later => compareRecords keys earlier later ≠ .gt)
    (same : ∀ record, ties keys record left = ties keys record right) : left = right := by
  induction left generalizing right with
  | nil =>
    symm
    rw [List.eq_nil_iff_forall_not_mem]
    intro record mem
    cases (mem_iff_of_ties same).mpr mem
  | cons head tail ih =>
    cases right with
    | nil => cases (mem_iff_of_ties same).mp (List.mem_cons_self : head ∈ head :: tail)
    | cons head' tail' =>
      have notAfter := isLE_head ordered ((mem_iff_of_ties same).mpr List.mem_cons_self)
      have notBefore := isLE_head ordered' ((mem_iff_of_ties same).mp List.mem_cons_self)
      have tied : compareRecords keys head head' = .eq :=
        OrientedCmp.isLE_antisymm notAfter notBefore
      have heads := same head
      rw [ties_cons_of_eq ReflCmp.compare_self, ties_cons_of_eq tied] at heads
      obtain ⟨rfl, -⟩ := List.cons.inj heads
      have sameTail (record : ρ) : ties keys record tail = ties keys record tail' := by
        have both := same record
        by_cases tied : compareRecords keys record head = .eq
        · rw [ties_cons_of_eq tied, ties_cons_of_eq tied] at both
          exact (List.cons.inj both).2
        · rwa [ties_cons_of_ne tied, ties_cons_of_ne tied] at both
      rw [ih ordered.of_cons ordered'.of_cons sameTail]

namespace StablySorted

variable {sorted : List ρ}

/-- Numbers that increase among equals leave the ties in their order: the numbered ties are the
same ones before and after, and in the order of their numbers both times. -/
theorem ties_eq (h : StablySorted keys records sorted) (record : ρ) :
    ties keys record sorted = ties keys record records := by
  obtain ⟨numbered, perm, rfl, ordered⟩ := h
  let tied := fun entry : ρ × Nat => decide (compareRecords keys record entry.1 = .eq)
  have before : (records.zipIdx.filter tied).Pairwise fun a b => a.2 < b.2 :=
    (numbers_lt records).filter tied
  have after : (numbered.filter tied).Pairwise fun a b => a.2 < b.2 := by
    refine List.pairwise_filter.mpr (ordered.imp ?_)
    intro a b inOrder isTied isTied'
    refine inOrder.2 (TransCmp.eq_trans (OrientedCmp.eq_symm ?_) (of_decide_eq_true isTied'))
    exact of_decide_eq_true isTied
  have same : numbered.filter tied = records.zipIdx.filter tied := by
    refine List.Perm.eq_of_pairwise ?_ after before (perm.filter tied)
    intro a b _ _ ab ba
    exact absurd ab (Nat.lt_asymm ba)
  have forgotten := congrArg (List.map Prod.fst) same
  have numbering : records = records.zipIdx.map Prod.fst := (List.zipIdx_map_fst 0 records).symm
  unfold ties
  rw [numbering, List.filter_map, List.filter_map]
  exact forgotten

end StablySorted

/-- A list in order with its ties as they came is the sorted list, and nothing else is. -/
theorem stablySorted_iff_ties {sorted : List ρ} :
    StablySorted keys records sorted ↔
      (sorted.Pairwise fun earlier later => compareRecords keys earlier later ≠ .gt) ∧
        ∀ record, ties keys record sorted = ties keys record records := by
  constructor
  · intro stable
    exact ⟨stable.ordered, stable.ties_eq⟩
  · intro ⟨ordered, same⟩
    have stable := stablySorted_arrange keys records
    have isArranged : sorted = arrange keys records := by
      refine eq_of_ties ordered stable.ordered fun record => ?_
      rw [same, stable.ties_eq]
    exact isArranged ▸ stable

/-! ## Sorting again -/

theorem compareRecords_append (left right : ρ) :
    compareRecords (keys ++ more) left right =
      (compareRecords keys left right).then (compareRecords more left right) := by
  induction keys with
  | nil => rfl
  | cons key keys ih =>
    rw [List.cons_append, compareRecords, compareRecords, ih, Ordering.then_assoc]

theorem ties_append (record : ρ) (records : List ρ) :
    ties (keys ++ more) record records = ties more record (ties keys record records) := by
  unfold ties
  rw [List.filter_filter]
  refine List.filter_congr fun other _ => ?_
  rw [compareRecords_append, ← Bool.decide_and]
  exact decide_eq_decide.mpr (Ordering.then_eq_eq.trans And.comm)

theorem ties_comm (record : ρ) (records : List ρ) :
    ties keys record (ties more record records) = ties more record (ties keys record records) := by
  unfold ties
  rw [List.filter_filter, List.filter_filter]
  exact List.filter_congr fun other _ => Bool.and_comm _ _

namespace StablySorted

variable {between sorted : List ρ}

/-- In the second list, records that its keys tie are in the order of the first. -/
theorem inOrder_append (h : StablySorted more records between)
    (h' : StablySorted keys between sorted) {earlier later : ρ}
    (inOrder : [earlier, later].Sublist sorted) :
    compareRecords (keys ++ more) earlier later ≠ .gt := by
  have notAfter := List.pairwise_iff_forall_sublist.mp h'.ordered inOrder
  rw [compareRecords_append]
  cases decided : compareRecords keys earlier later with
  | lt => exact Ordering.noConfusion
  | gt => exact absurd decided notAfter
  | eq =>
    have among : [earlier, later].Sublist (ties keys earlier sorted) := by
      have both : [earlier, later] = ties keys earlier [earlier, later] := by
        rw [ties_cons_of_eq ReflCmp.compare_self, ties_cons_of_eq decided]
        rfl
      rw [both]
      exact inOrder.filter _
    rw [h'.ties_eq] at among
    exact List.pairwise_iff_forall_sublist.mp h.ordered (among.trans List.filter_sublist)

/-- Sorting twice is sorting by the keys of both, those of the second first. -/
theorem append (h : StablySorted more records between) (h' : StablySorted keys between sorted) :
    StablySorted (keys ++ more) records sorted := by
  refine stablySorted_iff_ties.mpr ⟨?_, fun record => ?_⟩
  · exact List.pairwise_iff_forall_sublist.mpr fun inOrder => h.inOrder_append h' inOrder
  · calc ties (keys ++ more) record sorted
        = ties more record (ties keys record sorted) := ties_append record sorted
      _ = ties more record (ties keys record between) := by rw [h'.ties_eq]
      _ = ties keys record (ties more record between) := ties_comm record between
      _ = ties keys record (ties more record records) := by rw [h.ties_eq]
      _ = ties more record (ties keys record records) := ties_comm record records
      _ = ties (keys ++ more) record records := (ties_append record records).symm

/-- A list in order is sorted already. -/
theorem of_ordered (ordered : records.Pairwise fun earlier later =>
    compareRecords keys earlier later ≠ .gt) : StablySorted keys records records :=
  stablySorted_iff_ties.mpr ⟨ordered, fun _ => rfl⟩

end StablySorted

theorem arrange_append (keys more : List (BoundKey ρ)) (records : List ρ) :
    arrange (keys ++ more) records = arrange keys (arrange more records) :=
  ((stablySorted_arrange more records).append (stablySorted_arrange keys _)).eq_arrange.symm

theorem arrange_arrange (keys : List (BoundKey ρ)) (records : List ρ) :
    arrange keys (arrange keys records) = arrange keys records :=
  (StablySorted.of_ordered (stablySorted_arrange keys records).ordered).eq_arrange.symm

/-- A key has nothing to say any more behind another one with the same accessor: where it is asked,
that one has found a tie. -/
theorem compareRecords_drop (before between after : List (BoundKey ρ)) (key : BoundKey ρ)
    (direction : Direction) :
    compareRecords (before ++ key :: (between ++ ⟨key.accessor, direction⟩ :: after)) =
      compareRecords (before ++ key :: (between ++ after)) := by
  funext left right
  simp only [compareRecords_append, compareRecords]
  cases decided : key.compare left right with
  | lt => rfl
  | gt => rfl
  | eq =>
    have tied : BoundKey.compare ⟨key.accessor, direction⟩ left right = .eq := by
      rw [BoundKey.compare_eq_eq_iff] at decided ⊢
      exact decided
    rw [tied]
    rfl

theorem arrange_drop (before between after : List (BoundKey ρ)) (key : BoundKey ρ)
    (direction : Direction) (records : List ρ) :
    arrange (before ++ key :: (between ++ ⟨key.accessor, direction⟩ :: after)) records =
      arrange (before ++ key :: (between ++ after)) records := by
  unfold arrange
  rw [compareRecords_drop]

/-! ## Sorting by fields -/

theorem Schema.exists_bindsKeys_iff {schema : Schema ρ} {order : List SortKey} :
    (∃ keys, List.Forall₂ schema.BindsKey order keys) ↔
      ∀ key ∈ order, schema.get? key.field ≠ none := by
  have bound : (∃ keys, List.Forall₂ schema.BindsKey order keys) ↔
      ∃ keys, order.mapM schema.bindKey = .ok keys := by
    simp only [mapM_eq_ok_iff, bindKey_eq_ok_iff]
  rw [bound, exists_mapM_eq_ok_iff]
  exact forall₂_congr fun key _ => exists_bindKey_iff

namespace Service

variable {service : Service ρ} {order : List SortKey} {sorted : List ρ}

/-- Sorting succeeds when all fields are known. -/
theorem exists_sort_iff :
    (∃ sorted, service.sort records order = .ok sorted) ↔
      ∀ key ∈ order, service.schema.get? key.field ≠ none := by
  rw [← Schema.exists_bindsKeys_iff]
  simp only [sort_eq_ok_iff_arrange]
  constructor
  · intro ⟨_, keys, binds, _⟩
    exact ⟨keys, binds⟩
  · intro ⟨keys, binds⟩
    exact ⟨_, keys, binds, rfl⟩

/-- One more key in front is one more sort at the end. -/
theorem sort_cons_eq_ok_iff {key : SortKey} :
    service.sort records (key :: order) = .ok sorted ↔
      (service.sort records order >>= fun between => service.sort between [key]) = .ok sorted := by
  simp only [bind_eq_ok_iff, sort_eq_ok_iff_arrange]
  constructor
  · rintro ⟨keys, binds, rfl⟩
    obtain ⟨bound, rest, head, tail, rfl⟩ := List.forall₂_cons_left_iff.mp binds
    refine ⟨_, ⟨rest, tail, rfl⟩, [bound], .cons head .nil, ?_⟩
    exact arrange_append [bound] rest records
  · rintro ⟨between, ⟨rest, tail, rfl⟩, keys, binds, rfl⟩
    obtain ⟨bound, none, head, empty, rfl⟩ := List.forall₂_cons_left_iff.mp binds
    obtain rfl := List.forall₂_nil_left_iff.mp empty
    exact ⟨bound :: rest, .cons head tail, (arrange_append [bound] rest records).symm⟩

theorem sort_cons_sameResult (service : Service ρ) (records : List ρ) (key : SortKey)
    (order : List SortKey) :
    SameResult (service.sort records (key :: order))
      (service.sort records order >>= fun between => service.sort between [key]) :=
  .of_eq_ok_iff fun _ => sort_cons_eq_ok_iff

/-- By induction on the keys: the last one is sorted by first. -/
theorem sort_foldr_sameResult (service : Service ρ) (records : List ρ) (order : List SortKey) :
    SameResult (service.sort records order)
      (order.foldrM (fun key sorted => service.sort sorted [key]) records) := by
  induction order with
  | nil =>
    have unsorted : service.sort records [] = .ok records :=
      sort_eq_ok_iff.mpr ⟨[], .nil, StablySorted.of_nil records⟩
    rw [unsorted]
    exact .refl _
  | cons key order ih =>
    rw [List.foldrM_cons]
    exact (sort_cons_sameResult service records key order).trans (ih.bind fun _ => .refl _)

theorem sort_sort (service : Service ρ) (records : List ρ) (order : List SortKey) :
    (service.sort records order >>= fun sorted => service.sort sorted order) =
      service.sort records order := by
  cases sorts : service.sort records order with
  | error fault => rfl
  | ok sorted =>
    obtain ⟨keys, binds, rfl⟩ := sort_eq_ok_iff_arrange.mp sorts
    exact sort_eq_ok_iff_arrange.mpr ⟨keys, binds, (arrange_arrange keys records).symm⟩

/-- A later key of the same field can be left out. It is not what a failure is blamed on, because
the field is known or an earlier key is to blame. -/
theorem sort_drop (service : Service ρ) (records : List ρ) (before between after : List SortKey)
    {key again : SortKey}
    (same : service.schema.get? again.field = service.schema.get? key.field) :
    service.sort records (before ++ key :: (between ++ again :: after)) =
      service.sort records (before ++ key :: (between ++ after)) := by
  unfold sort Schema.bindKeys
  simp only [List.mapM_append, List.mapM_cons, bind_assoc, pure_bind]
  cases known : service.schema.get? key.field with
  | none =>
    have fails : service.schema.bindKey key = .error (.unknownField key.field) :=
      Schema.bindKey_eq_error_iff.mpr ⟨known, rfl⟩
    simp only [fails, error_bind]
  | some accessor =>
    have binds : service.schema.bindKey key = .ok ⟨accessor, key.direction⟩ :=
      Schema.bindKey_eq_ok_iff.mpr ⟨known, rfl⟩
    have binds' : service.schema.bindKey again = .ok ⟨accessor, again.direction⟩ :=
      Schema.bindKey_eq_ok_iff.mpr ⟨same.trans known, rfl⟩
    simp only [binds, binds', ok_bind,
      arrange_drop _ _ _ ⟨accessor, key.direction⟩ again.direction]

/-- **Sorting by several keys is sorting by one key after the other**, from the last to the first.
It succeeds when all fields are known, and then one more key in front is one more sort at the end,
so that a whole sort order is gone through key by key. Sorting again changes nothing, and no more
does a key of a field by which an earlier key sorts already, in whatever direction. -/
theorem sort_chain (service : Service ρ) (records : List ρ) :
    (∀ order, (∃ sorted, service.sort records order = .ok sorted) ↔
      ∀ key ∈ order, service.schema.get? key.field ≠ none) ∧
    (∀ key order, SameResult (service.sort records (key :: order))
      (service.sort records order >>= fun between => service.sort between [key])) ∧
    (∀ order, SameResult (service.sort records order)
      (order.foldrM (fun key sorted => service.sort sorted [key]) records)) ∧
    (∀ order, (service.sort records order >>= fun sorted => service.sort sorted order) =
      service.sort records order) ∧
    ∀ (before between after : List SortKey) (key again : SortKey),
      service.schema.get? again.field = service.schema.get? key.field →
      service.sort records (before ++ key :: (between ++ again :: after)) =
        service.sort records (before ++ key :: (between ++ after)) := by
  refine ⟨fun _ => exists_sort_iff, ?_, ?_, ?_, ?_⟩
  · exact sort_cons_sameResult service records
  · exact sort_foldr_sameResult service records
  · exact sort_sort service records
  · intro before between after key again same
    exact sort_drop service records before between after same

/-- A field in another spelling is the same field, and no use as a third key. -/
theorem sort_chain_other_spelling :
    let schema := (Schema.empty.insert "done" (.boolean Prod.fst)).insert "n" (.integer Prod.snd)
    let service : Service (Bool × Int64) := { schema }
    let records := [(false, 2), (true, 1), (false, 1)]
    schema.get? "DONE" = schema.get? "done" ∧
      service.sort records [⟨"done", .descending⟩, ⟨"n", .ascending⟩, ⟨"DONE", .ascending⟩] =
        .ok [(true, 1), (false, 1), (false, 2)] := by
  intro schema service records
  let keys : List (BoundKey (Bool × Int64)) :=
    [⟨.boolean Prod.fst, .descending⟩, ⟨.integer Prod.snd, .ascending⟩]
  have same : schema.get? "DONE" = schema.get? "done" := by rfl
  have stable : StablySorted keys records [(true, 1), (false, 1), (false, 2)] :=
    ⟨[((true, 1), 1), ((false, 1), 2), ((false, 2), 0)], by decide, rfl, by decide⟩
  have sorts : service.sort records [⟨"done", .descending⟩, ⟨"n", .ascending⟩] =
      .ok [(true, 1), (false, 1), (false, 2)] :=
    sort_eq_ok_iff.mpr ⟨keys, .cons ⟨rfl, rfl⟩ (.cons ⟨rfl, rfl⟩ .nil), stable⟩
  obtain ⟨-, -, -, -, drop⟩ := sort_chain service records
  have dropped := drop [] [⟨"n", .ascending⟩] [] ⟨"done", .descending⟩ ⟨"DONE", .ascending⟩ same
  exact ⟨same, dropped.trans sorts⟩

end Service

end Listing
