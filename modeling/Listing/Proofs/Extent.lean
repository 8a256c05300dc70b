import Listing.Proofs.Answer
import Listing.Proofs.Blame
import Listing.Proofs.Range
import Listing.Proofs.Window

/-!
# `Listing/Proofs/Extent.lean` — what a page shows, for every window

A window that is made from a request is never empty and never reaches beyond the words, but
`Service.execute` takes any window: one of size 0, one that begins behind the end of the result, one
whose position and size add up to more than the largest word. None of these is special. A page shows
the elements that stand at the places that its window covers, where the places and the end of the
window are numbers (`Window.Covers`), and it says that there is more when the result goes on behind
that end. The end that a page is cut with stops at the largest word, but no result is longer than
that, so it makes no difference.

**`executeBy_extent`** says so of pages that come of filtering and sorting.
-/

set_option autoImplicit false

namespace Listing

/-! ## Windows -/

namespace Window

variable {α : Type}

/-- A place in a list stands in the window. -/
def Covers (window : Window) (place : Nat) : Prop :=
  window.position.toNat ≤ place ∧ place < window.position.toNat + window.size.toNat

instance (window : Window) : DecidablePred window.Covers := fun place =>
  inferInstanceAs (Decidable (window.position.toNat ≤ place ∧
    place < window.position.toNat + window.size.toNat))

theorem length_slice (window : Window) (items : List α) :
    (window.slice items).length =
      min window.size.toNat (items.length - min window.position.toNat items.length) := by
  rw [slice, List.length_take, List.length_drop]
  omega

/-- A list falls into three parts, and it is the middle one whose places the window covers. -/
theorem slice_eq_covered (window : Window) (items : List α) :
    window.slice items =
      (items.zipIdx.filter fun item => window.Covers item.2).map Prod.fst := by
  let before := items.take window.position.toNat
  let rest := items.drop window.position.toNat
  let after := rest.drop window.size.toNat
  have parts : items = before ++ window.slice items ++ after := by
    rw [List.append_assoc, slice, List.take_append_drop, List.take_append_drop]
  have beforeLength : before.length = min window.position.toNat items.length := List.length_take
  have afterLength : after.length = items.length - window.position.toNat - window.size.toNat := by
    rw [List.length_drop, List.length_drop]
  have sliceLength := length_slice window items
  -- Each part is numbered on from where the one before it ends.
  have numbered : items.zipIdx =
      before.zipIdx ++ (window.slice items).zipIdx before.length ++
        after.zipIdx (before.length + (window.slice items).length) := by
    conv => lhs; rw [parts]
    rw [List.zipIdx_append, List.zipIdx_append, List.length_append, Nat.zero_add, Nat.zero_add]
  have inside : ∀ item ∈ (window.slice items).zipIdx before.length, window.Covers item.2 := by
    intro item mem
    obtain ⟨lower, upper, -⟩ := List.mem_zipIdx mem
    unfold Covers
    omega
  have outside : ∀ item ∈ before.zipIdx ++ after.zipIdx (before.length +
      (window.slice items).length), ¬ window.Covers item.2 := by
    intro item mem
    unfold Covers
    rcases List.mem_append.mp mem with mem | mem
    · obtain ⟨-, upper, -⟩ := List.mem_zipIdx mem
      omega
    · obtain ⟨lower, upper, -⟩ := List.mem_zipIdx mem
      omega
  have covered := filter_eq_run (p := fun item : α × Nat => window.Covers item.2) inside outside
  rw [numbered, covered, List.zipIdx_map_fst]

end Window

/-! ## Pages -/

namespace Page

variable {α : Type} {result : List α} {window : Window}

/-- Behind a page that is not full there is nothing. -/
theorem length_items_of_hasMore (few : result.length < 2 ^ 64)
    (more : (ofResult result window).hasMore = true) :
    (ofResult result window).items.length = window.size.toNat := by
  have ends := (hasMore_ofResult_iff few).mp more
  show (window.slice result).length = _
  rw [Window.length_slice]
  omega

end Page

/-! ## Services -/

namespace Service

variable {ρ : Type}

/-- The result that pages are cut from has as many elements as there are records that satisfy all
conditions. -/
theorem length_sorted {run : Keeping ρ} (inPieces : run.InPieces) {service : Service ρ}
    {records selected sorted : List ρ} {conditions : List Condition} {order : List SortKey}
    (selects : service.selectBy run records conditions = .ok selected)
    (sorts : service.sort selected order = .ok sorted) :
    sorted.length = records.countP (service.Satisfies conditions) := by
  obtain ⟨-, -, rfl⟩ := select_eq_ok_iff.mp ((selectBy_eq_ok_iff inPieces).mp selects)
  have perm := sort_perm sorts
  rw [perm.length_eq, List.countP_eq_length_filter]

/-- **A page shows exactly what its window covers.** Let records be selected and sorted without a
fault. Then every window has a page, whatever its position and its size. The page shows the elements
of the sorted list at the places that the window covers, in their order; it counts the records that
satisfy the conditions, and says that there is more exactly if the window ends before the last of
them. A page behind which there is more is full. -/
theorem executeBy_extent {run : Keeping ρ} (inPieces : run.InPieces) (service : Service ρ)
    {records selected sorted : List ρ} {conditions : List Condition} {order : List SortKey}
    (few : records.length < 2 ^ 64)
    (selects : service.selectBy run records conditions = .ok selected)
    (sorts : service.sort selected order = .ok sorted) (window : Window) :
    ∃ page, service.executeBy run records conditions order window = .ok page ∧
      page.window = window ∧
      page.total = records.countP (service.Satisfies conditions) ∧
      page.items = (sorted.zipIdx.filter fun item => window.Covers item.2).map Prod.fst ∧
      page.items.length =
        min window.size.toNat (page.total - min window.position.toNat page.total) ∧
      (page.hasMore = true ↔ window.position.toNat + window.size.toNat < page.total) ∧
      (page.hasMore = true → page.items.length = window.size.toNat) := by
  have total := length_sorted inPieces selects sorts
  have few : sorted.length < 2 ^ 64 := by
    rw [total]
    exact Nat.lt_of_le_of_lt List.countP_le_length few
  refine ⟨.ofResult sorted window, ?_, rfl, total, window.slice_eq_covered sorted,
    window.length_slice sorted, Page.hasMore_ofResult_iff few, Page.length_items_of_hasMore few⟩
  exact Outcome.bind_eq_ok_iff.mpr
    ⟨selected, selects, Outcome.bind_eq_ok_iff.mpr ⟨sorted, sorts, rfl⟩⟩

/-- Three of four numbers, through a window without a place in it, and through one that reaches
beyond the largest word. -/
theorem executeBy_extent_edges :
    let service : Service Int64 := { schema := Schema.empty.insert "n" (.integer fun n => n) }
    let condition := Condition.ofParts .plain "n" (.comparing .greater) ["2"]
    let seen := service.executeBy keepInTasks [9, 7, 1, 5] [condition] [⟨"n", .descending⟩]
    (∃ page, seen ⟨1, 0⟩ = .ok page ∧ page.items = [] ∧ page.hasMore = true) ∧
      ∃ page, seen ⟨2, 0xFFFFFFFFFFFFFFFF⟩ = .ok page ∧ page.items = [5] ∧ page.total = 3 ∧
        page.hasMore = false := by
  intro service condition seen
  have selects : service.selectBy keepInTasks [9, 7, 1, 5] [condition] = .ok [9, 7, 5] := by
    rw [selectBy_keepInTasks]
    rfl
  let keys : List (BoundKey Int64) := [⟨.integer fun n => n, .descending⟩]
  have descends : List.Pairwise
      (fun left right => (compareRecords keys left right).isLE = true) [9, 7, 5] := by decide
  have sorts : service.sort [9, 7, 5] [⟨"n", .descending⟩] = .ok [9, 7, 5] := by
    show Except.ok (arrange keys [9, 7, 5]) = _
    rw [arrange, List.mergeSort_of_pairwise descends]
  have count := length_sorted Keeping.inPieces_keepInTasks selects sorts
  have extent := executeBy_extent Keeping.inPieces_keepInTasks service (by decide) selects sorts
  obtain ⟨empty, shown, -, total, items, -, more, -⟩ := extent ⟨1, 0⟩
  obtain ⟨last, shown', -, total', items', -, more', -⟩ := extent ⟨2, 0xFFFFFFFFFFFFFFFF⟩
  rw [← count] at total total'
  rw [total] at more
  rw [total'] at more'
  refine ⟨⟨empty, shown, items, more.mpr (by decide)⟩, last, shown', items', total', ?_⟩
  exact Bool.eq_false_iff.mpr fun beyond => absurd (more'.mp beyond) (by decide)

end Service

end Listing
