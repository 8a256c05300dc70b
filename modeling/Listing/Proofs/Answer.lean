import Mathlib.Data.List.Perm.Subperm
import Listing.Proofs.Selection

/-!
# `Listing/Proofs/Answer.lean` — the complete answer to a request

A page shows a part of something, and that something has no name in `Service.list`, which computes
it on the way to the page. Here it is `Service.answer`: all records that satisfy the filter of a
request, in its sort order. It does not look at the position and the size of the request, so two
requests that differ only there have the same answer by definition, and `list_eq` splits a request
into the two things that decide it: its window and its answer.

`answer_subperm` bounds the answer by the records: it lists none of them more than once.
-/

set_option autoImplicit false

namespace Listing.Service

variable {ρ : Type}

/-- The complete answer to a request: the records that satisfy its filter, in its order. -/
def answer (service : Service ρ) (records : List ρ) (request : Request) :
    Except Fault (List ρ) := do
  let conditions ← Condition.parseFilter (request.query.getD "")
  let order ← SortKey.parseOrder (request.sort.getD "")
  let selected ← service.select records conditions
  service.sort selected order

/-- A page is what stands of the complete answer in the window of the request. -/
theorem list_eq (service : Service ρ) (records : List ρ) (request : Request) :
    service.list records request =
      request.window service.settings >>= fun window =>
        service.answer records request >>= fun result => .ok (.ofResult result window) := by
  -- The two sides do the same steps in the same order, only grouped differently.
  unfold list answer execute
  simp only [bind_assoc]
  rfl

/-- A request is answered by a page exactly when it has a window and an answer. -/
theorem list_eq_ok_iff {service : Service ρ} {records : List ρ} {request : Request}
    {page : Page ρ} :
    service.list records request = .ok page ↔
      ∃ window result, request.window service.settings = .ok window ∧
        service.answer records request = .ok result ∧ page = .ofResult result window := by
  rw [list_eq, Outcome.bind_eq_ok_iff]
  constructor
  · rintro ⟨window, settled, h⟩
    obtain ⟨result, answered, h⟩ := Outcome.bind_eq_ok_iff.mp h
    exact ⟨window, result, settled, answered, (Except.ok.inj h).symm⟩
  · rintro ⟨window, result, settled, answered, rfl⟩
    exact ⟨window, settled, Outcome.bind_eq_ok_iff.mpr ⟨result, answered, rfl⟩⟩

/-! ## The answer and the records -/

theorem sort_perm {service : Service ρ} {records sorted : List ρ} {order : List SortKey}
    (h : service.sort records order = .ok sorted) : sorted.Perm records := by
  obtain ⟨keys, _, h⟩ := Outcome.bind_eq_ok_iff.mp h
  rw [← Except.ok.inj h]
  exact List.mergeSort_perm records _

/-- The answer lists each record at most as often as it was given. -/
theorem answer_subperm {service : Service ρ} {records result : List ρ} {request : Request}
    (h : service.answer records request = .ok result) : result.Subperm records := by
  obtain ⟨conditions, _, h⟩ := Outcome.bind_eq_ok_iff.mp h
  obtain ⟨order, _, h⟩ := Outcome.bind_eq_ok_iff.mp h
  obtain ⟨selected, selects, sorts⟩ := Outcome.bind_eq_ok_iff.mp h
  exact (sort_perm sorts).subperm.trans (select_sublist selects).subperm

end Listing.Service
