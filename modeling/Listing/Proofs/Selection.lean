import Listing.Proofs.Outcome
import Listing.Service

/-!
# `Listing/Proofs/Selection.lean` — what a selection is made of

`Service.select` chooses between two ways of going through the records, and which one it takes
depends on how many there are. `select_eq` removes the choice: both ways are `keep`, so whatever
is said about `keep` holds of every selection.

`keep_eq_ok_iff` and `keep_eq_error_iff` are what there is to say about `keep`: it looks at every
record, so it succeeds only where the test has no fault at all, and if there is one, it reports
the first.

What is kept is part of what there was, in the order it had there (`select_sublist`).
-/

set_option autoImplicit false

namespace Listing

variable {ρ : Type}

theorem keep_sublist {test : ρ → Except Fault Bool} {records kept : List ρ}
    (h : keep test records = .ok kept) : kept.Sublist records := by
  induction records generalizing kept with
  | nil => rw [← Except.ok.inj h]
  | cons record rest ih =>
    obtain ⟨passes, _, h⟩ := Outcome.bind_eq_ok_iff.mp h
    obtain ⟨others, keptRest, h⟩ := Outcome.bind_eq_ok_iff.mp h
    rw [← Except.ok.inj h]
    cases passes with
    | true => exact (ih keptRest).cons_cons record
    | false => exact (ih keptRest).cons record

theorem keep_eq_ok_iff {test : ρ → Except Fault Bool} {records kept : List ρ} :
    keep test records = .ok kept ↔
      (∀ record ∈ records, ∃ passes, test record = .ok passes) ∧
        kept = records.filter fun record => test record = .ok true := by
  induction records generalizing kept with
  | nil => simp [keep, eq_comm]
  | cons record rest ih =>
    rw [keep, List.forall_mem_cons, List.filter_cons]
    cases test record with
    | error fault => simp
    | ok passes =>
      simp only [Outcome.bind_eq_ok_iff, Except.ok.injEq, exists_eq_left', ih]
      cases passes with
      | true => simp [eq_comm]
      | false => simp [eq_comm]

theorem keep_eq_error_iff {test : ρ → Except Fault Bool} {records : List ρ} {fault : Fault} :
    keep test records = .error fault ↔
      ∃ record,
        Outcome.FirstNot (fun record => ∃ passes, test record = .ok passes) records record ∧
          test record = .error fault := by
  induction records with
  | nil => simp [keep, Outcome.not_firstNot_nil]
  | cons record rest ih =>
    rw [keep, Outcome.exists_firstNot_cons_iff, ← ih]
    cases test record with
    | error found => simp
    | ok passes => cases keep test rest <;> simp

namespace Service

/-- A selection keeps the records that pass the bound conditions, in tasks or not. -/
theorem select_eq (service : Service ρ) (records : List ρ) (conditions : List Condition) :
    service.select records conditions =
      service.schema.bindConditions conditions >>= fun bound =>
        keep (fun record => matchesAll service.settings.booleanReading record bound) records := by
  simp only [select, keepInTasks_eq, ite_self]

theorem select_sublist {service : Service ρ} {records selected : List ρ}
    {conditions : List Condition} (h : service.select records conditions = .ok selected) :
    selected.Sublist records := by
  rw [select_eq] at h
  obtain ⟨bound, _, kept⟩ := Outcome.bind_eq_ok_iff.mp h
  exact keep_sublist kept

end Service

end Listing
