import Listing.Proofs.Blame

/-!
# `Listing/Proofs/Selection/Conjunction.lean` — filters put together

A filter is a conjunction, so two filters put together should select what the second one selects
from the selection of the first, and it should not matter in which order conditions are written
or how often. Both are true of *what is selected*. Whether anything is selected at all is another
question: a condition that does not hold hides the faults of the conditions behind it, so a filter
may succeed in one order and fail in another.

Going through the conditions of two filters settles a record if the first filter settles it and
the second one does, too, should the record get that far (`settles_append_iff`). That is the
whole law. The second filter must be bound even where the first selects nothing, which agrees with
selecting from no records.

**`selectBy_conjunction`** puts it together: filters in a row, filters repeated, and filters of the
same conditions, which can differ only by the fault of an operand.
-/

set_option autoImplicit false

namespace Listing.Service

open Outcome

variable {ρ : Type} {service : Service ρ} {record : ρ} {records between selected : List ρ}
  {conditions others : List Condition}

/-! ## One record -/

theorem satisfies_append_iff :
    service.Satisfies (conditions ++ others) record ↔
      service.Satisfies conditions record ∧ service.Satisfies others record :=
  List.forall_mem_append

/-- Only the set of the conditions matters, not their order and not how often they are there. -/
theorem satisfies_iff_of_same (same : ∀ condition, condition ∈ conditions ↔ condition ∈ others) :
    service.Satisfies conditions record ↔ service.Satisfies others record := by
  simp only [Satisfies, same]

theorem stopsWith_append_iff {verdict : Except Fault Bool} :
    service.StopsWith (conditions ++ others) verdict record ↔
      service.StopsWith conditions verdict record ∨
        service.Satisfies conditions record ∧ service.StopsWith others verdict record := by
  simp only [StopsWith, firstNot_append_iff, or_and_right, exists_or, and_assoc, exists_and_left]
  exact Iff.rfl

theorem not_satisfies_of_stopsWith {verdict : Except Fault Bool}
    (stops : service.StopsWith conditions verdict record) :
    ¬ service.Satisfies conditions record := by
  intro satisfies
  obtain ⟨condition, first, -⟩ := stops
  exact first.not (satisfies condition first.mem)

/-- The second filter has a say only over the records that satisfy the first. -/
theorem settles_append_iff :
    service.Settles (conditions ++ others) record ↔
      service.Settles conditions record ∧
        (service.Satisfies conditions record → service.Settles others record) := by
  unfold Settles
  rw [satisfies_append_iff, stopsWith_append_iff]
  by_cases satisfies : service.Satisfies conditions record
  · have goesOn : ¬ service.StopsWith conditions (.ok false) record :=
      fun stops => not_satisfies_of_stopsWith stops satisfies
    simp [satisfies, goesOn]
  · simp [satisfies]

/-! ## All records -/

theorem filter_satisfies_append :
    records.filter (service.Satisfies (conditions ++ others)) =
      (records.filter (service.Satisfies conditions)).filter (service.Satisfies others) := by
  rw [List.filter_filter]
  apply List.filter_congr
  intro record _
  simp [satisfies_append_iff, Bool.and_comm]

/-- Two filters at once select what the second one selects from the selection of the first. -/
theorem select_append_eq_ok_iff :
    service.select records (conditions ++ others) = .ok selected ↔
      ∃ between, service.select records conditions = .ok between ∧
        service.select between others = .ok selected := by
  simp only [select_eq_ok_iff, List.forall_mem_append, settles_append_iff,
    filter_satisfies_append]
  constructor
  · intro ⟨⟨binds, bindsOthers⟩, settled, selects⟩
    refine ⟨_, ⟨binds, fun record mem => (settled record mem).1, rfl⟩, bindsOthers, ?_, selects⟩
    intro record mem
    obtain ⟨isRecord, satisfies⟩ := List.mem_filter.mp mem
    exact (settled record isRecord).2 (of_decide_eq_true satisfies)
  · intro ⟨between, ⟨binds, settled, rest⟩, bindsOthers, settledRest, selects⟩
    subst rest
    refine ⟨⟨binds, bindsOthers⟩, fun record mem => ⟨settled record mem, ?_⟩, selects⟩
    intro satisfies
    exact settledRest record (List.mem_filter.mpr ⟨mem, decide_eq_true satisfies⟩)

/-- What a filter has selected satisfies it, so nothing is left for it to do. -/
theorem select_selected (selects : service.select records conditions = .ok selected) :
    service.select selected conditions = .ok selected := by
  obtain ⟨binds, -, rfl⟩ := select_eq_ok_iff.mp selects
  apply select_eq_ok_iff.mpr
  refine ⟨binds, ?_, ?_⟩
  · intro record mem
    exact .inl (of_decide_eq_true (List.mem_filter.mp mem).2)
  · rw [List.filter_filter]
    simp

theorem select_eq_of_same (same : ∀ condition, condition ∈ conditions ↔ condition ∈ others)
    (selects : service.select records conditions = .ok selected)
    (selects' : service.select records others = .ok between) : selected = between := by
  obtain ⟨-, -, rfl⟩ := select_eq_ok_iff.mp selects
  obtain ⟨-, -, rfl⟩ := select_eq_ok_iff.mp selects'
  simp only [satisfies_iff_of_same same]

/-- Where a filter of the same conditions succeeds, binding them cannot be what fails. -/
theorem blamesOperand_of_same {fault : Fault}
    (same : ∀ condition, condition ∈ conditions ↔ condition ∈ others)
    (selects : service.select records conditions = .ok selected)
    (fails : service.select records others = .error fault) : fault.blamesOperand = true := by
  obtain ⟨binds, -, -⟩ := select_eq_ok_iff.mp selects
  rcases raises_of_selectBy Keeping.inPieces_keepInTasks fails with unbound | ⟨-, blames, -⟩
  · have bindsOthers : ∀ condition ∈ others, service.schema.Binds condition :=
      fun condition mem => binds condition ((same condition).mpr mem)
    exact absurd unbound (bindConditions_ne_error bindsOthers)
  · exact blames

/-- **Filters put together are a conjunction.** Selecting by two filters at once is selecting by
the first and then, from what that has selected, by the second; so more conditions select less,
and the same filter twice selects no less than once. Filters of the same conditions, in whatever
order and however often, select the same records if both succeed. If only one of them succeeds,
the other has met an operand that cannot be used; it is not a field or an operator that is not
known. All this holds for any ways of working in parallel, also a different one each time. -/
theorem selectBy_conjunction {run run' run'' : Keeping ρ} (inPieces : run.InPieces)
    (inPieces' : run'.InPieces) (inPieces'' : run''.InPieces) (service : Service ρ)
    (records : List ρ) (conditions others : List Condition) :
    (∀ selected, service.selectBy run records (conditions ++ others) = .ok selected ↔
      ∃ between, service.selectBy run' records conditions = .ok between ∧
        service.selectBy run'' between others = .ok selected) ∧
    (∀ selected, service.selectBy run records (conditions ++ others) = .ok selected →
      ∃ between, service.selectBy run' records conditions = .ok between ∧
        selected.Sublist between) ∧
    (∀ selected, service.selectBy run records conditions = .ok selected →
      service.selectBy run' selected conditions = .ok selected) ∧
    ((∀ condition, condition ∈ conditions ↔ condition ∈ others) →
      (∀ selected selected', service.selectBy run records conditions = .ok selected →
        service.selectBy run' records others = .ok selected' → selected = selected') ∧
      ∀ selected fault, service.selectBy run records conditions = .ok selected →
        service.selectBy run' records others = .error fault → fault.blamesOperand = true) := by
  rw [selectBy_eq_select inPieces, selectBy_eq_select inPieces', selectBy_eq_select inPieces'']
  refine ⟨fun selected => select_append_eq_ok_iff, ?_, fun selected => select_selected, ?_⟩
  · intro selected selects
    obtain ⟨between, first, second⟩ := select_append_eq_ok_iff.mp selects
    exact ⟨between, first, select_sublist second⟩
  · intro same
    exact ⟨fun selected selected' => select_eq_of_same same,
      fun selected fault => blamesOperand_of_same same⟩

/-- Behind a condition that holds of no record a missing operand is hidden, and in front of it it
is not; both filters are put together from the same conditions. -/
theorem selectBy_conjunction_missing_operand :
    let service : Service (Option String) := { schema := Schema.empty.insert "s" (.string id) }
    let present := Condition.ofParts .plain "s" .unrestricted []
    let large := Condition.ofParts .plain "s" (.comparing .greater) ["b"]
    let unusable := Condition.ofParts .plain "s" (.comparing .less) []
    let parallel := (service.withThreshold 0).selectBy (Keeping.lastFirst 1)
    (∀ cut, @Keeping.InPieces (Option String) (Keeping.lastFirst cut)) ∧
      parallel [none, some "c", some "a"] ([present] ++ [large]) = .ok [some "c"] ∧
      (∀ condition, condition ∈ [large, unusable] ↔ condition ∈ [unusable, large, unusable]) ∧
      parallel [none, some "a"] [large, unusable] = .ok [] ∧
      ∃ fault, parallel [none, some "a"] [unusable, large, unusable] = .error fault ∧
        fault.blamesOperand = true := by
  intro service present large unusable parallel
  have inPieces (cut : Nat) : @Keeping.InPieces (Option String) (Keeping.lastFirst cut) :=
    Keeping.inPieces_lastFirst cut
  have same : ∀ condition,
      condition ∈ [large, unusable] ↔ condition ∈ [unusable, large, unusable] := by
    intro condition
    simp only [List.mem_cons, List.not_mem_nil, or_false]
    tauto
  have selects : parallel [none, some "a"] [large, unusable] = .ok [] := by rfl
  have fails : parallel [none, some "a"] [unusable, large, unusable] =
      .error (.operandMissing (.comparing .less)) := by rfl
  refine ⟨inPieces, ?_, same, selects, _, fails, ?_⟩
  · have inRow := selectBy_conjunction (inPieces 1) (inPieces 2) (inPieces 0)
      (service.withThreshold 0) [none, some "c", some "a"] [present] [large]
    exact (inRow.1 _).mpr ⟨[some "c", some "a"], by rfl, by rfl⟩
  · have again := selectBy_conjunction (inPieces 1) (inPieces 1) (inPieces 1)
      (service.withThreshold 0) [none, some "a"] [large, unusable] [unusable, large, unusable]
    exact (again.2.2.2 same).2 _ _ selects fails

end Listing.Service
