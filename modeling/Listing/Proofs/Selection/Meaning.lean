import Listing.Proofs.Selection.Parallel

/-!
# `Listing/Proofs/Selection/Meaning.lean` — what a filter means

A filter means that all of its conditions hold, and this file says so without binding anything
and without going through anything in a particular way.

`Service.verdict` is what one condition says of one record. From it come the three things that a
selection depends on: whether a record satisfies all conditions (`Service.Satisfies`), whether
going through them from left to right settles that without a fault (`Service.Settles`), and what
the first condition says that does not hold (`Service.StopsWith`). The difference between the
first two is the point: conditions behind one that does not hold have no say.

**`selectBy_meaning`** says exactly when a selection succeeds, what it selects, and where its
fault comes from if it does not.
-/

set_option autoImplicit false

namespace Listing

open Outcome

variable {ρ : Type}

/-! ## Binding -/

namespace Schema

variable {schema : Schema ρ} {condition : Condition}

/-- The field of a condition is known, and of a kind for which the operator has a meaning. -/
def Binds (schema : Schema ρ) (condition : Condition) : Prop :=
  ∃ accessor, schema.get? condition.field = some accessor ∧
    accessor.kind.supports condition.operator = true

theorem resolve_eq_ok_iff {name : String} {accessor : Accessor ρ} :
    schema.resolve name = .ok accessor ↔ schema.get? name = some accessor := by
  unfold resolve
  cases schema.get? name with
  | none => simp
  | some found => simp

theorem bindCondition_eq_ok_iff {bound : BoundCondition ρ} :
    schema.bindCondition condition = .ok bound ↔
      schema.get? condition.field = some bound.accessor ∧
        bound.accessor.kind.supports condition.operator = true ∧ bound.condition = condition := by
  unfold bindCondition
  rw [bind_eq_ok_iff]
  constructor
  · rintro ⟨accessor, known, h⟩
    obtain ⟨_, supported, h⟩ := bind_eq_ok_iff.mp h
    obtain rfl := Except.ok.inj h
    unfold checkSupported at supported
    split at supported
    · next has => exact ⟨resolve_eq_ok_iff.mp known, has, rfl⟩
    · cases supported
  · rintro ⟨known, has, rfl⟩
    refine ⟨bound.accessor, resolve_eq_ok_iff.mpr known, ?_⟩
    unfold checkSupported
    rw [if_pos has]
    rfl

theorem binds_iff :
    schema.Binds condition ↔ ∃ bound, schema.bindCondition condition = .ok bound := by
  simp only [bindCondition_eq_ok_iff]
  constructor
  · rintro ⟨accessor, known, has⟩
    exact ⟨⟨accessor, condition⟩, known, has, rfl⟩
  · rintro ⟨bound, known, has, -⟩
    exact ⟨bound.accessor, known, has⟩

theorem exists_bindConditions_iff {conditions : List Condition} :
    (∃ bound, schema.bindConditions conditions = .ok bound) ↔
      ∀ condition ∈ conditions, schema.Binds condition := by
  simp only [binds_iff]
  exact exists_mapM_eq_ok_iff

theorem bindConditions_eq_error_iff {conditions : List Condition} {fault : Fault} :
    schema.bindConditions conditions = .error fault ↔
      ∃ condition, FirstNot schema.Binds conditions condition ∧
        schema.bindCondition condition = .error fault := by
  have binds : schema.Binds =
      fun condition => ∃ bound, schema.bindCondition condition = .ok bound :=
    funext fun condition => propext binds_iff
  rw [binds]
  exact mapM_eq_error_iff

end Schema

/-! ## Verdicts -/

namespace Service

variable {service : Service ρ} {record : ρ} {conditions : List Condition}

/-- What a condition says of a record. -/
def verdict (service : Service ρ) (record : ρ) (condition : Condition) : Except Fault Bool := do
  let accessor ← service.schema.resolve condition.field
  condition.matches service.settings.booleanReading (accessor.extract record)

def Holds (service : Service ρ) (record : ρ) (condition : Condition) : Prop :=
  service.verdict record condition = .ok true

instance : DecidablePred (service.Holds record) := fun condition =>
  inferInstanceAs (Decidable (service.verdict record condition = .ok true))

/-- A record satisfies conditions when each of them holds. -/
def Satisfies (service : Service ρ) (conditions : List Condition) (record : ρ) : Prop :=
  ∀ condition ∈ conditions, service.Holds record condition

instance : DecidablePred (service.Satisfies conditions) := fun record =>
  inferInstanceAs (Decidable (∀ condition ∈ conditions, service.Holds record condition))

/-- The first condition that does not hold of a record gives this verdict. -/
def StopsWith (service : Service ρ) (conditions : List Condition) (verdict : Except Fault Bool)
    (record : ρ) : Prop :=
  ∃ condition, FirstNot (service.Holds record) conditions condition ∧
    service.verdict record condition = verdict

/-- Going through the conditions from left to right comes to one that does not hold, or to the
end, and meets no fault on the way. -/
def Settles (service : Service ρ) (conditions : List Condition) (record : ρ) : Prop :=
  service.Satisfies conditions record ∨ service.StopsWith conditions (.ok false) record

theorem verdict_eq_matches {condition : Condition} {bound : BoundCondition ρ}
    (binds : service.schema.bindCondition condition = .ok bound) (record : ρ) :
    service.verdict record condition = bound.matches service.settings.booleanReading record := by
  obtain ⟨known, -, rfl⟩ := Schema.bindCondition_eq_ok_iff.mp binds
  unfold verdict
  rw [Schema.resolve_eq_ok_iff.mpr known]
  rfl

section Bound

variable {bound : List (BoundCondition ρ)}
  (binds : service.schema.bindConditions conditions = .ok bound)

include binds

/-- By induction on the conditions: the head decides unless it holds. -/
theorem matchesAll_eq_iff {verdict : Except Fault Bool} (ne : verdict ≠ .ok true) :
    matchesAll service.settings.booleanReading record bound = verdict ↔
      service.StopsWith conditions verdict record := by
  unfold StopsWith
  have all := mapM_eq_ok_iff.mp binds
  clear binds
  induction all with
  | nil => simp [matchesAll, not_firstNot_nil, ne.symm]
  | cons head _ ih =>
    rw [exists_firstNot_cons_iff, Holds, matchesAll, verdict_eq_matches head]
    cases BoundCondition.matches _ _ record with
    | error fault => simp
    | ok passes =>
      cases passes with
      | true => simp [ih]
      | false => simp

theorem matchesAll_eq_true_iff :
    matchesAll service.settings.booleanReading record bound = .ok true ↔
      service.Satisfies conditions record := by
  constructor
  · intro passes condition mem
    by_contra fails
    obtain ⟨first, isFirst⟩ := exists_firstNot_iff.mpr ⟨condition, mem, fails⟩
    have stops := (matchesAll_eq_iff binds isFirst.not).mpr ⟨first, isFirst, rfl⟩
    exact isFirst.not (stops.symm.trans passes)
  · intro satisfies
    by_contra ne
    obtain ⟨first, isFirst, -⟩ := (matchesAll_eq_iff binds ne).mp rfl
    exact isFirst.not (satisfies first isFirst.mem)

theorem exists_matchesAll_iff :
    (∃ passes, matchesAll service.settings.booleanReading record bound = .ok passes) ↔
      service.Settles conditions record := by
  unfold Settles
  rw [← matchesAll_eq_true_iff binds, ← matchesAll_eq_iff binds (by simp), Bool.exists_bool]
  exact or_comm

theorem keep_matchesAll_eq_ok_iff {records kept : List ρ} :
    keep (fun record => matchesAll service.settings.booleanReading record bound) records =
        .ok kept ↔
      (∀ record ∈ records, service.Settles conditions record) ∧
        kept = records.filter (service.Satisfies conditions) := by
  simp only [keep_eq_ok_iff, exists_matchesAll_iff binds, matchesAll_eq_true_iff binds]

theorem exists_firstNot_of_keep_matchesAll {records : List ρ} {fault : Fault}
    (fails : keep (fun record => matchesAll service.settings.booleanReading record bound) records =
      .error fault) :
    ∃ record, FirstNot (service.Settles conditions) records record ∧
      service.StopsWith conditions (.error fault) record := by
  obtain ⟨record, first, recordFails⟩ := keep_eq_error_iff.mp fails
  simp only [exists_matchesAll_iff binds] at first
  exact ⟨record, first, (matchesAll_eq_iff binds (by simp)).mp recordFails⟩

end Bound

theorem select_eq_ok_iff {records selected : List ρ} :
    service.select records conditions = .ok selected ↔
      (∀ condition ∈ conditions, service.schema.Binds condition) ∧
        (∀ record ∈ records, service.Settles conditions record) ∧
          selected = records.filter (service.Satisfies conditions) := by
  rw [select_eq, bind_eq_ok_iff, ← Schema.exists_bindConditions_iff]
  constructor
  · rintro ⟨bound, binds, kept⟩
    exact ⟨⟨bound, binds⟩, (keep_matchesAll_eq_ok_iff binds).mp kept⟩
  · rintro ⟨⟨bound, binds⟩, settled⟩
    exact ⟨bound, binds, (keep_matchesAll_eq_ok_iff binds).mpr settled⟩

/-- **A filter means that all of its conditions hold.** A selection succeeds exactly if every
condition can be bound and going through the conditions settles every record; it then selects the
records that satisfy all conditions, in their order. A selection that fails does so with the fault
of the first condition that cannot be bound, or, where all can, with the fault that a record meets
at the first condition that does not hold of it. In parallel this may be any such record; going
through the records in order it is the first. -/
theorem selectBy_meaning {run : Keeping ρ} (inPieces : run.InPieces) (service : Service ρ)
    (records : List ρ) (conditions : List Condition) :
    (∀ selected, service.selectBy run records conditions = .ok selected ↔
      (∀ condition ∈ conditions, service.schema.Binds condition) ∧
        (∀ record ∈ records, service.Settles conditions record) ∧
          selected = records.filter (service.Satisfies conditions)) ∧
    ∀ fault, service.selectBy run records conditions = .error fault →
      (∃ condition, FirstNot service.schema.Binds conditions condition ∧
        service.schema.bindCondition condition = .error fault) ∨
      ((∀ condition ∈ conditions, service.schema.Binds condition) ∧
        (∃ record ∈ records, service.StopsWith conditions (.error fault) record) ∧
        (records.length < service.settings.parallelThreshold.toNat →
          ∃ record, FirstNot (service.Settles conditions) records record ∧
            service.StopsWith conditions (.error fault) record)) := by
  constructor
  · intro selected
    exact (selectBy_eq_ok_iff inPieces).trans select_eq_ok_iff
  · intro fault fails
    rcases bind_eq_error_iff.mp fails with unbound | ⟨bound, binds, fails⟩
    · exact .inl (Schema.bindConditions_eq_error_iff.mp unbound)
    refine .inr ⟨Schema.exists_bindConditions_iff.mp ⟨bound, binds⟩, ?_⟩
    dsimp only at fails
    split at fails
    · obtain ⟨record, first, stops⟩ := exists_firstNot_of_keep_matchesAll binds fails
      exact ⟨⟨record, first.mem, stops⟩, fun _ => ⟨record, first, stops⟩⟩
    · next parallel =>
      obtain ⟨record, mem, recordFails⟩ := inPieces.exists_mem_of_eq_error fails
      have stops := (matchesAll_eq_iff binds (by simp)).mp recordFails
      exact ⟨⟨record, mem, stops⟩, fun few => absurd few parallel⟩

/-- A missing operand harms no absent value, which stops at the condition before it, but the first
present one. -/
theorem selectBy_meaning_missing_operand :
    let service : Service (Option String) := { schema := Schema.empty.insert "s" (.string id) }
    let conditions := [Condition.ofParts .plain "s" .unrestricted [],
      Condition.ofParts .plain "s" (.comparing .less) []]
    let select := (service.withThreshold 1).selectBy (Keeping.lastFirst 1)
    @Keeping.InPieces (Option String) (Keeping.lastFirst 1) ∧
      select [none, none] conditions = .ok [] ∧
      ∃ record ∈ [none, some "a"],
        service.StopsWith conditions (.error (.operandMissing (.comparing .less))) record := by
  intro service conditions select
  have inPieces : @Keeping.InPieces (Option String) (Keeping.lastFirst 1) :=
    Keeping.inPieces_lastFirst 1
  have binds : ∀ condition ∈ conditions, service.schema.Binds condition := by
    intro condition mem
    rcases List.mem_pair.mp mem with rfl | rfl
    · exact ⟨.string id, rfl, rfl⟩
    · exact ⟨.string id, rfl, rfl⟩
  have absent : (service.withThreshold 1).StopsWith conditions (.ok false) none :=
    ⟨_, ⟨[], _, rfl, fun _ mem => absurd mem List.not_mem_nil, by decide⟩, by rfl⟩
  refine ⟨inPieces, ?_, ?_⟩
  · refine ((selectBy_meaning inPieces _ _ conditions).1 []).mpr ⟨binds, ?_, by rfl⟩
    intro record mem
    obtain rfl : record = none := (List.mem_pair.mp mem).elim id id
    exact .inr absent
  · have fails : select [none, some "a"] conditions =
        .error (.operandMissing (.comparing .less)) := by rfl
    rcases (selectBy_meaning inPieces _ _ conditions).2 _ fails with
      ⟨condition, first, -⟩ | ⟨-, stops, -⟩
    · exact absurd (binds condition first.mem) first.not
    · exact stops

end Service

end Listing
