import Listing.Proofs.Arrangement
import Listing.Proofs.Selection.Agreement

/-!
# `Listing/Proofs/Blame.lean` — where the fault of a request comes from

A request can fail in six places: its window, the text of its filter, the text of its sort order,
the binding of the conditions, the records, and the binding of the sort keys. Only one of them
looks at records, and there nothing is left to go wrong but an operand: that is what the check of
operators at binding is for. The part of a request that is settled without a field or a record is
its `Plan`.

**`fault_known_without_records`** says that all other faults are found on no records at all.

The faults of operands are found on records only, and so not always: an operand that cannot be
used does no harm where no record gets as far as to be compared with it.
**`unusable_operand_noticed_iff`** says exactly which records do. Everything else that is wrong
with a clause is refused at once, so this is a surprise; `unusable_operand_unnoticed` is a request
that lists three sets of records without complaint.
-/

set_option autoImplicit false

namespace Listing

open Outcome

/-! ## Plans -/

/-- What a request asks for, once it is read. -/
structure Plan where
  window : Window
  conditions : List Condition
  order : List SortKey

/-- The fault is that of the request or of an operand in it, and not of what the host has set up. -/
def Fault.ConcernsRequest (fault : Fault) : Prop :=
  fault.isValidation = true ∧ (∀ cause, fault ≠ .badSettings cause) ∧
    ∀ cause, fault ≠ .badFile cause

namespace Fault

variable {fault : Fault}

theorem concernsRequest_iff : fault.ConcernsRequest ↔ fault.isValidation = true := by
  refine ⟨And.left, fun validation => ⟨validation, ?_, ?_⟩⟩
  · rintro cause rfl
    cases validation
  · rintro cause rfl
    cases validation

theorem isValidation_of_blamesOperand (blames : fault.blamesOperand = true) :
    fault.isValidation = true := by
  cases fault <;> first | rfl | cases blames

end Fault

namespace Service

variable {ρ : Type}

/-- Reads a request: all that is done before a field or a record is looked at. -/
def plan (service : Service ρ) (request : Request) : Except Fault Plan := do
  let window ← request.window service.settings
  let conditions ← Condition.parseFilter (request.query.getD "")
  let order ← SortKey.parseOrder (request.sort.getD "")
  return { window, conditions, order }

/-- `Service.execute`, working in parallel in the given way. -/
def executeBy (run : Keeping ρ) (service : Service ρ) (records : List ρ)
    (conditions : List Condition) (order : List SortKey) (window : Window) :
    Except Fault (Page ρ) := do
  let selected ← service.selectBy run records conditions
  let sorted ← service.sort selected order
  return .ofResult sorted window

theorem executeBy_keepInTasks (service : Service ρ) :
    service.executeBy keepInTasks = service.execute :=
  rfl

theorem listBy_eq (run : Keeping ρ) (service : Service ρ) (records : List ρ) (request : Request) :
    service.listBy run records request =
      service.plan request >>= fun plan =>
        service.executeBy run records plan.conditions plan.order plan.window := by
  unfold listBy plan executeBy
  simp only [bind_assoc]
  rfl

section

variable {run : Keeping ρ} {service : Service ρ} {records selected : List ρ} {request : Request}
  {plan : Plan} {conditions : List Condition} {order : List SortKey} {window : Window}
  {fault : Fault}

theorem plan_eq_ok_iff :
    service.plan request = .ok ⟨window, conditions, order⟩ ↔
      request.window service.settings = .ok window ∧
        Condition.parseFilter (request.query.getD "") = .ok conditions ∧
        SortKey.parseOrder (request.sort.getD "") = .ok order := by
  unfold plan
  simp [bind_eq_ok_iff]

theorem listBy_of_plan (planned : service.plan request = .ok plan) :
    service.listBy run records request =
      service.executeBy run records plan.conditions plan.order plan.window := by
  rw [listBy_eq, planned]
  rfl

theorem executeBy_eq_error_iff :
    service.executeBy run records conditions order window = .error fault ↔
      service.selectBy run records conditions = .error fault ∨
        ∃ selected, service.selectBy run records conditions = .ok selected ∧
          service.sort selected order = .error fault := by
  unfold executeBy
  simp [bind_eq_error_iff]

/-- Whether a sort order can be bound has nothing to do with what is sorted. -/
theorem sort_eq_error_of_unsorted (unsorted : service.sort records order = .error fault)
    (others : List ρ) : service.sort others order = .error fault :=
  sort_eq_error_iff.mpr (sort_eq_error_iff.mp unsorted)

/-! ## Faults of records -/

/-- Some record meets the fault at the first condition that does not hold of it, and it is the
fault of an operand. -/
def Raises (service : Service ρ) (conditions : List Condition) (records : List ρ)
    (fault : Fault) : Prop :=
  fault.blamesOperand = true ∧
    ∃ record ∈ records, service.StopsWith conditions (.error fault) record

theorem raises_of_selectBy (inPieces : run.InPieces)
    (fails : service.selectBy run records conditions = .error fault) :
    service.schema.bindConditions conditions = .error fault ∨
      (∀ condition ∈ conditions, service.schema.Binds condition) ∧
        service.Raises conditions records fault := by
  rcases exists_stopsWith_of_selectBy inPieces fails with unbound | ⟨binds, record, mem, stops⟩
  · exact .inl unbound
  · obtain ⟨condition, first, verdict⟩ := stops
    have blames := blamesOperand_of_verdict (binds condition first.mem) verdict
    exact .inr ⟨binds, blames, record, mem, condition, first, verdict⟩

/-- No records raise no fault, so a selection from none can only fail at binding. -/
theorem unbound_of_selectBy_nil (inPieces : run.InPieces)
    (fails : service.selectBy run [] conditions = .error fault) :
    service.schema.bindConditions conditions = .error fault := by
  rcases raises_of_selectBy inPieces fails with unbound | ⟨-, -, record, mem, -⟩
  · exact unbound
  · cases mem

/-! ## Faults concern the request -/

theorem isValidation_of_window {settings : Settings}
    (fails : request.window settings = .error fault) : fault.isValidation = true := by
  unfold Request.window Window.ofRequest at fails
  split at fails
  · cases fails; rfl
  · split at fails
    · cases fails; rfl
    · cases fails

theorem isValidation_of_parseFilter {filter : String}
    (fails : Condition.parseFilter filter = .error fault) : fault.isValidation = true := by
  obtain ⟨clause, -, unreadable⟩ := mapM_eq_error_iff.mp fails
  obtain ⟨cause, -, rfl⟩ := mapError_eq_error_iff.mp unreadable
  rfl

theorem isValidation_of_parseOrder {text : String}
    (fails : SortKey.parseOrder text = .error fault) : fault.isValidation = true := by
  obtain ⟨clause, -, unreadable⟩ := mapM_eq_error_iff.mp fails
  obtain ⟨cause, -, rfl⟩ := mapError_eq_error_iff.mp unreadable
  rfl

theorem isValidation_of_plan (fails : service.plan request = .error fault) :
    fault.isValidation = true := by
  rcases bind_eq_error_iff.mp fails with window | ⟨_, -, fails⟩
  · exact isValidation_of_window window
  rcases bind_eq_error_iff.mp fails with filter | ⟨_, -, fails⟩
  · exact isValidation_of_parseFilter filter
  rcases bind_eq_error_iff.mp fails with order | ⟨_, -, done⟩
  · exact isValidation_of_parseOrder order
  · cases done

theorem isValidation_of_bindConditions
    (fails : service.schema.bindConditions conditions = .error fault) :
    fault.isValidation = true := by
  obtain ⟨condition, -, unbound⟩ := Schema.bindConditions_eq_error_iff.mp fails
  rcases bind_eq_error_iff.mp unbound with unknown | ⟨accessor, -, fails⟩
  · unfold Schema.resolve at unknown
    split at unknown
    · cases unknown
    · cases unknown; rfl
  rcases bind_eq_error_iff.mp fails with unsupported | ⟨_, -, done⟩
  · rw [(checkSupported_eq_error_iff.mp unsupported).2]
    rfl
  · cases done

theorem isValidation_of_selectBy (inPieces : run.InPieces)
    (fails : service.selectBy run records conditions = .error fault) :
    fault.isValidation = true := by
  rcases raises_of_selectBy inPieces fails with unbound | ⟨-, blames, -⟩
  · exact isValidation_of_bindConditions unbound
  · exact Fault.isValidation_of_blamesOperand blames

theorem isValidation_of_sort (fails : service.sort records order = .error fault) :
    fault.isValidation = true := by
  obtain ⟨key, -, rfl⟩ := sort_eq_error_iff.mp fails
  rfl

theorem isValidation_of_executeBy (inPieces : run.InPieces)
    (fails : service.executeBy run records conditions order window = .error fault) :
    fault.isValidation = true := by
  rcases executeBy_eq_error_iff.mp fails with unselected | ⟨_, -, unsorted⟩
  · exact isValidation_of_selectBy inPieces unselected
  · exact isValidation_of_sort unsorted

theorem isValidation_of_listBy (inPieces : run.InPieces)
    (fails : service.listBy run records request = .error fault) : fault.isValidation = true := by
  rw [listBy_eq] at fails
  rcases bind_eq_error_iff.mp fails with unplanned | ⟨_, -, fails⟩
  · exact isValidation_of_plan unplanned
  · exact isValidation_of_executeBy inPieces fails

end

/-- **All faults but those of operands are known without any record.** A request that fails on no
records fails on all of them, with the same fault; only where the fault is an unknown sort field
may records raise the fault of an operand first. A request that succeeds on no records fails on
others only with the fault of an operand, at a condition that a record comes to. Whatever fails,
the fault concerns the request and not the settings or a file. -/
theorem fault_known_without_records {run : Keeping ρ} (inPieces : run.InPieces)
    (service : Service ρ) (request : Request) :
    (∀ fault, service.listBy run [] request = .error fault → ∀ records,
      service.listBy run records request = .error fault ∨
        ∃ plan found, service.plan request = .ok plan ∧
          (∀ condition ∈ plan.conditions, service.schema.Binds condition) ∧
          (∃ key, FirstNot (fun key => service.schema.get? key.field ≠ none) plan.order key ∧
            fault = .unknownField key.field) ∧
          service.listBy run records request = .error found ∧
          service.Raises plan.conditions records found) ∧
    (∀ page, service.listBy run [] request = .ok page → ∀ records fault,
      service.listBy run records request = .error fault →
        ∃ plan, service.plan request = .ok plan ∧
          service.Raises plan.conditions records fault) ∧
    ∀ records conditions order window fault,
      service.listBy run records request = .error fault ∨
        service.selectBy run records conditions = .error fault ∨
        service.sort records order = .error fault ∨
        service.executeBy run records conditions order window = .error fault →
      fault.ConcernsRequest := by
  refine ⟨?_, ?_, ?_⟩
  · intro fault fails records
    rw [listBy_eq] at fails
    rcases bind_eq_error_iff.mp fails with unplanned | ⟨plan, planned, fails⟩
    · left
      rw [listBy_eq, unplanned]
      rfl
    rw [listBy_of_plan planned]
    rcases executeBy_eq_error_iff.mp fails with unselected | ⟨nothing, selects, unsorted⟩
    · have unbound := unbound_of_selectBy_nil inPieces unselected
      exact .inl (executeBy_eq_error_iff.mpr (.inl (selectBy_of_unbound unbound records)))
    -- The sort order cannot be bound, so it only matters which fault is met first.
    cases outcome : service.selectBy run records plan.conditions with
    | ok selected =>
      exact .inl (executeBy_eq_error_iff.mpr
        (.inr ⟨selected, outcome, sort_eq_error_of_unsorted unsorted selected⟩))
    | error found =>
      rcases raises_of_selectBy inPieces outcome with unbound | ⟨binds, raises⟩
      · cases selects.symm.trans (selectBy_of_unbound unbound [])
      · exact .inr ⟨plan, found, planned, binds, sort_eq_error_iff.mp unsorted,
          executeBy_eq_error_iff.mpr (.inl outcome), raises⟩
  · intro page listed records fault fails
    rw [listBy_eq] at listed
    obtain ⟨plan, planned, executed⟩ := bind_eq_ok_iff.mp listed
    obtain ⟨nothing, selects, executed⟩ := bind_eq_ok_iff.mp executed
    obtain ⟨sorted, sorts, -⟩ := bind_eq_ok_iff.mp executed
    refine ⟨plan, planned, ?_⟩
    rw [listBy_of_plan planned] at fails
    rcases executeBy_eq_error_iff.mp fails with unselected | ⟨selected, -, unsorted⟩
    · rcases raises_of_selectBy inPieces unselected with unbound | ⟨-, raises⟩
      · cases selects.symm.trans (selectBy_of_unbound unbound [])
      · exact raises
    · cases sorts.symm.trans (sort_eq_error_of_unsorted unsorted nothing)
  · intro records conditions order window fault fails
    rw [Fault.concernsRequest_iff]
    rcases fails with fails | fails | fails | fails
    · exact isValidation_of_listBy inPieces fails
    · exact isValidation_of_selectBy inPieces fails
    · exact isValidation_of_sort fails
    · exact isValidation_of_executeBy inPieces fails

/-- On no records the unknown sort field is reported, and on others the operand, which they come
to first. Without the sort field only the operand is left. -/
theorem fault_known_without_records_tagged_operand :
    let service : Service (Option String) := { schema := Schema.empty.insert "s" (.string id) }
    let request : Request := { query := some "s().lessThan(:integer:1)", sort := some "t" }
    let unsorted : Request := { request with sort := none }
    let tagged : Fault := .badOperand .string ":integer:1" .foreignTag
    @Keeping.InPieces (Option String) keepInTasks ∧
      service.list [] request = .error (.unknownField "t") ∧
      service.list [some "a"] request = .error tagged ∧
      (∃ plan, service.plan request = .ok plan ∧
        (∀ condition ∈ plan.conditions, service.schema.Binds condition) ∧
        service.Raises plan.conditions [some "a"] tagged) ∧
      (∃ page, service.list [] unsorted = .ok page) ∧
      service.list [none, some "a"] unsorted = .error tagged ∧
      (∃ plan, service.plan unsorted = .ok plan ∧
        service.Raises plan.conditions [none, some "a"] tagged) ∧
      tagged.ConcernsRequest := by
  intro service request unsorted tagged
  have inTasks : @Keeping.InPieces (Option String) keepInTasks := Keeping.inPieces_keepInTasks
  rw [← listBy_keepInTasks]
  let condition : Condition :=
    ⟨.plain, "s", .comparing .less, [":integer:1"], "s().lessThan(:integer:1)"⟩
  have parsed : Condition.parseFilter "s().lessThan(:integer:1)" = .ok [condition] := by rfl
  have ordered : SortKey.parseOrder "t" = .ok [⟨"t", .ascending⟩] := by rfl
  obtain ⟨window, settled⟩ : ∃ window, request.window service.settings = .ok window := ⟨_, by rfl⟩
  have planned : service.plan request = .ok ⟨window, [condition], [⟨"t", .ascending⟩]⟩ :=
    plan_eq_ok_iff.mpr ⟨settled, parsed, ordered⟩
  have planned' : service.plan unsorted = .ok ⟨window, [condition], []⟩ :=
    plan_eq_ok_iff.mpr ⟨settled, parsed, by rfl⟩
  have unknown : service.listBy keepInTasks [] request = .error (.unknownField "t") := by
    rw [listBy_of_plan planned]
    rfl
  have found : service.listBy keepInTasks [some "a"] request = .error tagged := by
    rw [listBy_of_plan planned]
    rfl
  have listed : ∃ page, service.listBy keepInTasks [] unsorted = .ok page := by
    rw [listBy_of_plan planned']
    exact ⟨_, rfl⟩
  have fails : service.listBy keepInTasks [none, some "a"] unsorted = .error tagged := by
    rw [listBy_of_plan planned']
    rfl
  refine ⟨inTasks, unknown, found, ?_, listed, fails, ?_, ?_⟩
  · rcases (fault_known_without_records inTasks service request).1 _ unknown [some "a"] with
      same | ⟨plan, other, planned, binds, -, fails, raises⟩
    · exact absurd (found.symm.trans same) (by simp [tagged])
    · obtain rfl := Except.error.inj (found.symm.trans fails)
      exact ⟨plan, planned, binds, raises⟩
  · obtain ⟨page, listed⟩ := listed
    exact (fault_known_without_records inTasks service unsorted).2.1 page listed _ _ fails
  · exact (fault_known_without_records inTasks service request).2.2 _ [] [] ⟨0, 0⟩ _ (.inl found)

/-! ## Unusable operands -/

section

variable {run : Keeping ρ} {service : Service ρ} {record : ρ} {records : List ρ}
  {request : Request} {plan : Plan} {condition : Condition} {conditions : List Condition}

/-- A condition stumbles over a record if it has something to compare a value with, the record has
a value, and the operands cannot be used. -/
def Stumbles (service : Service ρ) (record : ρ) (condition : Condition) : Prop :=
  ∃ accessor, service.schema.get? condition.field = some accessor ∧
    (accessor.extract record).isAbsent = false ∧ condition.operator ≠ .unrestricted ∧
    Unusable service.settings.booleanReading accessor.kind condition.operands

theorem stumbles_iff (binds : service.schema.Binds condition) :
    service.Stumbles record condition ↔
      ∃ fault, service.verdict record condition = .error fault := by
  obtain ⟨accessor, known, supported⟩ := binds
  simp only [verdict_eq_error_iff known, exists_and_left,
    exists_operandFor_eq_error_iff supported]
  constructor
  · rintro ⟨found, known', demands⟩
    obtain rfl := Option.some.inj (known.symm.trans known')
    exact demands
  · exact fun demands => ⟨accessor, known, demands⟩

/-- A record makes a filter fail at the first condition that does not hold of it. -/
theorem exists_stopsWith_error_iff
    (binds : ∀ condition ∈ conditions, service.schema.Binds condition) :
    (∃ fault, service.StopsWith conditions (.error fault) record) ↔
      ∃ condition, FirstNot (service.Holds record) conditions condition ∧
        service.Stumbles record condition := by
  constructor
  · rintro ⟨fault, condition, first, fails⟩
    exact ⟨condition, first, (stumbles_iff (binds condition first.mem)).mpr ⟨fault, fails⟩⟩
  · rintro ⟨condition, first, stumbles⟩
    obtain ⟨fault, fails⟩ := (stumbles_iff (binds condition first.mem)).mp stumbles
    exact ⟨fault, condition, first, fails⟩

end

/-- **An unusable operand is noticed only by the records that come to it.** Let the window of a
request be settled, its filter and sort order be read and all its fields and operators be known.
Then it fails exactly if some record that has a value for the field of a condition, and satisfies
all conditions before that one, meets operands that cannot be used; the fault blames an operand. -/
theorem unusable_operand_noticed_iff {run : Keeping ρ} (inPieces : run.InPieces)
    (service : Service ρ) (records : List ρ) {request : Request} {window : Window}
    {conditions : List Condition} {order : List SortKey}
    (settled : request.window service.settings = .ok window)
    (parsed : Condition.parseFilter (request.query.getD "") = .ok conditions)
    (ordered : SortKey.parseOrder (request.sort.getD "") = .ok order)
    (binds : ∀ condition ∈ conditions, service.schema.Binds condition)
    (known : ∀ key ∈ order, service.schema.get? key.field ≠ none) :
    ((∃ fault, service.listBy run records request = .error fault) ↔
      ∃ record ∈ records, ∃ condition,
        FirstNot (service.Holds record) conditions condition ∧
          service.Stumbles record condition) ∧
    ∀ fault, service.listBy run records request = .error fault →
      service.Raises conditions records fault := by
  have planned := plan_eq_ok_iff.mpr ⟨settled, parsed, ordered⟩
  have selection (fault : Fault) : service.listBy run records request = .error fault ↔
      service.selectBy run records conditions = .error fault := by
    rw [listBy_of_plan planned, executeBy_eq_error_iff, or_iff_left]
    rintro ⟨selected, -, unsorted⟩
    obtain ⟨key, first, -⟩ := sort_eq_error_iff.mp unsorted
    exact first.not (known key first.mem)
  simp only [selection]
  constructor
  · rw [exists_selectBy_eq_error_iff inPieces binds]
    simp only [exists_stopsWith_error_iff binds]
  · intro fault fails
    rcases raises_of_selectBy inPieces fails with unbound | ⟨-, raises⟩
    · exact absurd unbound (bindConditions_ne_error binds)
    · exact raises

/-- Absent values do not come to an operand with the tag of another kind, but a present one does. -/
theorem unusable_operand_noticed_by_present_value :
    let service : Service (Option String) := { schema := Schema.empty.insert "s" (.string id) }
    let request : Request := { query := some "s().lessThan(:integer:1)" }
    let condition : Condition :=
      ⟨.plain, "s", .comparing .less, [":integer:1"], "s().lessThan(:integer:1)"⟩
    @Keeping.InPieces (Option String) keepInTasks ∧
      (∃ window, request.window service.settings = .ok window) ∧
      Condition.parseFilter (request.query.getD "") = .ok [condition] ∧
      SortKey.parseOrder (request.sort.getD "") = .ok [] ∧
      service.schema.Binds condition ∧
      (¬ ∃ fault, service.list [none, none] request = .error fault) ∧
      ∃ fault, service.list [none, some "a"] request = .error fault ∧
        service.Raises [condition] [none, some "a"] fault := by
  intro service request condition
  have inTasks : @Keeping.InPieces (Option String) keepInTasks := Keeping.inPieces_keepInTasks
  obtain ⟨window, settled⟩ : ∃ window, request.window service.settings = .ok window := ⟨_, by rfl⟩
  have parsed : Condition.parseFilter "s().lessThan(:integer:1)" = .ok [condition] := by rfl
  have ordered : SortKey.parseOrder "" = .ok [] := by rfl
  have binds : service.schema.Binds condition := ⟨.string id, by rfl, rfl⟩
  have noticed (records : List (Option String)) := unusable_operand_noticed_iff inTasks service
    records settled parsed ordered (List.forall_mem_singleton.mpr binds) (by simp)
  rw [← listBy_keepInTasks]
  refine ⟨inTasks, ⟨window, settled⟩, parsed, ordered, binds, ?_, ?_⟩
  · rw [(noticed _).1]
    rintro ⟨record, mem, found, first, accessor, known, present, -⟩
    obtain rfl : record = none := (List.mem_pair.mp mem).elim id id
    obtain rfl := List.mem_singleton.mp first.mem
    obtain rfl := Option.some.inj known
    cases present
  · have tagged : (splitTag ":integer:1".toList).1 = some .integer := by rfl
    have unusable : Unusable .lenient .string [":integer:1"] := .foreignTag tagged (by decide)
    have stumbles : service.Stumbles (some "a") condition :=
      ⟨.string id, by rfl, rfl, by simp [condition], unusable⟩
    obtain ⟨fault, fails⟩ := (noticed [none, some "a"]).1.mpr
      ⟨some "a", by simp, condition, ⟨[], [], rfl, by simp, by decide⟩, stumbles⟩
    exact ⟨fault, fails, (noticed _).2 fault fails⟩

/-- A request is refused for its operand or not, depending on the records: this one names a
birthday that is no day, and lists nothing without complaint where there are no records, where no
birthday is known, and where the condition before lets none pass. -/
theorem unusable_operand_unnoticed :
    let schema := (Schema.empty.insert "birthday" (.date Prod.fst)).insert "id" (.integer Prod.snd)
    let service : Service (Option Date × Int64) := { schema }
    let request : Request := { query := some "id().lessThan(6);birthday().equalTo(1990-01-01)" }
    let day : Date := ⟨2020, 1, 1, by decide, by decide⟩
    (∃ plan condition, service.plan request = .ok plan ∧
      (∀ condition ∈ plan.conditions, service.schema.Binds condition) ∧ plan.order = [] ∧
      condition ∈ plan.conditions ∧ condition.operator ≠ .unrestricted ∧
      schema.get? condition.field = some (.date Prod.fst) ∧
      Unusable service.settings.booleanReading .date condition.operands) ∧
    (∃ page, service.list [] request = .ok page) ∧
    (∃ page, service.list [(none, 5)] request = .ok page) ∧
    ∃ page, service.list [(some day, 7)] request = .ok page := by
  intro schema service request day
  let few : Condition := ⟨.plain, "id", .comparing .less, ["6"], "id().lessThan(6)"⟩
  let born : Condition :=
    ⟨.plain, "birthday", .comparing .equal, ["1990-01-01"], "birthday().equalTo(1990-01-01)"⟩
  have parsed : Condition.parseFilter "id().lessThan(6);birthday().equalTo(1990-01-01)" =
      .ok [few, born] := by rfl
  have ordered : SortKey.parseOrder "" = .ok [] := by rfl
  obtain ⟨window, settled⟩ : ∃ window, request.window service.settings = .ok window := ⟨_, by rfl⟩
  have planned : service.plan request = .ok ⟨window, [few, born], []⟩ :=
    plan_eq_ok_iff.mpr ⟨settled, parsed, ordered⟩
  have binds : ∀ condition ∈ [few, born], service.schema.Binds condition := by
    intro condition mem
    rcases List.mem_pair.mp mem with rfl | rfl
    · exact ⟨.integer Prod.snd, by rfl, rfl⟩
    · exact ⟨.date Prod.fst, by rfl, rfl⟩
  have unusable : Unusable .lenient .date ["1990-01-01"] := .notLiteral (by rfl)
  rw [← listBy_keepInTasks]
  refine ⟨⟨_, born, planned, binds, rfl, by simp, by simp [born], by rfl, unusable⟩, ?_, ?_, ?_⟩
  · rw [listBy_of_plan planned]
    exact ⟨_, rfl⟩
  · rw [listBy_of_plan planned]
    exact ⟨_, rfl⟩
  · rw [listBy_of_plan planned]
    exact ⟨_, rfl⟩

end Service

end Listing
