import Listing.Proofs.Selection.Meaning

/-!
# `Listing/Proofs/Operand.lean` — faults that no value has a part in

A condition looks at a value in two ways: whether it is there, and how it stands to the operand.
Everything that can fail lies between the two and looks only at the *kind* of the value: whether
the operator has a meaning for it, whether there is an operand, and whether that can be read.
`operandFor` is this part by itself, and `satisfies_eq` puts it back in its place. So a fault
cannot give a value away.

What makes an operand unusable is said in `Unusable`, without reading anything in a particular
order. The faults that come of it are those that blame the operand (`Fault.blamesOperand`), and
binding a condition leaves no others.

A condition that finds fault with one record holds of no other, so no record comes to what is behind
it. Of all conditions of a filter it is therefore the same one, with the same fault, that every
record stops at if it stops with a fault. `selectBy_eq_error_iff` says when a selection fails, and
with what, and neither has to do with the way the records are gone through.

**`fault_ignores_value`** says so of values and of selections by one condition.
-/

set_option autoImplicit false

namespace Listing

open Outcome Text

/-! ## What an operator needs of its operands -/

/-- The operand that values of a kind are compared with, if the operator compares at all. -/
def operandFor (reading : BooleanReading) (kind : Kind) (operator : Operator)
    (operands : List String) : Except Fault (Option Value) := do
  checkSupported kind operator
  if operator = .unrestricted then
    return none
  else
    let operand ← readOperand reading kind (← firstOperand operator operands)
    return some operand

/-- Whether the fault is that of an operand: there is none, or it is no value of the kind. -/
def Fault.blamesOperand : Fault → Bool
  | .operandMissing _ | .badOperand .. => true
  | _ => false

/-- The operands of a condition cannot be used for values of a kind: there is none, or the first
has the tag of another kind, or what it says behind its tag is no value of this one. -/
inductive Unusable (reading : BooleanReading) (kind : Kind) : List String → Prop where
  | missing : Unusable reading kind []
  | foreignTag {operand : String} {others : List String} {tag : Kind}
      (tagged : (splitTag operand.toList).1 = some tag) (foreign : tag ≠ kind) :
      Unusable reading kind (operand :: others)
  | notLiteral {operand : String} {others : List String}
      (unreadable : readLiteral? reading (splitTag operand.toList).2 kind = none) :
      Unusable reading kind (operand :: others)

section

variable {reading : BooleanReading} {kind : Kind} {value : Value} {operator : Operator}
  {operands : List String} {fault : Fault}

/-- A value that is there has its say only once the operand is read. -/
theorem satisfies_eq :
    satisfies reading value operator operands =
      if value.isAbsent then .ok false
      else operandFor reading value.kind operator operands >>= fun operand =>
        .ok (operand.all (operator.relates value)) := by
  unfold satisfies operandFor
  split
  · rfl
  cases checkSupported value.kind operator with
  | error refused => rfl
  | ok _ =>
    simp only [ok_bind]
    split
    · rfl
    cases firstOperand operator operands with
    | error missing => rfl
    | ok operand =>
      simp only [ok_bind]
      cases readOperand reading value.kind operand <;> rfl

theorem satisfies_of_absent (absent : value.isAbsent = true) (operator : Operator)
    (operands : List String) : satisfies reading value operator operands = .ok false := by
  rw [satisfies_eq, if_pos absent]

/-- All that decides over a fault is whether the value is there, and its kind. -/
theorem satisfies_eq_error_iff :
    satisfies reading value operator operands = .error fault ↔
      value.isAbsent = false ∧ operandFor reading value.kind operator operands = .error fault := by
  rw [satisfies_eq]
  cases value.isAbsent with
  | true => simp
  | false => simp [bind_eq_error_iff]

/-! ## Where the faults come from -/

theorem checkSupported_eq_error_iff :
    checkSupported kind operator = .error fault ↔
      kind.supports operator = false ∧ fault = .unsupported operator kind := by
  unfold checkSupported
  cases kind.supports operator <;> simp [eq_comm]

theorem operandFor_of_unsupported (refused : checkSupported kind operator = .error fault) :
    operandFor reading kind operator operands = .error fault := by
  unfold operandFor
  rw [refused]
  rfl

theorem operandFor_of_supports (supported : kind.supports operator = true) :
    operandFor reading kind operator operands =
      if operator = .unrestricted then .ok none
      else firstOperand operator operands >>= fun operand =>
        readOperand reading kind operand >>= fun operand => .ok (some operand) := by
  unfold operandFor checkSupported
  rw [if_pos supported]
  rfl

theorem Kind.string_supports (operator : Operator) : Kind.string.supports operator = true := by
  cases operator <;> rfl

/-- What a value that is there says to an operator with a meaning: the first operand is read, and
the two are held against each other. -/
theorem satisfies_of_present (present : value.isAbsent = false)
    (supported : value.kind.supports operator = true) (compares : operator ≠ .unrestricted) :
    satisfies reading value operator operands =
      firstOperand operator operands >>= fun operand =>
        readOperand reading value.kind operand >>= fun operand =>
          .ok (operator.relates value operand) := by
  rw [satisfies_eq, operandFor_of_supports supported, present, if_neg compares]
  simp only [Bool.false_eq_true, if_false, bind_assoc, ok_bind, Option.all_some]

theorem blamesOperand_of_firstOperand (fails : firstOperand operator operands = .error fault) :
    fault.blamesOperand = true := by
  cases operands with
  | nil => cases fails; rfl
  | cons operand others => cases fails

theorem readOperand_eq_ok_iff {operand : String} {found : Value} :
    readOperand reading kind operand = .ok found ↔
      (splitTag operand.toList).1.all (· = kind) = true ∧
        readLiteral? reading (splitTag operand.toList).2 kind = some found := by
  unfold readOperand
  dsimp only
  split
  · next own =>
    rw [and_iff_right own]
    cases readLiteral? reading (splitTag operand.toList).2 kind <;> simp
  · next foreign => simp [foreign]

/-- An operand that cannot be read is blamed for the kind that it was read for. -/
theorem exists_cause_of_readOperand {operand : String}
    (fails : readOperand reading kind operand = .error fault) :
    ∃ text cause, fault = .badOperand kind text cause := by
  unfold readOperand at fails
  dsimp only at fails
  split at fails
  · split at fails
    · cases fails
    · cases fails; exact ⟨_, _, rfl⟩
  · cases fails; exact ⟨_, _, rfl⟩

theorem blamesOperand_of_readOperand {operand : String}
    (fails : readOperand reading kind operand = .error fault) : fault.blamesOperand = true := by
  obtain ⟨text, cause, rfl⟩ := exists_cause_of_readOperand fails
  rfl

/-- Once the operator is known to have a meaning, only the operand is left to blame. -/
theorem blamesOperand_of_operandFor (supported : kind.supports operator = true)
    (fails : operandFor reading kind operator operands = .error fault) :
    fault.blamesOperand = true := by
  rw [operandFor_of_supports supported] at fails
  split at fails
  · cases fails
  rcases bind_eq_error_iff.mp fails with missing | ⟨operand, -, fails⟩
  · exact blamesOperand_of_firstOperand missing
  rcases bind_eq_error_iff.mp fails with unreadable | ⟨_, -, done⟩
  · exact blamesOperand_of_readOperand unreadable
  · cases done

/-- An operator without meaning is reported as such only by the check, whatever the operands. -/
theorem operandFor_eq_unsupported_iff {asked : Operator} {refused : Kind} :
    operandFor reading kind operator operands = .error (.unsupported asked refused) ↔
      checkSupported kind operator = .error (.unsupported asked refused) := by
  constructor
  · intro fails
    cases supported : kind.supports operator with
    | true => cases blamesOperand_of_operandFor supported fails
    | false =>
      have checked : checkSupported kind operator = .error (.unsupported operator kind) :=
        checkSupported_eq_error_iff.mpr ⟨supported, rfl⟩
      rw [checked, Except.error.inj ((operandFor_of_unsupported checked).symm.trans fails)]
  · exact operandFor_of_unsupported

theorem exists_readOperand_eq_error_iff {operand : String} {others : List String} :
    (∃ fault, readOperand reading kind operand = .error fault) ↔
      Unusable reading kind (operand :: others) := by
  unfold readOperand
  dsimp only
  constructor
  · rintro ⟨fault, fails⟩
    split at fails
    · split at fails
      · cases fails
      · next unreadable => exact .notLiteral unreadable
    · next foreign =>
      cases tagged : (splitTag operand.toList).1 with
      | none => simp [tagged] at foreign
      | some tag => exact .foreignTag tagged (by simpa [tagged] using foreign)
  · intro unusable
    cases unusable with
    | foreignTag tagged foreign =>
      rw [tagged, if_neg (by simpa using foreign)]
      exact ⟨_, rfl⟩
    | notLiteral unreadable =>
      rw [unreadable]
      split <;> exact ⟨_, rfl⟩

theorem not_unusable_of_readOperand {operand : String} {found : Value}
    (reads : readOperand reading kind operand = .ok found) (others : List String) :
    ¬ Unusable reading kind (operand :: others) := by
  intro unusable
  obtain ⟨fault, fails⟩ := exists_readOperand_eq_error_iff.mpr unusable
  cases reads.symm.trans fails

/-- There is a fault exactly where there is something to compare with and it cannot be used. -/
theorem exists_operandFor_eq_error_iff (supported : kind.supports operator = true) :
    (∃ fault, operandFor reading kind operator operands = .error fault) ↔
      operator ≠ .unrestricted ∧ Unusable reading kind operands := by
  rw [operandFor_of_supports supported]
  split
  · next asksNothing => simp [asksNothing]
  · next compares =>
    simp only [compares, ne_eq, not_false_iff, true_and]
    cases operands with
    | nil => exact ⟨fun _ => .missing, fun _ => ⟨_, rfl⟩⟩
    | cons operand others =>
      rw [← exists_readOperand_eq_error_iff]
      simp [firstOperand, bind_eq_error_iff]

end

/-! ## Verdicts -/

namespace Service

variable {ρ : Type} {service : Service ρ} {record other : ρ} {condition : Condition} {fault : Fault}

theorem verdict_of_unknown (unknown : service.schema.get? condition.field = none) :
    service.verdict record condition = .error (.unknownField condition.field) := by
  unfold verdict Schema.resolve
  rw [unknown]
  rfl

theorem verdict_eq_error_iff {accessor : Accessor ρ}
    (known : service.schema.get? condition.field = some accessor) :
    service.verdict record condition = .error fault ↔
      (accessor.extract record).isAbsent = false ∧
        operandFor service.settings.booleanReading accessor.kind condition.operator
          condition.operands = .error fault := by
  unfold verdict Condition.matches
  rw [Schema.resolve_eq_ok_iff.mpr known, ok_bind, satisfies_eq_error_iff, Accessor.kind_extract]

/-- Records differ in whether a condition finds a fault with them, but not in which. -/
theorem fault_unique {found : Fault} (fails : service.verdict record condition = .error fault)
    (fails' : service.verdict other condition = .error found) : fault = found := by
  cases known : service.schema.get? condition.field with
  | none =>
    rw [verdict_of_unknown known] at fails fails'
    exact Except.error.inj (fails.symm.trans fails')
  | some accessor =>
    obtain ⟨-, demands⟩ := (verdict_eq_error_iff known).mp fails
    obtain ⟨-, demands'⟩ := (verdict_eq_error_iff known).mp fails'
    exact Except.error.inj (demands.symm.trans demands')

theorem verdict_of_absent {accessor : Accessor ρ}
    (known : service.schema.get? condition.field = some accessor)
    (absent : (accessor.extract record).isAbsent = true) :
    service.verdict record condition = .ok false := by
  unfold verdict Condition.matches
  rw [Schema.resolve_eq_ok_iff.mpr known, ok_bind, satisfies_of_absent absent]

/-- A condition that finds fault with one record holds of none: it finds the fault with each that
has a value, and does not hold of the others. -/
theorem not_holds_of_verdict (fails : service.verdict record condition = .error fault) :
    ¬ service.Holds other condition := by
  intro holds
  cases known : service.schema.get? condition.field with
  | none => cases holds.symm.trans (verdict_of_unknown known)
  | some accessor =>
    cases absent : (accessor.extract other).isAbsent with
    | true => cases holds.symm.trans (verdict_of_absent known absent)
    | false =>
      obtain ⟨-, demands⟩ := (verdict_eq_error_iff known).mp fails
      cases holds.symm.trans ((verdict_eq_error_iff known).mpr ⟨absent, demands⟩)

/-- What a bound condition finds fault with is an operand. -/
theorem blamesOperand_of_verdict (binds : service.schema.Binds condition)
    (fails : service.verdict record condition = .error fault) : fault.blamesOperand = true := by
  obtain ⟨accessor, known, supported⟩ := binds
  exact blamesOperand_of_operandFor supported ((verdict_eq_error_iff known).mp fails).2

/-! ## Selections -/

section Selections

variable {run : Keeping ρ} {records : List ρ} {conditions : List Condition}

/-- Conditions are bound or refused before any record is looked at. -/
theorem selectBy_of_unbound (unbound : service.schema.bindConditions conditions = .error fault)
    (records : List ρ) : service.selectBy run records conditions = .error fault :=
  bind_eq_error_iff.mpr (.inl unbound)

theorem bindConditions_ne_error
    (binds : ∀ condition ∈ conditions, service.schema.Binds condition) :
    service.schema.bindConditions conditions ≠ .error fault := by
  intro unbound
  obtain ⟨condition, first, -⟩ := Schema.bindConditions_eq_error_iff.mp unbound
  exact first.not (binds condition first.mem)

theorem exists_stopsWith_of_selectBy (inPieces : run.InPieces)
    (fails : service.selectBy run records conditions = .error fault) :
    service.schema.bindConditions conditions = .error fault ∨
      (∀ condition ∈ conditions, service.schema.Binds condition) ∧
        ∃ record ∈ records, service.StopsWith conditions (.error fault) record := by
  rcases bind_eq_error_iff.mp fails with unbound | ⟨bound, binds, fails⟩
  · exact .inl unbound
  refine .inr ⟨Schema.exists_bindConditions_iff.mp ⟨bound, binds⟩, ?_⟩
  dsimp only at fails
  obtain ⟨record, mem, recordFails⟩ : ∃ record ∈ records,
      matchesAll service.settings.booleanReading record bound = .error fault := by
    split at fails
    · obtain ⟨record, first, recordFails⟩ := keep_eq_error_iff.mp fails
      exact ⟨record, first.mem, recordFails⟩
    · exact inPieces.exists_mem_of_eq_error fails
  exact ⟨record, mem, (matchesAll_eq_iff binds (by simp)).mp recordFails⟩

theorem not_settles_of_stopsWith (binds : ∀ condition ∈ conditions, service.schema.Binds condition)
    (stops : service.StopsWith conditions (.error fault) record) :
    ¬ service.Settles conditions record := by
  intro settles
  obtain ⟨bound, binds⟩ := Schema.exists_bindConditions_iff.mpr binds
  obtain ⟨passes, settled⟩ := (exists_matchesAll_iff binds).mpr settles
  cases settled.symm.trans ((matchesAll_eq_iff binds (by simp)).mpr stops)

/-- A selection by conditions that can be bound fails when a record makes one of them fail. -/
theorem exists_selectBy_eq_error_iff (inPieces : run.InPieces)
    (binds : ∀ condition ∈ conditions, service.schema.Binds condition) :
    (∃ fault, service.selectBy run records conditions = .error fault) ↔
      ∃ record ∈ records, ∃ fault, service.StopsWith conditions (.error fault) record := by
  constructor
  · rintro ⟨fault, fails⟩
    rcases exists_stopsWith_of_selectBy inPieces fails with unbound | ⟨-, record, mem, stops⟩
    · exact absurd unbound (bindConditions_ne_error binds)
    · exact ⟨record, mem, fault, stops⟩
  · rintro ⟨record, mem, fault, stops⟩
    cases outcome : service.selectBy run records conditions with
    | error found => exact ⟨found, rfl⟩
    | ok selected =>
      have selects := (selectBy_eq_ok_iff inPieces).mp outcome
      obtain ⟨-, settled, -⟩ := select_eq_ok_iff.mp selects
      exact absurd (settled record mem) (not_settles_of_stopsWith binds stops)

/-- All records that stop with a fault stop at the same condition: the first that finds fault with
any of them is passed by none. -/
theorem fault_unique_of_stopsWith {found : Fault}
    (stops : service.StopsWith conditions (.error fault) record)
    (stops' : service.StopsWith conditions (.error found) other) : fault = found := by
  unfold StopsWith at stops stops'
  induction conditions with
  | nil =>
    obtain ⟨condition, first, -⟩ := stops
    exact absurd first not_firstNot_nil
  | cons condition conditions ih =>
    rw [exists_firstNot_cons_iff] at stops stops'
    obtain ⟨-, fails⟩ | ⟨holds, behind⟩ := stops
    · obtain ⟨-, fails'⟩ | ⟨holds, -⟩ := stops'
      · exact fault_unique fails fails'
      · exact absurd holds (not_holds_of_verdict fails)
    · obtain ⟨-, fails⟩ | ⟨-, behind'⟩ := stops'
      · exact absurd holds (not_holds_of_verdict fails)
      · exact ih behind behind'

/-- A filter has one fault, so it does not matter who finds it first. -/
theorem selectBy_eq_error_iff (inPieces : run.InPieces) :
    service.selectBy run records conditions = .error fault ↔
      service.schema.bindConditions conditions = .error fault ∨
        (∀ condition ∈ conditions, service.schema.Binds condition) ∧
          ∃ record ∈ records, service.StopsWith conditions (.error fault) record := by
  refine ⟨exists_stopsWith_of_selectBy inPieces, fun fails => ?_⟩
  obtain unbound | ⟨binds, record, mem, stops⟩ := fails
  · exact selectBy_of_unbound unbound records
  · obtain ⟨found, selects⟩ := (exists_selectBy_eq_error_iff inPieces binds).mpr
      ⟨record, mem, fault, stops⟩
    obtain unbound | ⟨-, other, -, stops'⟩ := exists_stopsWith_of_selectBy inPieces selects
    · exact absurd unbound (bindConditions_ne_error binds)
    · rw [selects, fault_unique_of_stopsWith stops stops']

end Selections

/-- **A fault does not depend on the value.** Present values of one kind meet the same faults, and
absent ones none. An unsupported operator is reported exactly where checking the kind alone
refuses it, and in the same words. So a condition finds the same fault with every record that it
finds a fault with, and a selection by this condition alone reports that fault, in whatever order
the records come and whether or not they are gone through in parallel. -/
theorem fault_ignores_value :
    (∀ (reading : BooleanReading) (value other : Value) (operator : Operator)
      (operands : List String), value.kind = other.kind → value.isAbsent = false →
      other.isAbsent = false → ∀ fault,
        satisfies reading value operator operands = .error fault ↔
          satisfies reading other operator operands = .error fault) ∧
    (∀ (reading : BooleanReading) (value : Value) (operator : Operator) (operands : List String),
      value.isAbsent = false →
        (∀ asked kind,
          satisfies reading value operator operands = .error (.unsupported asked kind) ↔
            checkSupported value.kind operator = .error (.unsupported asked kind)) ∧
        ∀ refused, checkSupported value.kind operator = .error refused →
          refused = .unsupported operator value.kind) ∧
    (∀ (reading : BooleanReading) (value : Value) (operator : Operator) (operands : List String),
      value.isAbsent = true → satisfies reading value operator operands = .ok false) ∧
    ∀ {ρ : Type} (service : Service ρ) (condition : Condition),
      (∀ record other fault found, service.verdict record condition = .error fault →
        service.verdict other condition = .error found → fault = found) ∧
      ∀ run run' : Keeping ρ, run.InPieces → run'.InPieces →
        ∀ (threshold threshold' : UInt64) (records records' : List ρ), records.Perm records' →
          ∀ fault, (service.withThreshold threshold).selectBy run records [condition] =
              .error fault ↔
            (service.withThreshold threshold').selectBy run' records' [condition] =
              .error fault := by
  refine ⟨?_, ?_, ?_, ?_⟩
  · intro reading value other operator operands same present present' fault
    rw [satisfies_eq_error_iff, satisfies_eq_error_iff, same, present, present']
  · intro reading value operator operands present
    constructor
    · intro asked kind
      rw [satisfies_eq_error_iff, operandFor_eq_unsupported_iff, and_iff_right present]
    · exact fun refused checked => (checkSupported_eq_error_iff.mp checked).2
  · exact fun reading value operator operands absent => satisfies_of_absent absent operator operands
  · intro ρ service condition
    refine ⟨fun record other fault found => fault_unique, ?_⟩
    intro run run' inPieces inPieces' threshold threshold' records records' perm fault
    rw [selectBy_eq_error_iff inPieces, selectBy_eq_error_iff inPieces']
    simp only [perm.mem_iff]
    rfl

/-- A NaN meets the fault that a number meets; a service that goes through its records in parallel
reports the fault of one that goes through them in another order. -/
theorem fault_ignores_value_nan :
    let nan : Value := .decimal ⟨0x7FF8000000000000⟩
    let one : Value := .decimal ⟨0x3FF0000000000000⟩
    let service : Service (Option String) := { schema := Schema.empty.insert "s" (.string id) }
    let condition := Condition.ofParts .plain "s" (.comparing .less) [":integer:1"]
    let tagged : Fault := .badOperand .string ":integer:1" .foreignTag
    (nan.kind = one.kind ∧ nan.isAbsent = false ∧ one.isAbsent = false ∧
      satisfies .lenient nan (.comparing .less) [":integer:1"] =
        .error (.badOperand .decimal ":integer:1" .foreignTag)) ∧
    (checkSupported .decimal .containing = .error (.unsupported .containing .decimal) ∧
      satisfies .strict nan .containing [] = .error (.unsupported .containing .decimal)) ∧
    ((Value.string none).isAbsent = true ∧
      satisfies .lenient (.string none) (.comparing .less) [":integer:1"] = .ok false) ∧
    (∃ fault, service.verdict (some "a") condition = .error fault ∧ fault = tagged) ∧
    @Keeping.InPieces (Option String) (Keeping.lastFirst 1) ∧
    @Keeping.InPieces (Option String) keepInTasks ∧
    [some "a", none, some "b"].Perm [none, some "b", some "a"] ∧
      (service.withThreshold 0).selectBy (Keeping.lastFirst 1) [some "a", none, some "b"]
        [condition] = .error tagged := by
  intro nan one service condition tagged
  obtain ⟨sameFault, refusals, absences, selections⟩ := fault_ignores_value
  have inPieces : @Keeping.InPieces (Option String) (Keeping.lastFirst 1) :=
    Keeping.inPieces_lastFirst 1
  have inTasks : @Keeping.InPieces (Option String) keepInTasks := Keeping.inPieces_keepInTasks
  have perm : [some "a", none, some "b"].Perm [none, some "b", some "a"] := by decide
  have fails : service.select [none, some "b", some "a"] [condition] = .error tagged := by rfl
  refine ⟨⟨rfl, rfl, rfl, ?_⟩, ⟨rfl, ?_⟩, ⟨rfl, ?_⟩, ?_, inPieces, inTasks, perm, ?_⟩
  · exact (sameFault .lenient nan one _ _ rfl rfl rfl _).mpr (by rfl)
  · exact ((refusals .strict nan .containing [] rfl).1 _ _).mpr rfl
  · exact absences _ _ _ _ rfl
  · have found : service.verdict (some "b") condition = .error tagged := by rfl
    exact ⟨_, rfl, (selections service condition).1 (some "a") (some "b") _ _ rfl found⟩
  · exact ((selections service condition).2 _ _ inPieces inTasks 0 4096 _ _ perm _).mpr fails

end Service

end Listing
