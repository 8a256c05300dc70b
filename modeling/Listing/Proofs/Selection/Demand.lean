import Listing.Proofs.Lookup
import Listing.Proofs.Selection.Agreement

/-!
# `Listing/Proofs/Selection/Demand.lean` — what counts of a condition

A condition carries more than a selection looks at. It remembers its quantifier and the text it was
read from, it writes its field in some case, and it may list any number of operands. What it
demands of a record is less: the field that is meant, the operator and the first operand, if there
is one. Everything else is inert, and in particular it shows in no fault that a selection reports.

What a condition does to a selection is `Service.asks`: the fault of binding it, or else a question
that is put to every record. A selection is made of these questions alone (`selectBy_congr`), so
all that has to be seen is that conditions with the same demand ask the same question.

**`selectBy_of_sameDemand`** says so of filters, condition by condition.
-/

set_option autoImplicit false

namespace Listing

open Outcome

variable {ρ : Type}

/-- Two conditions mean the same field, have the same operator and the same first operand, or both
have none. -/
structure Schema.SameDemand (schema : Schema ρ) (left right : Condition) : Prop where
  field : ∃ name, Means schema.names left.field name ∧ Means schema.names right.field name
  operator : left.operator = right.operator
  operand : left.operands.head? = right.operands.head?

/-! ## Questions -/

/-- Written names that mean the same name find the same. -/
theorem Schema.resolve_eq_of_means {schema : Schema ρ} {written written' name : String}
    (means : Means schema.names written name) (means' : Means schema.names written' name) :
    schema.resolve written = schema.resolve written' := by
  obtain ⟨accessor, mem⟩ := mem_names.mp means.mem
  unfold resolve
  rw [get?_eq_some_iff.mpr ⟨name, means, mem⟩, get?_eq_some_iff.mpr ⟨name, means', mem⟩]

/-- Only the first operand is looked at, or missed. -/
theorem satisfies_congr {operands others : List String} (same : operands.head? = others.head?)
    (reading : BooleanReading) (value : Value) (operator : Operator) :
    satisfies reading value operator operands = satisfies reading value operator others := by
  have sameFirst : firstOperand operator operands = firstOperand operator others := by
    cases operands with
    | nil => rw [List.head?_eq_none_iff.mp same.symm]
    | cons operand rest =>
      obtain ⟨rest', rfl⟩ := List.head?_eq_some_iff.mp same.symm
      rfl
  unfold satisfies
  rw [sameFirst]

theorem matchesAll_congr {reading : BooleanReading} {bound others : List (BoundCondition ρ)}
    (same : bound.map (BoundCondition.matches reading) =
      others.map (BoundCondition.matches reading)) (record : ρ) :
    matchesAll reading record bound = matchesAll reading record others := by
  induction bound generalizing others with
  | nil => rw [List.map_eq_nil_iff.mp same.symm]
  | cons first rest ih =>
    obtain ⟨first', rest', rfl, head, tail⟩ := List.map_eq_cons_iff.mp same.symm
    rw [matchesAll, matchesAll, head, ih tail.symm]

namespace Service

variable {service : Service ρ} {left right : Condition} {conditions others : List Condition}

/-- What becomes of a condition in a selection: a fault, or a question to every record. -/
def asks (service : Service ρ) (condition : Condition) :
    Except Fault (ρ → Except Fault Bool) :=
  BoundCondition.matches service.settings.booleanReading <$> service.schema.bindCondition condition

theorem asks_congr (same : service.schema.SameDemand left right) :
    service.asks left = service.asks right := by
  obtain ⟨name, means, means'⟩ := same.field
  unfold asks Schema.bindCondition
  rw [Schema.resolve_eq_of_means means means', ← same.operator]
  cases service.schema.resolve right.field with
  | error fault => rfl
  | ok accessor =>
    cases checked : checkSupported accessor.kind left.operator with
    | error fault => simp only [ok_bind, checked]; rfl
    | ok _ =>
      simp only [ok_bind, checked]
      apply congrArg Except.ok
      funext record
      unfold BoundCondition.matches Condition.matches
      rw [same.operator]
      exact satisfies_congr same.operand _ _ _

/-- A selection is made of the questions that its conditions ask. -/
theorem selectBy_congr (same : conditions.mapM service.asks = others.mapM service.asks)
    (run : Keeping ρ) (records : List ρ) :
    service.selectBy run records conditions = service.selectBy run records others := by
  unfold asks at same
  rw [mapM_map_result, mapM_map_result] at same
  apply bind_eq_of_map_eq same
  intro bound bound' sameQuestions
  have sameTest := funext (matchesAll_congr sameQuestions)
  simp only [sameTest]

/-- **Only the demand of a condition counts.** Let the conditions of two filters mean the same
fields, one by one, with the same operators and the same first operands. Then selecting by the one
and by the other comes to the same, in what is selected and in which fault is reported, whatever
quantifiers the conditions have, from whichever texts they were read, in whatever case they write
their fields and whatever other operands they list. The records may be gone through in parallel,
and in another way each time. -/
theorem selectBy_of_sameDemand (service : Service ρ)
    (same : List.Forall₂ service.schema.SameDemand conditions others) :
    (∀ run records, service.selectBy run records conditions =
      service.selectBy run records others) ∧
    (∀ records, service.select records conditions = service.select records others) ∧
    ∀ run run' : Keeping ρ, run.InPieces → run'.InPieces → ∀ records,
      service.selectBy run records conditions = service.selectBy run' records others := by
  have sameQuestions : conditions.mapM service.asks = others.mapM service.asks :=
    mapM_eq_of_forall₂ (same.imp fun _ _ => asks_congr)
  refine ⟨selectBy_congr sameQuestions, ?_, ?_⟩
  · rw [← selectBy_keepInTasks]
    exact selectBy_congr sameQuestions keepInTasks
  · intro run run' inPieces inPieces' records
    rw [selectBy_congr sameQuestions]
    rw [selectBy_eq_select inPieces, selectBy_eq_select inPieces']

/-- Conditions that are read from different texts select alike and report the same operand. -/
theorem selectBy_of_sameDemand_other_texts :
    let schema := (Schema.empty.insert "name" (.string id)).insert "Name" (.string id)
    let service : Service (Option String) := { schema }
    let quantified : Condition :=
      ⟨.forAll, "NAME", .comparing .less, ["b", "a"], "forAllNAME().lessthan(b,a)"⟩
    let plain : Condition := ⟨.plain, "Name", .comparing .less, ["b"], "Name().lessThan(b)"⟩
    let tagged : Condition := ⟨.plain, "name", .containing, [":INTEGER:1", ""], "a"⟩
    let tagged' : Condition := ⟨.thereExists, "name", .containing, [":INTEGER:1"], "b"⟩
    List.Forall₂ schema.SameDemand [quantified, tagged] [plain, tagged'] ∧
      (∀ records, service.select records [quantified, tagged] =
        service.select records [plain, tagged']) ∧
      service.select [none, some "a"] [quantified, tagged] =
        .error (.badOperand .string ":INTEGER:1" .foreignTag) ∧
      @Keeping.InPieces (Option String) (Keeping.lastFirst 1) ∧
      @Keeping.InPieces (Option String) keepInTasks ∧
      service.selectBy (Keeping.lastFirst 1) [none, some "a"] [quantified, tagged] =
        service.selectBy keepInTasks [none, some "a"] [plain, tagged'] := by
  intro schema service quantified plain tagged tagged'
  have means : Means schema.names "NAME" "Name" :=
    .similar (by decide) (by decide) (by decide) (by decide)
  have first : schema.SameDemand quantified plain :=
    ⟨⟨"Name", means, .exact (by decide)⟩, rfl, rfl⟩
  have second : schema.SameDemand tagged tagged' :=
    ⟨⟨"name", .exact (by decide), .exact (by decide)⟩, rfl, rfl⟩
  have same := List.Forall₂.cons first (.cons second .nil)
  have inPieces : @Keeping.InPieces (Option String) (Keeping.lastFirst 1) :=
    Keeping.inPieces_lastFirst 1
  have inTasks : @Keeping.InPieces (Option String) keepInTasks := Keeping.inPieces_keepInTasks
  obtain ⟨-, sameSelect, mixed⟩ := selectBy_of_sameDemand service same
  refine ⟨same, sameSelect, ?_, inPieces, inTasks, mixed _ _ inPieces inTasks _⟩
  rw [sameSelect]
  rfl

end Service

end Listing
