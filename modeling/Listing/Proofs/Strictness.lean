import Listing.Proofs.Blame

/-!
# `Listing/Proofs/Strictness.lean` — strict and lenient booleans

The strict reading of booleans refuses operands that the lenient one takes for false. A host that
goes over to it wants to know what that can do to a request that works: make it fail, and nothing
else.

The reason is that the two readings agree wherever the strict one answers, and that everything
above the reading of an operand takes the operand as it comes. For one value this is `Narrows`: the
strict outcome is the lenient one, or a fault in the place of an answer. For records it is less,
`Outcome.Entails`, which passes through every step of a request. What it does not say is which
fault a request fails with: behind a record that only the strict reading refuses there may be
another that both refuse.

**`strict_entails_lenient`** says so of values and of requests.
-/

set_option autoImplicit false

namespace Listing

open Outcome

/-! ## Faults in the place of answers -/

/-- The first outcome is the second one, or a fault where the second one is a result. -/
inductive Narrows {ε α : Type} : Except ε α → Except ε α → Prop where
  | same (outcome : Except ε α) : Narrows outcome outcome
  | refused (fault : ε) (a : α) : Narrows (.error fault) (.ok a)

namespace Narrows

variable {ε α β : Type} {first second : Except ε α}

theorem entails (narrows : Narrows first second) : Entails first second := by
  cases narrows with
  | same => exact .refl _
  | refused fault a =>
    intro answer isAnswer
    cases isAnswer

theorem eq_error (narrows : Narrows first second) {fault : ε} (fails : second = .error fault) :
    first = .error fault := by
  cases narrows with
  | same => exact fails
  | refused found a => cases fails

theorem bind_same (step : Except ε α) {next next' : α → Except ε β}
    (goesOn : ∀ a, Narrows (next a) (next' a)) : Narrows (step >>= next) (step >>= next') := by
  cases step with
  | error fault => exact .same _
  | ok a => exact goesOn a

/-- This needs a last step that cannot fail, or the two could end in different faults. -/
theorem bind_ok (narrows : Narrows first second) (f : α → β) :
    Narrows (first >>= fun a => .ok (f a)) (second >>= fun a => .ok (f a)) := by
  cases narrows with
  | same => exact .same _
  | refused fault a => exact .refused fault (f a)

end Narrows

/-! ## Values -/

/-- Only a boolean is read in two ways. -/
theorem readLiteral?_lenient_of_strict {cs : List Char} {kind : Kind} {value : Value}
    (h : readLiteral? .strict cs kind = some value) :
    readLiteral? .lenient cs kind = some value := by
  cases kind with
  | boolean =>
    obtain ⟨truth, read, rfl⟩ := Option.map_eq_some_iff.mp h
    exact Option.map_eq_some_iff.mpr ⟨truth, BooleanReading.read?_lenient_of_strict read, rfl⟩
  | string | date | integer | decimal => exact h

theorem narrows_readOperand (kind : Kind) (operand : String) :
    Narrows (readOperand .strict kind operand) (readOperand .lenient kind operand) := by
  unfold readOperand
  dsimp only
  split
  · cases strictly : readLiteral? .strict (splitTag operand.toList).2 kind with
    | some value =>
      rw [readLiteral?_lenient_of_strict strictly]
      exact .same _
    | none =>
      cases readLiteral? .lenient (splitTag operand.toList).2 kind with
      | some value => exact .refused _ value
      | none => exact .same _
  · exact .same _

theorem narrows_operandFor (kind : Kind) (operator : Operator) (operands : List String) :
    Narrows (operandFor .strict kind operator operands)
      (operandFor .lenient kind operator operands) := by
  unfold operandFor
  apply Narrows.bind_same
  intro _
  split
  · exact .same _
  · apply Narrows.bind_same
    intro operand
    exact (narrows_readOperand kind operand).bind_ok some

theorem narrows_satisfies (value : Value) (operator : Operator) (operands : List String) :
    Narrows (satisfies .strict value operator operands)
      (satisfies .lenient value operator operands) := by
  rw [satisfies_eq, satisfies_eq]
  split
  · exact .same _
  · exact (narrows_operandFor value.kind operator operands).bind_ok _

/-! ## Records -/

variable {ρ : Type}

theorem entails_matchesAll (record : ρ) (bound : List (BoundCondition ρ)) :
    Entails (matchesAll .strict record bound) (matchesAll .lenient record bound) := by
  induction bound with
  | nil => exact .refl _
  | cons first rest ih =>
    have head : Entails (first.matches .strict record) (first.matches .lenient record) :=
      (narrows_satisfies _ _ _).entails
    apply Entails.bind head
    intro passes
    cases passes with
    | true => exact ih
    | false => exact .refl _

/-- A test that answers wherever another does, and alike, keeps what the other keeps. -/
theorem entails_keep {test test' : ρ → Except Fault Bool}
    (entails : ∀ record, Entails (test record) (test' record)) (records : List ρ) :
    Entails (keep test records) (keep test' records) := by
  induction records with
  | nil => exact .refl _
  | cons record rest ih =>
    apply Entails.bind (entails record)
    intro passes
    exact .bind ih fun kept => .refl _

namespace Service

variable (service : Service ρ)

/-- The same service with another reading of booleans. -/
def withReading (reading : BooleanReading) : Service ρ :=
  { service with settings := { service.settings with booleanReading := reading } }

theorem entails_select (records : List ρ) (conditions : List Condition) :
    Entails ((service.withReading .strict).select records conditions)
      ((service.withReading .lenient).select records conditions) := by
  rw [select_eq, select_eq]
  apply Entails.bind (.refl _)
  intro bound
  exact entails_keep (fun record => entails_matchesAll record bound) records

theorem entails_list (records : List ρ) (request : Request) :
    Entails ((service.withReading .strict).list records request)
      ((service.withReading .lenient).list records request) := by
  -- Nothing but the selection reads a boolean.
  refine Entails.bind (.refl _) fun window => ?_
  refine Entails.bind (.refl _) fun conditions => ?_
  refine Entails.bind (.refl _) fun order => ?_
  exact Entails.bind (entails_select service records conditions) fun selected => .refl _

/-- **Strict booleans only take answers away.** What a value answers under the strict reading it
answers under the lenient one, and a fault under the lenient reading is the same fault under the
strict one. A request that gets a page under the strict reading gets the same page under the
lenient one, and a request that fails under the lenient reading fails under the strict one,
perhaps for a reason that is met before. For requests this holds whatever else the settings say,
and for all ways of working in parallel, under either reading. -/
theorem strict_entails_lenient :
    (∀ (value : Value) (operator : Operator) (operands : List String),
      (∀ answer, satisfies .strict value operator operands = .ok answer →
        satisfies .lenient value operator operands = .ok answer) ∧
      ∀ fault, satisfies .lenient value operator operands = .error fault →
        satisfies .strict value operator operands = .error fault) ∧
    ∀ {ρ : Type} (service : Service ρ) (run run' : Keeping ρ), run.InPieces → run'.InPieces →
      ∀ (records : List ρ) (request : Request),
        (∀ page, (service.withReading .strict).listBy run records request = .ok page →
          (service.withReading .lenient).listBy run' records request = .ok page) ∧
        ∀ fault, (service.withReading .lenient).listBy run' records request = .error fault →
          ∃ found, (service.withReading .strict).listBy run records request = .error found := by
  constructor
  · intro value operator operands
    have narrows := narrows_satisfies value operator operands
    exact ⟨narrows.entails, fun fault => narrows.eq_error⟩
  · intro ρ service run run' inPieces inPieces' records request
    have entails : Entails ((service.withReading .strict).listBy run records request)
        ((service.withReading .lenient).listBy run' records request) := by
      rw [listBy_eq_list inPieces, listBy_eq_list inPieces']
      exact entails_list service records request
    exact ⟨entails, fun fault => entails.exists_error⟩

/-- Written-out truth values are read alike, and the tag of another kind is refused alike. -/
theorem strict_entails_lenient_tags :
    let service : Service Bool := { schema := Schema.empty.insert "done" (.boolean id) }
    let request : Request := { query := some "done().equalTo(:BOOLEAN:False)" }
    let tagged : Request := { query := some "done().equalTo(:integer:0)" }
    let fault : Fault := .badOperand .boolean ":integer:0" .foreignTag
    (satisfies .strict (.boolean true) (.comparing .notEqual) ["False"] = .ok true ∧
      satisfies .lenient (.boolean true) (.comparing .notEqual) ["False"] = .ok true) ∧
    (satisfies .lenient (.boolean true) (.comparing .equal) [":integer:0"] = .error fault ∧
      satisfies .strict (.boolean true) (.comparing .equal) [":integer:0"] = .error fault) ∧
    @Keeping.InPieces Bool (Keeping.lastFirst 1) ∧ @Keeping.InPieces Bool keepInTasks ∧
    (∃ page,
      (service.withReading .strict).listBy (Keeping.lastFirst 1) [true, false] request =
          .ok page ∧
        (service.withReading .lenient).listBy keepInTasks [true, false] request = .ok page) ∧
    (service.withReading .lenient).listBy keepInTasks [true, false] tagged = .error fault ∧
      ∃ found, (service.withReading .strict).listBy (Keeping.lastFirst 1) [true, false] tagged =
        .error found := by
  intro service request tagged fault
  have inPieces : @Keeping.InPieces Bool (Keeping.lastFirst 1) := Keeping.inPieces_lastFirst 1
  have inTasks : @Keeping.InPieces Bool keepInTasks := Keeping.inPieces_keepInTasks
  obtain ⟨values, requests⟩ := strict_entails_lenient
  have answered : satisfies .strict (.boolean true) (.comparing .notEqual) ["False"] =
      .ok true := by rfl
  have refused : satisfies .lenient (.boolean true) (.comparing .equal) [":integer:0"] =
      .error fault := by rfl
  obtain ⟨window, settled⟩ : ∃ window, request.window service.settings = .ok window := ⟨_, by rfl⟩
  let closed : Condition :=
    ⟨.plain, "done", .comparing .equal, [":BOOLEAN:False"], "done().equalTo(:BOOLEAN:False)"⟩
  let foreign : Condition :=
    ⟨.plain, "done", .comparing .equal, [":integer:0"], "done().equalTo(:integer:0)"⟩
  have parsed : Condition.parseFilter "done().equalTo(:BOOLEAN:False)" = .ok [closed] := by rfl
  have parsed' : Condition.parseFilter "done().equalTo(:integer:0)" = .ok [foreign] := by rfl
  have planned : (service.withReading .strict).plan request = .ok ⟨window, [closed], []⟩ :=
    plan_eq_ok_iff.mpr ⟨settled, parsed, by rfl⟩
  have planned' : (service.withReading .lenient).plan tagged = .ok ⟨window, [foreign], []⟩ :=
    plan_eq_ok_iff.mpr ⟨settled, parsed', by rfl⟩
  obtain ⟨page, listed⟩ : ∃ page,
      (service.withReading .strict).listBy (Keeping.lastFirst 1) [true, false] request =
        .ok page := by
    rw [listBy_of_plan planned]
    exact ⟨_, rfl⟩
  have fails : (service.withReading .lenient).listBy keepInTasks [true, false] tagged =
      .error fault := by
    rw [listBy_of_plan planned']
    rfl
  refine ⟨⟨answered, ?_⟩, ⟨refused, ?_⟩, inPieces, inTasks, ⟨page, listed, ?_⟩, fails, ?_⟩
  · exact (values _ _ _).1 true answered
  · exact (values _ _ _).2 fault refused
  · exact (requests service _ _ inPieces inTasks _ request).1 page listed
  · exact (requests service _ _ inPieces inTasks _ tagged).2 fault fails

end Service

end Listing
