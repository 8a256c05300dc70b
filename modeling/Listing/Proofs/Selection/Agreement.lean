import Listing.Proofs.Operand

/-!
# `Listing/Proofs/Selection/Agreement.lean` — ways of working in parallel agree

Of pieces that are gone through side by side several may end in a fault, and `Keeping.InPieces`
leaves open whose fault it is that is reported. For a test of any kind this makes a difference. For
the test of a filter it does not: all records that end in a fault end in the same one
(`fault_unique_of_stopsWith`). So there is nothing to choose from, and selecting in parallel is
selecting, with its results and with its faults (`selectBy_eq_select`). A service does nothing else
in parallel, so listing is listing, too (`listBy_eq_list`).

**`selectBy_agrees`** says this of any two ways of working in parallel, and what the pieces have to
do with the whole.
-/

set_option autoImplicit false

namespace Listing.Service

variable {ρ : Type}

/-! ## In parallel or in order -/

/-- It cannot be told from a selection how the records were gone through. -/
theorem selectBy_eq_select {run : Keeping ρ} (inPieces : run.InPieces) (service : Service ρ) :
    service.selectBy run = service.select := by
  funext records conditions
  rw [← selectBy_keepInTasks]
  cases outcome : service.selectBy keepInTasks records conditions with
  | ok selected => exact (selectBy_eq_ok_iff inPieces).mpr outcome
  | error fault =>
    have fails := (selectBy_eq_error_iff Keeping.inPieces_keepInTasks).mp outcome
    exact (selectBy_eq_error_iff inPieces).mpr fails

theorem listBy_eq_list {run : Keeping ρ} (inPieces : run.InPieces) (service : Service ρ) :
    service.listBy run = service.list := by
  rw [← listBy_keepInTasks]
  funext records request
  unfold listBy
  rw [selectBy_eq_select inPieces, selectBy_keepInTasks]

/-! ## From how many records on -/

theorem select_withThreshold (service : Service ρ) (threshold : UInt64) :
    (service.withThreshold threshold).select = service.select := by
  funext records conditions
  rw [select_eq, select_eq]
  rfl

theorem list_withThreshold (service : Service ρ) (threshold : UInt64) :
    (service.withThreshold threshold).list = service.list := by
  funext records request
  unfold list execute
  rw [select_withThreshold]
  rfl

/-- **Filtering in parallel agrees with filtering in order.** Let records be cut in any way into
pieces, at least one. Then, whether the threshold sends a service through the pieces or through the
records in order, it selects from the whole exactly if it selects from each piece, namely what it
selects from the pieces in a row; and a fault of the whole is the fault of one of the pieces.
Neither the threshold nor the way of working in parallel changes what is selected or listed, or
which fault is reported. Services work in parallel by tasks, and that is one of the ways. -/
theorem selectBy_agrees (service : Service ρ) (conditions : List Condition) :
    (@Keeping.InPieces ρ keepInTasks ∧ service.selectBy keepInTasks = service.select ∧
      service.listBy keepInTasks = service.list) ∧
    (∀ pieces : List (List ρ), pieces ≠ [] →
      ∀ run : Keeping ρ, run.CutsInto pieces → ∀ threshold,
        let whole := (service.withThreshold threshold).selectBy run pieces.flatten conditions
        (∀ selected, whole = .ok selected ↔
          ∃ parts : List (List ρ),
            pieces.map (fun piece => service.select piece conditions) = parts.map .ok ∧
              selected = parts.flatten) ∧
        ∀ fault, whole = .error fault →
          ∃ piece ∈ pieces, service.select piece conditions = .error fault) ∧
    ∀ run run' : Keeping ρ, run.InPieces → run'.InPieces → ∀ threshold threshold' records,
      (service.withThreshold threshold).selectBy run records conditions =
        (service.withThreshold threshold').selectBy run' records conditions ∧
      ∀ request, (service.withThreshold threshold).listBy run records request =
        (service.withThreshold threshold').listBy run' records request := by
  refine ⟨⟨Keeping.inPieces_keepInTasks, service.selectBy_keepInTasks,
    service.listBy_keepInTasks⟩, ?_, ?_⟩
  · intro pieces some run cuts threshold
    have gathered := gathered_selectBy some cuts service threshold conditions
    refine ⟨fun selected => gathered.eq_ok_iff, fun fault fails => ?_⟩
    rw [fails] at gathered
    exact List.mem_map.mp gathered.error_mem
  · intro run run' inPieces inPieces' threshold threshold' records
    constructor
    · rw [selectBy_eq_select inPieces, selectBy_eq_select inPieces', select_withThreshold,
        select_withThreshold]
    · intro request
      rw [listBy_eq_list inPieces, listBy_eq_list inPieces', list_withThreshold,
        list_withThreshold]

/-- Two workers agree with one: on what is there, and on an operand that is missing, which both of
them come to. -/
theorem selectBy_agrees_two_workers :
    let service : Service (Option String) := { schema := Schema.empty.insert "s" (.string id) }
    let present := Condition.ofParts .plain "s" .unrestricted []
    let unusable := Condition.ofParts .plain "s" (.comparing .less) []
    let pieces : List (List (Option String)) := [[some "b", none], [some "a"]]
    let parallel := (service.withThreshold 0).selectBy (Keeping.lastFirst 2) pieces.flatten
    pieces ≠ [] ∧ (Keeping.lastFirst 2).CutsInto pieces ∧
      parallel [present] = .ok [some "b", some "a"] ∧
      (∃ piece ∈ pieces,
        service.select piece [unusable] = .error (.operandMissing (.comparing .less))) ∧
      @Keeping.InPieces (Option String) (Keeping.lastFirst 2) ∧
      @Keeping.InPieces (Option String) keepInTasks ∧
      parallel [unusable] = service.select pieces.flatten [unusable] := by
  intro service present unusable pieces parallel
  have some : pieces ≠ [] := List.cons_ne_nil _ _
  have cuts : (Keeping.lastFirst 2).CutsInto pieces :=
    fun test => Keeping.gathered_lastFirst 2 test pieces.flatten
  have fails : parallel [unusable] = .error (.operandMissing (.comparing .less)) := by rfl
  have inPieces : @Keeping.InPieces (Option String) (Keeping.lastFirst 2) :=
    Keeping.inPieces_lastFirst 2
  have inTasks : @Keeping.InPieces (Option String) keepInTasks := Keeping.inPieces_keepInTasks
  obtain ⟨-, ofPieces, agree⟩ := selectBy_agrees service [unusable]
  refine ⟨some, cuts, ?_, (ofPieces pieces some _ cuts 0).2 _ fails, inPieces, inTasks,
    (agree _ _ inPieces inTasks 0 service.settings.parallelThreshold _).1⟩
  exact (((selectBy_agrees service [present]).2.1 pieces some _ cuts 0).1 _).mpr
    ⟨[[Option.some "b"], [Option.some "a"]], by rfl, by rfl⟩

end Listing.Service
