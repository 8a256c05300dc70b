import Listing.Proofs.Selection

/-!
# `Listing/Proofs/Selection/Parallel.lean` — filtering in parallel

From a number of records on, a service filters in parallel. `keepInTasks` is one way to do so, and
a fixed one: it cuts after a fixed number of records and reports the fault that comes first. A
scheduler that is at liberty where to cut, and which of several faults to report, is another.

So here the way of working in parallel is a parameter, a `Keeping`, and all that is taken for
granted about it is `Keeping.InPieces`: it cuts the records into consecutive pieces *somehow*,
goes through each of them in order, and gathers what they give — everything that was kept, piece
after piece, or else the fault of *some* piece. `Service.selectBy` and `Service.listBy` are
`Service.select` and `Service.list` with this parameter.

For tests in general this leaves open which of several faults is reported, and nothing else
(`Keeping.InPieces.sameResult`). So a selection succeeds in parallel exactly if it does in order,
and selects the same (`selectBy_eq_ok_iff`). That it also fails in the same way is due to what the
test of a filter is, and shown in `Listing/Proofs/Selection/Agreement.lean`.
-/

set_option autoImplicit false

namespace Listing

open Outcome

variable {ρ : Type}

/-! ## Gathering -/

/-- What may come of the pieces of a list that are gone through side by side: all that they keep,
in the order of the pieces, or the fault of any one of them. -/
inductive Gathered : List (Except Fault (List ρ)) → Except Fault (List ρ) → Prop where
  | kept (parts : List (List ρ)) : Gathered (parts.map .ok) (.ok parts.flatten)
  | failed {outcomes : List (Except Fault (List ρ))} {fault : Fault}
      (mem : .error fault ∈ outcomes) : Gathered outcomes (.error fault)

namespace Gathered

variable {outcomes : List (Except Fault (List ρ))} {outcome other : Except Fault (List ρ)}

theorem eq_ok_iff (gathered : Gathered outcomes outcome) {all : List ρ} :
    outcome = .ok all ↔
      ∃ parts : List (List ρ), outcomes = parts.map .ok ∧ all = parts.flatten := by
  cases gathered with
  | kept parts =>
    constructor
    · intro same
      exact ⟨parts, rfl, (Except.ok.inj same).symm⟩
    · rintro ⟨others, same, rfl⟩
      rw [List.map_injective_iff.mpr (fun _ _ => Except.ok.inj) same]
  | failed mem =>
    constructor
    · intro same
      cases same
    · rintro ⟨parts, rfl, -⟩
      obtain ⟨part, -, same⟩ := List.mem_map.mp mem
      cases same

theorem error_mem {fault : Fault} (gathered : Gathered outcomes (.error fault)) :
    .error fault ∈ outcomes := by
  cases gathered with
  | failed mem => exact mem

/-- It is open which of several faults is reported, but not whether there is one. -/
theorem sameResult (gathered : Gathered outcomes outcome) (again : Gathered outcomes other) :
    SameResult outcome other := by
  cases outcome with
  | ok all =>
    rw [again.eq_ok_iff.mpr (gathered.eq_ok_iff.mp rfl)]
    exact .ok all
  | error fault =>
    cases other with
    | ok all => cases gathered.eq_ok_iff.mpr (again.eq_ok_iff.mp rfl)
    | error last => exact .error fault last

end Gathered

/-- Going through a list in order is one of the things that may come of its pieces, wherever it is
cut. -/
theorem gathered_keep (test : ρ → Except Fault Bool) (pieces : List (List ρ)) :
    Gathered (pieces.map (keep test)) (keep test pieces.flatten) := by
  induction pieces with
  | nil => exact .kept []
  | cons piece rest ih =>
    rw [List.flatten_cons, keep_append, List.map_cons]
    cases keep test piece with
    | error fault => exact .failed List.mem_cons_self
    | ok part =>
      cases others : keep test rest.flatten with
      | error fault =>
        rw [others] at ih
        exact .failed (List.mem_cons_of_mem _ ih.error_mem)
      | ok all =>
        obtain ⟨parts, same, rfl⟩ := ih.eq_ok_iff.mp others
        rw [same]
        exact .kept (part :: parts)

/-! ## Ways of working in parallel -/

/-- A way of keeping the records that pass a test. -/
abbrev Keeping (ρ : Type) : Type :=
  (ρ → Except Fault Bool) → List ρ → Except Fault (List ρ)

namespace Keeping

/-- These pieces are gone through one by one, and what they give is gathered. -/
def CutsInto (run : Keeping ρ) (pieces : List (List ρ)) : Prop :=
  ∀ test, Gathered (pieces.map (keep test)) (run test pieces.flatten)

/-- All that is taken for granted about working in parallel: some consecutive pieces of the
records are gone through one by one, and what they give is gathered. -/
def InPieces (run : Keeping ρ) : Prop :=
  ∀ test records, ∃ pieces : List (List ρ), pieces.flatten = records ∧
    Gathered (pieces.map (keep test)) (run test records)

theorem InPieces.sameResult {run : Keeping ρ} (inPieces : run.InPieces)
    (test : ρ → Except Fault Bool) (records : List ρ) :
    SameResult (run test records) (keep test records) := by
  obtain ⟨pieces, rfl, gathered⟩ := inPieces test records
  exact gathered.sameResult (gathered_keep test pieces)

theorem InPieces.exists_mem_of_eq_error {run : Keeping ρ} (inPieces : run.InPieces)
    {test : ρ → Except Fault Bool} {records : List ρ} {fault : Fault}
    (fails : run test records = .error fault) : ∃ record ∈ records, test record = .error fault := by
  obtain ⟨pieces, rfl, gathered⟩ := inPieces test records
  rw [fails] at gathered
  obtain ⟨piece, isPiece, pieceFails⟩ := List.mem_map.mp gathered.error_mem
  obtain ⟨record, first, recordFails⟩ := keep_eq_error_iff.mp pieceFails
  exact ⟨record, List.mem_flatten_of_mem isPiece first.mem, recordFails⟩

theorem inPieces_keepInTasks : @InPieces ρ keepInTasks := by
  intro test records
  have gathered := gathered_keep test (cutEvery pieceSize records)
  rw [flatten_cutEvery] at gathered
  refine ⟨cutEvery pieceSize records, flatten_cutEvery pieceSize records, ?_⟩
  rw [keepInTasks_eq]
  exact gathered

/-- Two workers, of which the one with the second part of the records is done first: where both
find a fault, it is the second one that is reported. -/
def lastFirst (cut : Nat) : Keeping ρ := fun test records => do
  let second ← keep test (records.drop cut)
  let first ← keep test (records.take cut)
  return first ++ second

theorem gathered_lastFirst (cut : Nat) (test : ρ → Except Fault Bool) (records : List ρ) :
    Gathered ([records.take cut, records.drop cut].map (keep test))
      (lastFirst cut test records) := by
  unfold lastFirst
  rw [List.map_cons, List.map_singleton]
  cases keep test (records.drop cut) with
  | error fault => exact .failed (List.mem_cons_of_mem _ List.mem_cons_self)
  | ok second =>
    cases keep test (records.take cut) with
    | error fault => exact .failed List.mem_cons_self
    | ok first =>
      have gathered := Gathered.kept [first, second]
      rw [List.flatten_cons, List.flatten_singleton] at gathered
      exact gathered

theorem inPieces_lastFirst (cut : Nat) : @InPieces ρ (lastFirst cut) := by
  intro test records
  refine ⟨[records.take cut, records.drop cut], ?_, gathered_lastFirst cut test records⟩
  rw [List.flatten_cons, List.flatten_singleton, List.take_append_drop]

end Keeping

/-! ## Services that work in parallel -/

namespace Service

/-- The same service with another number of records from which on it works in parallel. -/
def withThreshold (service : Service ρ) (threshold : UInt64) : Service ρ :=
  { service with settings := { service.settings with parallelThreshold := threshold } }

/-- `Service.select`, working in parallel in the given way. -/
def selectBy (run : Keeping ρ) (service : Service ρ) (records : List ρ)
    (conditions : List Condition) : Except Fault (List ρ) := do
  let bound ← service.schema.bindConditions conditions
  let test := fun record => matchesAll service.settings.booleanReading record bound
  if records.length < service.settings.parallelThreshold.toNat then keep test records
  else run test records

/-- `Service.list`, working in parallel in the given way. -/
def listBy (run : Keeping ρ) (service : Service ρ) (records : List ρ) (request : Request) :
    Except Fault (Page ρ) := do
  let window ← request.window service.settings
  let conditions ← Condition.parseFilter (request.query.getD "")
  let order ← SortKey.parseOrder (request.sort.getD "")
  let selected ← service.selectBy run records conditions
  let sorted ← service.sort selected order
  return .ofResult sorted window

theorem selectBy_keepInTasks (service : Service ρ) :
    service.selectBy keepInTasks = service.select :=
  rfl

theorem listBy_keepInTasks (service : Service ρ) :
    service.listBy keepInTasks = service.list := by
  funext records request
  unfold listBy list execute
  rfl

theorem gathered_selectBy {run : Keeping ρ} {pieces : List (List ρ)} (some : pieces ≠ [])
    (cuts : run.CutsInto pieces) (service : Service ρ) (threshold : UInt64)
    (conditions : List Condition) :
    Gathered (pieces.map fun piece => service.select piece conditions)
      ((service.withThreshold threshold).selectBy run pieces.flatten conditions) := by
  simp only [select_eq]
  unfold selectBy
  show Gathered _ (service.schema.bindConditions conditions >>= _)
  cases service.schema.bindConditions conditions with
  | error fault =>
    -- Conditions are bound once, before anything is cut, but any piece alone fails alike.
    obtain ⟨piece, mem⟩ := List.exists_mem_of_ne_nil pieces some
    exact .failed (List.mem_map.mpr ⟨piece, mem, rfl⟩)
  | ok bound =>
    show Gathered (pieces.map (keep _)) (if _ then _ else _)
    split
    · exact gathered_keep _ pieces
    · exact cuts _

theorem selectBy_sameResult_select {run : Keeping ρ} (inPieces : run.InPieces)
    (service : Service ρ) (records : List ρ) (conditions : List Condition) :
    SameResult (service.selectBy run records conditions) (service.select records conditions) := by
  rw [select_eq]
  refine SameResult.bind (.refl _) fun bound => ?_
  dsimp only
  split
  · exact .refl _
  · exact inPieces.sameResult _ records

theorem selectBy_eq_ok_iff {run : Keeping ρ} (inPieces : run.InPieces) {service : Service ρ}
    {records selected : List ρ} {conditions : List Condition} :
    service.selectBy run records conditions = .ok selected ↔
      service.select records conditions = .ok selected :=
  (selectBy_sameResult_select inPieces service records conditions).eq_ok_iff

end Service

end Listing
