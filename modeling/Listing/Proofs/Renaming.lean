import Listing.Proofs.Selection.Parallel
import Listing.Proofs.Arrangement

/-!
# `Listing/Proofs/Renaming.lean` — records by other names

Nothing in this library looks into a record but the accessors. So a record may be replaced by
anything that stands for it, a number or a copy with a note attached, if only the accessors know
how to get from the one to the other. `Service.via` is a service for such stand-ins.

The lemmas go through the library from accessors upwards and say of each step that it makes no
difference whether records are replaced before or after it. Two of the steps are not obvious.
Sorting compares records and moves them, and what it does is decided by the comparisons alone.
And a service may go through its records in parallel; that this sees nothing of a record but what
the test says of it has to be asked for (`Keeping.Blind`).

**`Service.listBy_map`** is the last step: a request.
-/

set_option autoImplicit false

namespace Listing

open Outcome

variable {ρ σ τ : Type}

/-! ## Fields -/

namespace Accessor

/-- The same field, of things that stand for records. -/
def via (f : σ → ρ) : Accessor ρ → Accessor σ
  | string get => string fun standIn => get (f standIn)
  | date get => date fun standIn => get (f standIn)
  | boolean get => boolean fun standIn => get (f standIn)
  | integer get => integer fun standIn => get (f standIn)
  | decimal get => decimal fun standIn => get (f standIn)

@[simp] theorem kind_via (f : σ → ρ) (accessor : Accessor ρ) :
    (accessor.via f).kind = accessor.kind := by
  cases accessor <;> rfl

@[simp] theorem extract_via (f : σ → ρ) (accessor : Accessor ρ) (standIn : σ) :
    (accessor.via f).extract standIn = accessor.extract (f standIn) := by
  cases accessor <;> rfl

theorem via_via (f : σ → ρ) (g : τ → σ) (accessor : Accessor ρ) :
    (accessor.via f).via g = accessor.via fun standIn => f (g standIn) := by
  cases accessor <;> rfl

end Accessor

/-- The same condition, of things that stand for records. -/
def BoundCondition.via (f : σ → ρ) (bound : BoundCondition ρ) : BoundCondition σ :=
  ⟨bound.accessor.via f, bound.condition⟩

/-- The same key, of things that stand for records. -/
def BoundKey.via (f : σ → ρ) (key : BoundKey ρ) : BoundKey σ :=
  ⟨key.accessor.via f, key.direction⟩

namespace Schema

/-- The same fields, of things that stand for records. -/
def via (f : σ → ρ) (schema : Schema ρ) : Schema σ where
  entries := schema.entries.map fun entry => (entry.1, entry.2.via f)
  ordered := List.pairwise_map.mpr schema.ordered

variable (f : σ → ρ) (schema : Schema ρ)

theorem get?_via (name : String) : (schema.via f).get? name = (schema.get? name).map (·.via f) := by
  unfold get? via
  simp only [List.find?_map, Function.comp_def]
  cases schema.entries.find? fun entry => entry.1 = name with
  | some entry => rfl
  | none => cases schema.entries.find? fun entry => Text.agree entry.1.toList name.toList <;> rfl

theorem resolve_via (name : String) :
    (schema.via f).resolve name = (·.via f) <$> schema.resolve name := by
  unfold resolve
  rw [get?_via]
  cases schema.get? name <;> rfl

theorem bindConditions_via (conditions : List Condition) :
    (schema.via f).bindConditions conditions =
      List.map (BoundCondition.via f) <$> schema.bindConditions conditions := by
  unfold bindConditions
  rw [← mapM_map_result]
  apply mapM_congr
  intro condition _
  unfold bindCondition
  simp only [resolve_via, bind_map_left, map_bind, Accessor.kind_via, map_pure]
  rfl

theorem bindKeys_via (order : List SortKey) :
    (schema.via f).bindKeys order = List.map (BoundKey.via f) <$> schema.bindKeys order := by
  unfold bindKeys
  rw [← mapM_map_result]
  apply mapM_congr
  intro key _
  unfold bindKey
  simp only [resolve_via, bind_map_left, map_bind, map_pure]
  rfl

end Schema

/-! ## Selecting and sorting -/

theorem matchesAll_via (f : σ → ρ) (reading : BooleanReading) (standIn : σ)
    (bound : List (BoundCondition ρ)) :
    matchesAll reading standIn (bound.map (BoundCondition.via f)) =
      matchesAll reading (f standIn) bound := by
  induction bound with
  | nil => rfl
  | cons first rest ih =>
    simp only [List.map_cons, matchesAll, ih, BoundCondition.matches, BoundCondition.via,
      Accessor.extract_via]

theorem keep_map (f : σ → ρ) (test : ρ → Except Fault Bool) (standIns : List σ) :
    keep test (standIns.map f) =
      List.map f <$> keep (fun standIn => test (f standIn)) standIns := by
  induction standIns with
  | nil => rfl
  | cons standIn rest ih =>
    simp only [List.map_cons, keep, ih, map_bind, bind_map_left, map_pure]
    simp only [apply_ite, List.map_cons]

theorem compareRecords_via (f : σ → ρ) (keys : List (BoundKey ρ)) (left right : σ) :
    compareRecords (keys.map (BoundKey.via f)) left right =
      compareRecords keys (f left) (f right) := by
  induction keys with
  | nil => rfl
  | cons key keys ih =>
    simp only [List.map_cons, compareRecords, ih, BoundKey.compare, BoundKey.via,
      Accessor.extract_via]

theorem arrange_map (f : σ → ρ) (keys : List (BoundKey ρ)) (standIns : List σ) :
    arrange keys (standIns.map f) = (arrange (keys.map (BoundKey.via f)) standIns).map f := by
  unfold arrange
  rw [List.map_mergeSort]
  intro left _ right _
  rw [compareRecords_via]

/-- A way of working in parallel that can be used for records of every type, and which sees
nothing of a record but what the test says of it: things that stand for records fare alike. -/
def Keeping.Blind (run : ∀ α : Type, Keeping α) : Prop :=
  ∀ {σ ρ : Type} (f : σ → ρ) (test : ρ → Except Fault Bool) (standIns : List σ),
    run ρ test (standIns.map f) =
      List.map f <$> run σ (fun standIn => test (f standIn)) standIns

namespace Keeping

theorem blind_keepInTasks : Blind fun _ => keepInTasks := by
  intro σ ρ f test standIns
  simp only [keepInTasks_eq, keep_map]

theorem blind_lastFirst (cut : Nat) : Blind fun _ => lastFirst cut := by
  intro σ ρ f test standIns
  simp only [lastFirst, ← List.map_take, ← List.map_drop, keep_map, map_bind, bind_map_left,
    map_pure, List.map_append]

end Keeping

/-! ## Requests -/

namespace Service

/-- The same service, for things that stand for records. -/
def via (f : σ → ρ) (service : Service ρ) : Service σ :=
  ⟨service.schema.via f, service.settings⟩

theorem via_via (f : σ → ρ) (g : τ → σ) (service : Service ρ) :
    (service.via f).via g = service.via fun standIn => f (g standIn) := by
  unfold via Schema.via
  simp only [List.map_map, Function.comp_def, Accessor.via_via]

variable {run : ∀ α : Type, Keeping α} (blind : Keeping.Blind run) (f : σ → ρ)
  (service : Service ρ) (standIns : List σ)

include blind in
theorem selectBy_map (conditions : List Condition) :
    service.selectBy (run ρ) (standIns.map f) conditions =
      List.map f <$> (service.via f).selectBy (run σ) standIns conditions := by
  unfold selectBy via
  simp only [Schema.bindConditions_via, bind_map_left, map_bind, matchesAll_via, List.length_map,
    keep_map, blind f]
  simp only [apply_ite]

theorem sort_map (order : List SortKey) :
    service.sort (standIns.map f) order =
      List.map f <$> (service.via f).sort standIns order := by
  unfold sort via
  simp only [Schema.bindKeys_via, bind_map_left, map_bind, map_pure, arrange_map]

include blind in
/-- A page of records is the page of what stands for them, replaced by the records. -/
theorem listBy_map (request : Request) :
    service.listBy (run ρ) (standIns.map f) request =
      Page.map f <$> (service.via f).listBy (run σ) standIns request := by
  unfold listBy
  simp only [selectBy_map blind, sort_map, map_bind, bind_map_left, map_pure, Page.map_ofResult]
  rfl

end Service

end Listing
