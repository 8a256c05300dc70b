import Listing.Proofs.Blame
import Listing.Proofs.Renaming

/-!
# `Listing/Proofs/NamedFields.lean` — what a request sees of a record

A request names some fields, in its conditions and its sort keys, and the others are none of its
business: what they hold must not show in the answer. That is a statement about two lists of
records that agree in the named fields and differ in the rest. The answers hold different
records, of course; the same is *where* they stand. So `Service.positionsBy` is the answer in
positions, got by giving every record its number before anything else is done.

The two lists are compared by a third, of pairs of records that agree in the named fields. Both
are this list, once replaced by the left and once by the right halves, so by the lemmas of
`Renaming` both answers are its answer, for two services. And these two services are the same as
far as the request can tell: for such a pair it makes no difference whether a named field is read
from the left or from the right (`positionsBy_congr`).

**`positionsBy_of_alike`** says that positions are all the same.
-/

set_option autoImplicit false

namespace Listing

open Outcome

variable {ρ σ : Type}

/-- An accessor is determined by its kind and by what it reads. -/
theorem Accessor.ext_extract {accessor other : Accessor ρ} (kind : accessor.kind = other.kind)
    (extract : ∀ record, accessor.extract record = other.extract record) : accessor = other := by
  cases accessor <;> cases other <;> cases kind <;>
    simp only [Accessor.extract, Value.string.injEq, Value.date.injEq, Value.boolean.injEq,
      Value.integer.injEq, Value.decimal.injEq] at extract <;>
    rw [funext extract]

/-! ## Fields that are named -/

/-- A request, once it is read, names the fields of its conditions and of its sort keys. -/
def Plan.Names (plan : Plan) (name : String) : Prop :=
  (∃ condition ∈ plan.conditions, condition.field = name) ∨
    ∃ key ∈ plan.order, key.field = name

namespace Service

variable {request : Request} {service other : Service ρ}

/-- Services with the same settings give the same answers if they agree on what a field is, as far
as the request names it. -/
theorem listBy_congr (settings : service.settings = other.settings)
    (agree : ∀ plan, service.plan request = .ok plan → ∀ name, plan.Names name →
      service.schema.get? name = other.schema.get? name)
    (run : Keeping ρ) (records : List ρ) :
    service.listBy run records request = other.listBy run records request := by
  have samePlan : service.plan request = other.plan request := by
    unfold plan
    rw [settings]
  rw [listBy_eq, listBy_eq, ← samePlan]
  cases planned : service.plan request with
  | error fault => rfl
  | ok plan =>
    have sameField (name : String) (names : plan.Names name) :
        service.schema.resolve name = other.schema.resolve name := by
      unfold Schema.resolve
      rw [agree plan planned name names]
    have sameConditions : service.schema.bindConditions plan.conditions =
        other.schema.bindConditions plan.conditions := by
      apply mapM_congr
      intro condition mem
      unfold Schema.bindCondition
      rw [sameField condition.field (.inl ⟨condition, mem, rfl⟩)]
    have sameKeys : service.schema.bindKeys plan.order = other.schema.bindKeys plan.order := by
      apply mapM_congr
      intro key mem
      unfold Schema.bindKey
      rw [sameField key.field (.inr ⟨key, mem, rfl⟩)]
    simp only [ok_bind, executeBy, selectBy, sort, sameConditions, sameKeys, settings]

/-! ## Positions -/

/-- The answer to a request, with the positions of records in the place of the records. -/
def positionsBy (run : ∀ α : Type, Keeping α) (service : Service ρ) (records : List ρ)
    (request : Request) : Except Fault (Page Nat) :=
  Page.map Prod.snd <$> (service.via Prod.fst).listBy (run (ρ × Nat)) records.zipIdx request

variable {run : ∀ α : Type, Keeping α}

theorem positionsBy_congr (settings : service.settings = other.settings)
    (agree : ∀ plan, service.plan request = .ok plan → ∀ name, plan.Names name →
      service.schema.get? name = other.schema.get? name)
    (records : List ρ) :
    service.positionsBy run records request = other.positionsBy run records request := by
  unfold positionsBy
  congr 1
  apply listBy_congr
  · exact settings
  · intro plan planned name names
    show (service.schema.via Prod.fst).get? name = (other.schema.via Prod.fst).get? name
    rw [Schema.get?_via, Schema.get?_via, agree plan planned name names]

section

variable (blind : Keeping.Blind run)

include blind

/-- Records have the positions of what stands for them. -/
theorem positionsBy_map (f : σ → ρ) (service : Service ρ) (standIns : List σ) :
    service.positionsBy run (standIns.map f) request =
      (service.via f).positionsBy run standIns request := by
  unfold positionsBy
  rw [List.zipIdx_map, listBy_map blind, via_via, via_via]
  simp only [Functor.map_map, Page.map_map, Prod.map_fst, Prod.map_snd, id]

/-- The answer in positions is the answer: the records on the page stand in these positions. -/
theorem getElem?_positionsBy (service : Service ρ) (records : List ρ) (request : Request) :
    Page.map (records[·]?) <$> service.positionsBy run records request =
      Page.map some <$> service.listBy (run ρ) records request := by
  have plain : service.listBy (run ρ) records request =
      Page.map Prod.fst <$> (service.via Prod.fst).listBy (run _) records.zipIdx request := by
    rw [← listBy_map blind, List.zipIdx_map_fst]
  have numbered : (service.via Prod.fst).listBy (run _) records.zipIdx request =
      Page.map Subtype.val <$>
        ((service.via Prod.fst).via Subtype.val).listBy (run _) records.zipIdx.attach request := by
    rw [← listBy_map blind, List.attach_map_subtype_val]
  have found (entry : { entry // entry ∈ records.zipIdx }) :
      records[entry.val.2]? = some entry.val.1 :=
    List.mem_zipIdx_iff_getElem?.mp entry.property
  rw [plain, positionsBy, numbered]
  simp only [Functor.map_map, Page.map_map, found]

end

/-! ## Records that look alike -/

/-- Two records hold the same in all fields that a request names. -/
def Alike (service : Service ρ) (request : Request) (left right : ρ) : Prop :=
  ∀ plan, service.plan request = .ok plan → ∀ name, plan.Names name →
    ∀ accessor, service.schema.get? name = some accessor →
      accessor.extract left = accessor.extract right

/-- Lists that are related place by place are the two halves of one list of related pairs. -/
theorem exists_pairs {R : ρ → ρ → Prop} {left right : List ρ}
    (related : List.Forall₂ R left right) :
    ∃ pairs : List { pair : ρ × ρ // R pair.1 pair.2 },
      pairs.map (fun pair => pair.val.1) = left ∧ pairs.map (fun pair => pair.val.2) = right := by
  induction related with
  | nil => exact ⟨[], rfl, rfl⟩
  | cons head _ ih =>
    obtain ⟨pairs, rfl, rfl⟩ := ih
    exact ⟨⟨(_, _), head⟩ :: pairs, rfl, rfl⟩

theorem positionsBy_eq_of_blind (blind : Keeping.Blind run) {left right : List ρ}
    (alike : List.Forall₂ (service.Alike request) left right) :
    service.positionsBy run left request = service.positionsBy run right request := by
  obtain ⟨pairs, rfl, rfl⟩ := exists_pairs alike
  rw [positionsBy_map blind, positionsBy_map blind]
  apply positionsBy_congr
  · rfl
  intro plan planned name names
  show (service.schema.via _).get? name = (service.schema.via _).get? name
  rw [Schema.get?_via, Schema.get?_via]
  cases known : service.schema.get? name with
  | none => rfl
  | some accessor =>
    apply congrArg some
    apply Accessor.ext_extract
    · rw [Accessor.kind_via, Accessor.kind_via]
    · intro pair
      rw [Accessor.extract_via, Accessor.extract_via]
      exact pair.property plan planned name names accessor known

/-- It makes no difference to positions either how the records are gone through. -/
theorem positionsBy_eq_of_inPieces (inPieces : ∀ α, (run α).InPieces) (service : Service ρ) :
    service.positionsBy run = service.positionsBy fun _ => keepInTasks := by
  funext records request
  unfold positionsBy
  rw [listBy_eq_list (inPieces _), listBy_keepInTasks]

/-- **A request sees only the fields that it names.** Let two lists of records agree, place by
place, in the fields that a request names and the service knows. Then the answer is the same, in
positions: the same fault, or pages of the same window of results of the same length, with records
from the same positions in the same order. It is the same whenever both lists are gone through in
the same way, for one by tasks, and also if each is gone through in its own way in parallel. -/
theorem positionsBy_of_alike (service : Service ρ) (request : Request) {left right : List ρ}
    (alike : List.Forall₂ (service.Alike request) left right) :
    (∀ run : ∀ α : Type, Keeping α, Keeping.Blind run →
      service.positionsBy run left request = service.positionsBy run right request) ∧
    (∀ run : ∀ α : Type, Keeping α, Keeping.Blind run → ∀ records,
      Page.map (records[·]?) <$> service.positionsBy run records request =
        Page.map some <$> service.listBy (run ρ) records request) ∧
    (Keeping.Blind (fun _ => keepInTasks) ∧ service.listBy keepInTasks = service.list) ∧
    ∀ run run' : ∀ α : Type, Keeping α, (∀ α, (run α).InPieces) → (∀ α, (run' α).InPieces) →
      service.positionsBy run left request = service.positionsBy run' right request := by
  have blindTasks : Keeping.Blind fun _ => keepInTasks := Keeping.blind_keepInTasks
  refine ⟨fun run blind => positionsBy_eq_of_blind blind alike,
    fun run blind records => getElem?_positionsBy blind service records request,
    ⟨blindTasks, listBy_keepInTasks service⟩, ?_⟩
  intro run run' inPieces inPieces'
  rw [positionsBy_eq_of_inPieces inPieces, positionsBy_eq_of_inPieces inPieces']
  exact positionsBy_eq_of_blind blindTasks alike

/-- A number that the request does not name changes nothing, whether both lists are gone through
in the same way or not. -/
theorem positionsBy_of_alike_other_numbers :
    let schema := (Schema.empty.insert "s" (.string Prod.fst)).insert "n" (.integer Prod.snd)
    let service : Service (Option String × Int64) := { schema }
    let request : Request := { query := some "s().none()", sort := some "S:desc" }
    let left := [(some "b", 1), (none, 2), (some "A", 3)]
    let right := [(some "b", 7), (none, -2), (some "A", 3)]
    let parallel : ∀ α : Type, Keeping α := fun _ => Keeping.lastFirst 1
    left ≠ right ∧ List.Forall₂ (service.Alike request) left right ∧
      Keeping.Blind parallel ∧ (∀ α, (parallel α).InPieces) ∧
      (∀ α, @Keeping.InPieces α keepInTasks) ∧
      service.positionsBy parallel left request = service.positionsBy parallel right request ∧
      Page.map (left[·]?) <$> service.positionsBy parallel left request =
        Page.map some <$> service.listBy (Keeping.lastFirst 1) left request ∧
      service.positionsBy parallel left request =
        service.positionsBy (fun _ => keepInTasks) right request := by
  intro schema service request left right parallel
  let present : Condition := ⟨.plain, "s", .unrestricted, [], "s().none()"⟩
  have parsed : Condition.parseFilter "s().none()" = .ok [present] := by rfl
  have ordered : SortKey.parseOrder "S:desc" = .ok [⟨"S", .descending⟩] := by rfl
  obtain ⟨window, settled⟩ : ∃ window, request.window service.settings = .ok window := ⟨_, by rfl⟩
  have planned : service.plan request = .ok ⟨window, [present], [⟨"S", .descending⟩]⟩ :=
    plan_eq_ok_iff.mpr ⟨settled, parsed, ordered⟩
  have alike (text : Option String) (number number' : Int64) :
      service.Alike request (text, number) (text, number') := by
    intro plan read name names accessor known
    obtain rfl := Except.ok.inj (planned.symm.trans read)
    have isText : schema.get? name = some (.string Prod.fst) := by
      rcases names with ⟨condition, mem, rfl⟩ | ⟨key, mem, rfl⟩
      · rw [List.mem_singleton.mp mem]
        rfl
      · rw [List.mem_singleton.mp mem]
        rfl
    obtain rfl := Option.some.inj (isText.symm.trans known)
    rfl
  have allAlike : List.Forall₂ (service.Alike request) left right :=
    .cons (alike _ _ _) (.cons (alike _ _ _) (.cons (alike _ _ _) .nil))
  have blind : Keeping.Blind parallel := Keeping.blind_lastFirst 1
  have inPieces : ∀ α, (parallel α).InPieces := fun _ => Keeping.inPieces_lastFirst 1
  have inTasks : ∀ α, @Keeping.InPieces α keepInTasks := fun _ => Keeping.inPieces_keepInTasks
  obtain ⟨same, places, -, mixed⟩ := positionsBy_of_alike service request allAlike
  exact ⟨by decide, allAlike, blind, inPieces, inTasks, same parallel blind,
    places parallel blind left, mixed parallel (fun _ => keepInTasks) inPieces inTasks⟩

end Service

end Listing
