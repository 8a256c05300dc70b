import Listing.Proofs.Lookup
import Listing.Proofs.NamedFields

/-!
# `Listing/Proofs/Registration.lean` — registering one more field

A host adds a field to a schema, or replaces one, and requests that have nothing to do with it
should not notice. A request mentions a field by a name that it has written, so the question is
which written names mean something else afterwards. The new name itself does. Any other one does
only if it used to find its field by the search that ignores case, or found none, and the new name
is now the first that this search comes to: the new name *overtakes* (`Overtakes`). There is no
third way, because a name that is registered means itself before and after, and a name that does
not agree with the new one is not looked for there.

So a schema answers for all names but these as before (`get?_insert_of_not_overtakes`), and a
request that writes none of them is answered as before, since a service looks at its schema in no
other way (`listBy_congr`).

**`Service.listBy_register`** puts both together.
-/

set_option autoImplicit false

namespace Listing

open Outcome Text

/-! ## Overtaking -/

/-- A name that is added to others is what a written name means from then on: the two agree, the
written name is none of the others, and of those that agree with it none comes before. -/
structure Overtakes (names : List String) (name written : String) : Prop where
  agrees : agree name.toList written.toList = true
  absent : written ∉ names
  first : ∀ other ∈ names, agree other.toList written.toList = true →
    (compareNames name other).isLE

namespace Overtakes

variable {names : List String} {name written found : String}

theorem means_cons (overtakes : Overtakes names name written) (ne : written ≠ name) :
    Means (name :: names) written name := by
  have absent : written ∉ name :: names := List.not_mem_cons_of_ne_of_not_mem ne overtakes.absent
  refine .similar absent List.mem_cons_self overtakes.agrees ?_
  intro other mem agrees
  rcases List.mem_cons.mp mem with rfl | mem
  · exact Std.ReflCmp.isLE_rfl
  · exact overtakes.first other mem agrees

/-- A name that is meant already has overtaken. -/
theorem of_means (means : Means names written name) (ne : written ≠ name) :
    Overtakes names name written := by
  cases means with
  | exact _ => exact absurd rfl ne
  | similar absent _ agrees first => exact ⟨agrees, absent, first⟩

/-- If a name does not overtake, the same is meant with it and without it. -/
theorem means_cons_iff_of_not (stays : ¬ Overtakes names name written) (ne : written ≠ name) :
    Means (name :: names) written found ↔ Means names written found := by
  constructor
  · intro means
    cases means with
    | exact mem => exact .exact ((List.mem_cons.mp mem).resolve_left ne)
    | similar absent mem agrees first =>
      have absent' : written ∉ names := fun mem => absent (List.mem_cons_of_mem _ mem)
      have first' : ∀ other ∈ names, agree other.toList written.toList = true →
          (compareNames found other).isLE :=
        fun other mem => first other (List.mem_cons_of_mem _ mem)
      rcases List.mem_cons.mp mem with rfl | mem
      · exact absurd ⟨agrees, absent', first'⟩ stays
      · exact .similar absent' mem agrees first'
  · intro means
    cases means with
    | exact mem => exact .exact (List.mem_cons_of_mem _ mem)
    | similar absent mem agrees first =>
      have absent' : written ∉ name :: names := List.not_mem_cons_of_ne_of_not_mem ne absent
      refine .similar absent' (List.mem_cons_of_mem _ mem) agrees ?_
      intro other mem' agrees'
      rcases List.mem_cons.mp mem' with rfl | mem'
      · -- Were the new name before the one that is meant, it would be before all that agree.
        by_contra later
        rw [← Ordering.ne_gt_iff_isLE, not_not] at later
        have before : compareNames other found = .lt := Std.OrientedCmp.gt_iff_lt.mp later
        refine stays ⟨agrees', absent, fun third mem agrees => ?_⟩
        exact Std.TransCmp.isLE_trans (Ordering.isLE_of_eq_lt before) (first third mem agrees)
      · exact first other mem' agrees'

end Overtakes

namespace Schema

variable {ρ : Type} {schema : Schema ρ} {name written : String} {accessor : Accessor ρ}

theorem get?_insert_self : (schema.insert name accessor).get? name = some accessor :=
  get?_of_mem mem_entries_insert_self

theorem means_names_insert_iff {found : String} :
    Means (schema.insert name accessor).names written found ↔
      Means (name :: schema.names) written found :=
  Means.congr fun _ => mem_names_insert

theorem get?_insert_of_overtakes (overtakes : Overtakes schema.names name written)
    (ne : written ≠ name) : (schema.insert name accessor).get? written = some accessor := by
  refine get?_eq_some_iff.mpr ⟨name, ?_, mem_entries_insert_self⟩
  exact means_names_insert_iff.mpr (overtakes.means_cons ne)

theorem get?_insert_of_not_overtakes (stays : ¬ Overtakes schema.names name written)
    (ne : written ≠ name) : (schema.insert name accessor).get? written = schema.get? written := by
  apply Option.ext
  intro found
  rw [get?_eq_some_iff, get?_eq_some_iff]
  simp only [means_names_insert_iff, Overtakes.means_cons_iff_of_not stays ne, mem_entries_insert]
  constructor
  · rintro ⟨meant, means, ⟨rfl, -⟩ | ⟨-, mem⟩⟩
    · exact absurd (.of_means means ne) stays
    · exact ⟨meant, means, mem⟩
  · rintro ⟨meant, means, mem⟩
    refine ⟨meant, means, .inr ⟨?_, mem⟩⟩
    rintro rfl
    exact stays (.of_means means ne)

/-- A written name that does not agree with the new one, or is registered itself, is spared. -/
theorem get?_insert_of_spared
    (spared : agree name.toList written.toList = false ∨ written ≠ name ∧ written ∈ schema.names) :
    (schema.insert name accessor).get? written = schema.get? written := by
  rcases spared with differs | ⟨ne, mem⟩
  · apply get?_insert_of_not_overtakes
    · intro overtakes
      cases differs.symm.trans overtakes.agrees
    · rintro rfl
      cases differs.symm.trans (agree_refl _)
  · exact get?_insert_of_not_overtakes (fun overtakes => overtakes.absent mem) ne

end Schema

/-! ## Requests -/

namespace Service

variable {ρ : Type}

/-- The same service with one field more, or with another field of this name. -/
def register (service : Service ρ) (name : String) (accessor : Accessor ρ) : Service ρ :=
  { service with schema := service.schema.insert name accessor }

/-- **Registering a field disturbs only requests that can mean it.** If each name that a request
mentions differs from the new one by more than case, or is itself the name of another field, the
request is answered as before, in success or with the same fault, and also if records are gone
through in parallel in another way than before. The new name finds the new field. Another name finds
something else than before only if the new one overtakes, and then it finds the new field. -/
theorem listBy_register (service : Service ρ) (name : String) (accessor : Accessor ρ) :
    (∀ request,
      (∀ plan, service.plan request = .ok plan → ∀ written, plan.Names written →
        agree name.toList written.toList = false ∨
          written ≠ name ∧ written ∈ service.schema.names) →
      (∀ run records, (service.register name accessor).listBy run records request =
        service.listBy run records request) ∧
      (∀ records, (service.register name accessor).list records request =
        service.list records request) ∧
      ∀ run run' : Keeping ρ, run.InPieces → run'.InPieces → ∀ records,
        (service.register name accessor).listBy run records request =
          service.listBy run' records request) ∧
    (service.register name accessor).schema.get? name = some accessor ∧
    ∀ written, written ≠ name →
      ((service.register name accessor).schema.get? written ≠ service.schema.get? written →
        Overtakes service.schema.names name written) ∧
      (Overtakes service.schema.names name written →
        (service.register name accessor).schema.get? written = some accessor) := by
  refine ⟨?_, Schema.get?_insert_self, ?_⟩
  · intro request spared
    have same (run : Keeping ρ) (records : List ρ) :
        (service.register name accessor).listBy run records request =
          service.listBy run records request := by
      apply listBy_congr
      · rfl
      · intro plan planned written names
        exact Schema.get?_insert_of_spared (spared plan planned written names)
    refine ⟨same, ?_, ?_⟩
    · intro records
      rw [← listBy_keepInTasks, ← listBy_keepInTasks, same]
    · intro run run' inPieces inPieces' records
      rw [same]
      rw [listBy_eq_list inPieces, listBy_eq_list inPieces']
  · intro written ne
    refine ⟨?_, fun overtakes => Schema.get?_insert_of_overtakes overtakes ne⟩
    intro changes
    by_contra stays
    exact changes (Schema.get?_insert_of_not_overtakes stays ne)

/-- `DUE` comes before `Due` and takes `due` away from it, but a request that writes `Due` and
`done` is answered as before. -/
theorem listBy_register_upper_case :
    let schema := (Schema.empty.insert "done" (.boolean Prod.fst)).insert "Due" (.integer Prod.snd)
    let service : Service (Bool × Int64) := { schema }
    let extended := service.register "DUE" (.boolean Prod.fst)
    let request : Request := { query := some "done().none()", sort := some "Due:desc" }
    (∃ plan, service.plan request = .ok plan ∧ plan.Names "done" ∧ plan.Names "Due" ∧
      ∀ written, plan.Names written →
        agree "DUE".toList written.toList = false ∨ written ≠ "DUE" ∧ written ∈ schema.names) ∧
    (∀ records, extended.list records request = service.list records request) ∧
    (@Keeping.InPieces (Bool × Int64) (Keeping.lastFirst 1) ∧
      @Keeping.InPieces (Bool × Int64) keepInTasks ∧
      ∀ records, extended.listBy (Keeping.lastFirst 1) records request =
        service.listBy keepInTasks records request) ∧
    "due" ≠ "DUE" ∧ schema.get? "due" = some (.integer Prod.snd) ∧
      extended.schema.get? "due" = some (.boolean Prod.fst) ∧
      extended.schema.get? "due" ≠ schema.get? "due" ∧ Overtakes schema.names "DUE" "due" := by
  intro schema service extended request
  let present : Condition := ⟨.plain, "done", .unrestricted, [], "done().none()"⟩
  have parsed : Condition.parseFilter "done().none()" = .ok [present] := by rfl
  have ordered : SortKey.parseOrder "Due:desc" = .ok [⟨"Due", .descending⟩] := by rfl
  obtain ⟨window, settled⟩ : ∃ window, request.window service.settings = .ok window := ⟨_, by rfl⟩
  have planned : service.plan request = .ok ⟨window, [present], [⟨"Due", .descending⟩]⟩ :=
    plan_eq_ok_iff.mpr ⟨settled, parsed, ordered⟩
  have spared : ∀ written, Plan.Names ⟨window, [present], [⟨"Due", .descending⟩]⟩ written →
      agree "DUE".toList written.toList = false ∨ written ≠ "DUE" ∧ written ∈ schema.names := by
    rintro written (⟨condition, mem, rfl⟩ | ⟨key, mem, rfl⟩)
    · obtain rfl := List.mem_singleton.mp mem
      exact .inl (by decide)
    · obtain rfl := List.mem_singleton.mp mem
      exact .inr (by decide)
  have inPieces : @Keeping.InPieces (Bool × Int64) (Keeping.lastFirst 1) :=
    Keeping.inPieces_lastFirst 1
  have inTasks : @Keeping.InPieces (Bool × Int64) keepInTasks := Keeping.inPieces_keepInTasks
  obtain ⟨answers, -, finds⟩ := listBy_register service "DUE" (.boolean Prod.fst)
  obtain ⟨-, sameList, mixed⟩ := answers request (fun plan read => by
    obtain rfl := Except.ok.inj (planned.symm.trans read)
    exact spared)
  have found : schema.get? "due" = some (.integer Prod.snd) := by rfl
  have finds' : extended.schema.get? "due" = some (.boolean Prod.fst) :=
    (finds "due" (by decide)).2 ⟨by decide, by decide, by decide⟩
  have changes : extended.schema.get? "due" ≠ schema.get? "due" := by
    rw [found, finds']
    simp
  exact ⟨⟨_, planned, .inl ⟨present, List.mem_cons_self, rfl⟩, .inr ⟨_, List.mem_cons_self, rfl⟩,
    spared⟩, sameList, ⟨inPieces, inTasks, mixed _ _ inPieces inTasks⟩, by decide, found,
    finds', changes, (finds "due" (by decide)).1 changes⟩

end Service

end Listing
