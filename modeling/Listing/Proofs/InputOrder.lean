import Listing.Proofs.Blame

/-!
# `Listing/Proofs/InputOrder.lean` — records that come in another order

Records have to come in some order, and a request should not depend on which. It cannot help it
where its sort keys leave a tie, because then the order in which the records came decides. That is
the only influence it has. What is selected are the same records in another order
(`exists_select_of_perm`), and after sorting there are the same ties in the same places
(`arrange_ties_of_perm`), so without ties there are the same records.

That a place determines the tie rests on the laws of the sort order. Records that are equal under
all keys compare alike with every third one, so `compareRecords keys record`, as a function, is
what the keys make of a record; sorted lists of these have no ties left.

**`listBy_of_perm`** says so of requests.
-/

set_option autoImplicit false

namespace Listing

open Outcome Std

variable {ρ : Type} {records others : List ρ} {keys : List (BoundKey ρ)}

/-! ## Sorting -/

/-- Records are equal under all keys when the keys make the same of them. -/
theorem compareRecords_eq_eq_iff {left right : ρ} :
    compareRecords keys left right = .eq ↔
      compareRecords keys left = compareRecords keys right := by
  constructor
  · intro equal
    funext other
    exact TransCmp.congr_left equal
  · intro same
    rw [same]
    exact ReflCmp.compare_self

/-- The keys tell records apart: none are equal under all keys but those that are the same. -/
def Distinguishes (keys : List (BoundKey ρ)) (records : List ρ) : Prop :=
  ∀ left ∈ records, ∀ right ∈ records, compareRecords keys left right = .eq → left = right

/-- The head of a sorted list comes no later than any record of which the keys make the same as of
a record in the list. -/
theorem isLE_of_mem_map {first other : ρ} {rest : List ρ}
    (ordered : (first :: rest).Pairwise fun earlier later =>
      compareRecords keys earlier later ≠ .gt)
    (mem : compareRecords keys other ∈ (first :: rest).map (compareRecords keys)) :
    (compareRecords keys first other).isLE := by
  obtain ⟨found, isMember, same⟩ := List.mem_map.mp mem
  rw [← TransCmp.congr_right (compareRecords_eq_eq_iff.mpr same)]
  exact isLE_head ordered isMember

/-- By induction on the lists. It does not suffice that they hold the same records, because the
heads, which are equal under all keys, may be different records. -/
theorem map_compareRecords_eq_of_perm {left right : List ρ}
    (ordered : left.Pairwise fun earlier later => compareRecords keys earlier later ≠ .gt)
    (ordered' : right.Pairwise fun earlier later => compareRecords keys earlier later ≠ .gt)
    (perm : (left.map (compareRecords keys)).Perm (right.map (compareRecords keys))) :
    left.map (compareRecords keys) = right.map (compareRecords keys) := by
  induction left generalizing right with
  | nil =>
    rw [List.map_nil, List.nil_perm] at perm
    exact perm.symm
  | cons first rest ih =>
    cases right with
    | nil => cases List.perm_nil.mp perm
    | cons first' rest' =>
      have notAfter := isLE_of_mem_map ordered (perm.mem_iff.mpr List.mem_cons_self)
      have notBefore := isLE_of_mem_map ordered' (perm.mem_iff.mp List.mem_cons_self)
      have same : compareRecords keys first = compareRecords keys first' :=
        compareRecords_eq_eq_iff.mp (OrientedCmp.isLE_antisymm notAfter notBefore)
      simp only [List.map_cons, same] at perm ⊢
      rw [ih ordered.of_cons ordered'.of_cons (List.Perm.cons_inv perm)]

theorem arrange_perm_of_perm (perm : records.Perm others) :
    (arrange keys records).Perm (arrange keys others) := by
  have sorted := stablySorted_arrange keys records
  have sorted' := stablySorted_arrange keys others
  exact sorted.perm.trans (perm.trans sorted'.perm.symm)

/-- Sorting brings records that come in another order into the same order, but for ties. -/
theorem arrange_ties_of_perm (perm : records.Perm others) :
    (arrange keys records).map (compareRecords keys) =
      (arrange keys others).map (compareRecords keys) := by
  have sorted := stablySorted_arrange keys records
  have sorted' := stablySorted_arrange keys others
  have samePlaces : (arrange keys records).Perm (arrange keys others) := arrange_perm_of_perm perm
  exact map_compareRecords_eq_of_perm sorted.ordered sorted'.ordered (samePlaces.map _)

/-- Where the keys tell records apart there are no ties. -/
theorem arrange_eq_of_perm (perm : records.Perm others)
    (distinguishes : Distinguishes keys records) : arrange keys records = arrange keys others := by
  have sorted := stablySorted_arrange keys records
  have sorted' := stablySorted_arrange keys others
  apply List.Perm.eq_of_pairwise ?_ sorted.ordered sorted'.ordered (arrange_perm_of_perm perm)
  intro left right mem mem' notAfter notBefore
  apply distinguishes
  · exact sorted.perm.mem_iff.mp mem
  · exact perm.mem_iff.mpr (sorted'.perm.mem_iff.mp mem')
  · exact OrientedCmp.isLE_antisymm (Ordering.ne_gt_iff_isLE.mp notAfter)
      (Ordering.ne_gt_iff_isLE.mp notBefore)

/-- Two pages differ only in ties: they stand in the same window of results of the same length,
and records in the same place are equal under all keys. -/
structure Page.EqualUpToTies (keys : List (BoundKey ρ)) (page other : Page ρ) : Prop where
  window : page.window = other.window
  total : page.total = other.total
  hasMore : page.hasMore = other.hasMore
  items : List.Forall₂ (fun left right => compareRecords keys left right = .eq)
    page.items other.items

theorem Page.equalUpToTies_of_perm (perm : records.Perm others) (window : Window) :
    (ofResult (arrange keys records) window).EqualUpToTies keys
      (ofResult (arrange keys others) window) := by
  have sameLength : (arrange keys records).length = (arrange keys others).length := by
    simp only [arrange, List.length_mergeSort, perm.length_eq]
  have ties : (window.slice (arrange keys records)).map (compareRecords keys) =
      (window.slice (arrange keys others)).map (compareRecords keys) := by
    simp only [Window.map_slice, arrange_ties_of_perm perm]
  rw [← List.forall₂_eq_eq_eq, List.forall₂_map_left_iff, List.forall₂_map_right_iff] at ties
  refine ⟨rfl, sameLength, ?_, ?_⟩
  · simp only [ofResult, sameLength]
  · exact ties.imp fun _ _ => compareRecords_eq_eq_iff.mpr

namespace Service

variable {service : Service ρ} {conditions : List Condition} {request : Request}

/-! ## Selecting -/

/-- The same records in another order are selected in another order, or not at all. -/
theorem exists_select_of_perm (perm : records.Perm others) {selected : List ρ}
    (selects : service.select records conditions = .ok selected) :
    ∃ selected', service.select others conditions = .ok selected' ∧ selected.Perm selected' := by
  obtain ⟨binds, settled, rfl⟩ := select_eq_ok_iff.mp selects
  refine ⟨others.filter (service.Satisfies conditions), ?_, perm.filter _⟩
  apply select_eq_ok_iff.mpr
  exact ⟨binds, fun record mem => settled record (perm.mem_iff.mpr mem), rfl⟩

/-! ## Listing -/

/-- A request gets a page exactly when it can be read, its records can be selected and its keys be
bound. The page is cut out of the selected records in the order of the keys. -/
theorem list_eq_ok_iff_of_plan {page : Page ρ} :
    service.list records request = .ok page ↔
      ∃ plan selected keys, service.plan request = .ok plan ∧
        service.select records plan.conditions = .ok selected ∧
        List.Forall₂ service.schema.BindsKey plan.order keys ∧
        page = .ofResult (arrange keys selected) plan.window := by
  rw [← listBy_keepInTasks, listBy_eq, bind_eq_ok_iff]
  constructor
  · intro ⟨plan, planned, executed⟩
    obtain ⟨selected, selects, executed⟩ := bind_eq_ok_iff.mp executed
    obtain ⟨sorted, sorts, done⟩ := bind_eq_ok_iff.mp executed
    obtain ⟨keys, binds, rfl⟩ := sort_eq_ok_iff_arrange.mp sorts
    exact ⟨plan, selected, keys, planned, selects, binds, (Except.ok.inj done).symm⟩
  · intro ⟨plan, selected, keys, planned, selects, binds, isPage⟩
    subst isPage
    have sorts : service.sort selected plan.order = .ok (arrange keys selected) :=
      sort_eq_ok_iff_arrange.mpr ⟨keys, binds, rfl⟩
    refine ⟨plan, planned, bind_eq_ok_iff.mpr ⟨selected, selects, ?_⟩⟩
    exact bind_eq_ok_iff.mpr ⟨_, sorts, rfl⟩

theorem exists_list_of_perm (perm : records.Perm others)
    (listed : ∃ page, service.list records request = .ok page) :
    ∃ page, service.list others request = .ok page := by
  obtain ⟨page, listed⟩ := listed
  obtain ⟨plan, selected, keys, planned, selects, binds, -⟩ := list_eq_ok_iff_of_plan.mp listed
  obtain ⟨selected', selects', -⟩ := exists_select_of_perm perm selects
  exact ⟨_, list_eq_ok_iff_of_plan.mpr ⟨plan, selected', keys, planned, selects', binds, rfl⟩⟩

/-- **The order in which records come matters only for ties.** A request fails on records exactly
if it fails on the same records in another order. Otherwise the same records are selected in
another order, the two pages are of the same size and result, and in each place they have records
that are equal under all sort keys. So if the keys tell all selected records apart, the pages are
the same. The records may be gone through in parallel, and in another way each time. -/
theorem listBy_of_perm {run run' : Keeping ρ} (inPieces : run.InPieces)
    (inPieces' : run'.InPieces) (service : Service ρ) (request : Request)
    (perm : records.Perm others) :
    ((∃ fault, service.listBy run records request = .error fault) ↔
      ∃ fault, service.listBy run' others request = .error fault) ∧
    ∀ page, service.listBy run records request = .ok page →
      ∃ page', service.listBy run' others request = .ok page' ∧
        ∃ plan keys selected selected', service.plan request = .ok plan ∧
          List.Forall₂ service.schema.BindsKey plan.order keys ∧
          service.selectBy run records plan.conditions = .ok selected ∧
          service.selectBy run' others plan.conditions = .ok selected' ∧
          selected.Perm selected' ∧ page.EqualUpToTies keys page' ∧
          (Distinguishes keys selected → page = page') := by
  simp only [exists_error_iff, listBy_eq_list inPieces, listBy_eq_list inPieces',
    selectBy_eq_select inPieces, selectBy_eq_select inPieces']
  refine ⟨not_congr ⟨exists_list_of_perm perm, exists_list_of_perm perm.symm⟩, ?_⟩
  intro page listed
  obtain ⟨plan, selected, keys, planned, selects, binds, rfl⟩ := list_eq_ok_iff_of_plan.mp listed
  obtain ⟨selected', selects', samePerm⟩ := exists_select_of_perm perm selects
  have listed' := list_eq_ok_iff_of_plan.mpr ⟨plan, selected', keys, planned, selects', binds, rfl⟩
  refine ⟨_, listed', plan, keys, selected, selected', planned, binds, selects, selects',
    samePerm, Page.equalUpToTies_of_perm samePerm plan.window, ?_⟩
  intro distinguishes
  rw [arrange_eq_of_perm samePerm distinguishes]

/-- Numbers in another order are listed alike, and an operand that is no number is found alike. -/
theorem listBy_of_perm_numbers :
    let service : Service Int64 := { schema := Schema.empty.insert "id" (.integer id) }
    let request : Request := { query := some "id().greaterThan(1)", sort := some "id:desc" }
    let unusable : Request := { query := some "id().greaterThan(one)" }
    @Keeping.InPieces Int64 keepInTasks ∧ @Keeping.InPieces Int64 (Keeping.lastFirst 1) ∧
      ([1, 2, 3] : List Int64).Perm [3, 1, 2] ∧
      (∃ page, service.listBy keepInTasks [1, 2, 3] request = .ok page ∧
        service.listBy (Keeping.lastFirst 1) [3, 1, 2] request = .ok page) ∧
      (∃ fault, service.listBy keepInTasks [1, 2, 3] unusable = .error fault) ∧
      ∃ fault, service.listBy (Keeping.lastFirst 1) [3, 1, 2] unusable = .error fault := by
  intro service request unusable
  have inTasks : @Keeping.InPieces Int64 keepInTasks := Keeping.inPieces_keepInTasks
  have inPieces : @Keeping.InPieces Int64 (Keeping.lastFirst 1) := Keeping.inPieces_lastFirst 1
  have perm : ([1, 2, 3] : List Int64).Perm [3, 1, 2] := by decide
  let large : Condition :=
    ⟨.plain, "id", .comparing .greater, ["1"], "id().greaterThan(1)"⟩
  let word : Condition :=
    ⟨.plain, "id", .comparing .greater, ["one"], "id().greaterThan(one)"⟩
  obtain ⟨window, settled⟩ : ∃ window, request.window service.settings = .ok window := ⟨_, by rfl⟩
  have parsed : Condition.parseFilter "id().greaterThan(1)" = .ok [large] := by rfl
  have parsed' : Condition.parseFilter "id().greaterThan(one)" = .ok [word] := by rfl
  have ordered : SortKey.parseOrder "id:desc" = .ok [⟨"id", .descending⟩] := by rfl
  have planned : service.plan request = .ok ⟨window, [large], [⟨"id", .descending⟩]⟩ :=
    plan_eq_ok_iff.mpr ⟨settled, parsed, ordered⟩
  have planned' : service.plan unusable = .ok ⟨window, [word], []⟩ :=
    plan_eq_ok_iff.mpr ⟨settled, parsed', by rfl⟩
  obtain ⟨page, listed⟩ : ∃ page, service.listBy keepInTasks [1, 2, 3] request = .ok page := by
    rw [listBy_of_plan planned]
    exact ⟨_, rfl⟩
  have fails : ∃ fault, service.listBy keepInTasks [1, 2, 3] unusable = .error fault := by
    rw [listBy_of_plan planned']
    exact ⟨_, rfl⟩
  have alike := listBy_of_perm inTasks inPieces service request perm
  have alike' := listBy_of_perm inTasks inPieces service unusable perm
  refine ⟨inTasks, inPieces, perm, ⟨page, listed, ?_⟩, fails, alike'.1.mp fails⟩
  obtain ⟨page', listed', plan, keys, selected, -, read, binds, -, -, -, -, same⟩ :=
    alike.2 page listed
  obtain rfl := Except.ok.inj (planned.symm.trans read)
  obtain ⟨⟨accessor, direction⟩, rest, ⟨known, descends⟩, none, rfl⟩ :=
    List.forall₂_cons_left_iff.mp binds
  obtain rfl := List.forall₂_nil_left_iff.mp none
  obtain rfl : accessor = .integer id := (Option.some.inj known).symm
  obtain rfl : direction = .descending := descends
  rw [same ?_]
  · exact listed'
  · intro left _ right _ equal
    rw [compareRecords_singleton] at equal
    have turned : (compare left right).swap = .eq := equal
    exact LawfulEqOrd.eq_of_compare (Ordering.swap_eq_eq.mp turned)

end Service

end Listing
