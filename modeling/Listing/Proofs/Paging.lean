import Mathlib.Algebra.Order.Floor.Div
import Listing.Proofs.Answer
import Listing.Proofs.Window

/-!
# `Listing/Proofs/Paging.lean` — going through an answer page by page

A client that wants the whole answer asks for the page at position 0 and, as long as a page says
that there is more, for the page at the position behind it. `Browsing` is that client as a state
machine: a state says where it will ask next and which pages it has, and one `step` is one request.

**`browse_tiles`** says that this works: the client is never refused, stops after exactly as many
requests as full pages are needed, and what it has then is a `Tiling` of the answer.

The argument has two halves. The first is about any source of pages at all: if `ask` cuts pages of
one size out of one list, the run is known state by state (`run_asking`, `run_finished`), and the
pages seen are `pagesBefore`, which tile by arithmetic. The second half is that a service is such
a source, and is the business of `Listing/Proofs/Window.lean` and `Listing/Proofs/Answer.lean`.
-/

set_option autoImplicit false

namespace Listing

variable {ρ : Type}

/-! ## The client -/

/-- A client on its way through an answer. -/
inductive Browsing (ρ : Type) where
  /-- It is about to ask for the page at a position, and has seen some pages. -/
  | asking (position : Nat) (seen : List (Page ρ))
  /-- It has seen a page behind which there is nothing. -/
  | finished (seen : List (Page ρ))
  /-- A request has failed. -/
  | refused (fault : Fault)

namespace Browsing

/-- Before the first request. -/
def start : Browsing ρ :=
  .asking 0 []

/-- One request. A client that is done makes none. -/
def step (ask : Nat → Except Fault (Page ρ)) : Browsing ρ → Browsing ρ
  | .asking position seen =>
    match ask position with
    | .error fault => .refused fault
    | .ok page =>
      if page.hasMore then
        .asking (page.window.position.toNat + page.window.size.toNat) (seen ++ [page])
      else .finished (seen ++ [page])
  | done => done

theorem step_of_ok {ask : Nat → Except Fault (Page ρ)} {position : Nat} {page : Page ρ}
    (answered : ask position = .ok page) (seen : List (Page ρ)) :
    step ask (.asking position seen) =
      if page.hasMore then
        .asking (page.window.position.toNat + page.window.size.toNat) (seen ++ [page])
      else .finished (seen ++ [page]) := by
  simp only [step, answered]

@[simp] theorem step_finished (ask : Nat → Except Fault (Page ρ)) (seen : List (Page ρ)) :
    step ask (.finished seen) = .finished seen :=
  rfl

/-- What has become of the client after some steps from the start. -/
def run (ask : Nat → Except Fault (Page ρ)) : Nat → Browsing ρ
  | 0 => start
  | n + 1 => step ask (run ask n)

end Browsing

/-- The requests of a client: always the same one, but for the position. -/
def Service.ask (service : Service ρ) (records : List ρ) (request : Request) (position : Nat) :
    Except Fault (Page ρ) :=
  service.list records { request with position := some (Int64.ofNat position) }

/-- What it means that pages of a size show a result: put one after the other they are the result,
they agree about how much there is, and none but the last is short. -/
structure Tiling (result : List ρ) (size : Nat) (pages : List (Page ρ)) : Prop where
  items : pages.flatMap Page.items = result
  totals : ∀ page ∈ pages, page.total = result.length
  sizes : ∀ page ∈ pages, page.window.size.toNat = size
  full : ∀ page ∈ pages.dropLast, page.items.length = size
  inhabited : ∀ page ∈ pages, page.items = [] → page.total = 0

/-! ## Pages side by side -/

section Pages

variable (result : List ρ) (size : UInt64)

/-- The page with a number, when pages of one size are laid side by side. -/
def pageAt (number : Nat) : Page ρ :=
  .ofResult result ⟨UInt64.ofNat (number * size.toNat), size⟩

/-- The first pages. -/
def pagesBefore (count : Nat) : List (Page ρ) :=
  (List.range count).map (pageAt result size)

/-- The number of pages that a result needs. An empty result needs one, to be seen as empty. -/
def pageCount : Nat :=
  max 1 (result.length ⌈/⌉ size.toNat)

variable {result size}

/-- No page begins behind the end of the result, the first one of an empty result apart. -/
theorem begins_of_lt_pageCount (positive : 0 < size.toNat) {number : Nat}
    (h : number < pageCount result size) : number = 0 ∨ number * size.toNat < result.length := by
  by_cases needed : number < result.length ⌈/⌉ size.toNat
  · right
    rw [Nat.mul_comm]
    exact Nat.lt_of_not_le fun le => absurd ((ceilDiv_le_iff_le_mul positive).mpr le) (by omega)
  · left
    unfold pageCount at h
    omega

theorem length_le_pageCount_mul (positive : 0 < size.toNat) :
    result.length ≤ pageCount result size * size.toNat := by
  rw [Nat.mul_comm]
  exact (ceilDiv_le_iff_le_mul positive).mp (Nat.le_max_right _ _)

theorem position_pageAt (small : result.length < 2 ^ 63) {number : Nat}
    (begins : number = 0 ∨ number * size.toNat < result.length) :
    (pageAt result size number).window.position.toNat = number * size.toNat := by
  have range : number * size.toNat < 2 ^ 64 := by
    rcases begins with rfl | inside <;> omega
  show (UInt64.ofNat (number * size.toNat)).toNat = _
  rw [UInt64.toNat_ofNat', Nat.mod_eq_of_lt range]

theorem items_pageAt (small : result.length < 2 ^ 63) {number : Nat}
    (begins : number = 0 ∨ number * size.toNat < result.length) :
    (pageAt result size number).items =
      (result.drop (number * size.toNat)).take size.toNat := by
  show (result.drop (pageAt result size number).window.position.toNat).take size.toNat = _
  rw [position_pageAt small begins]

/-- A page says that there is more exactly when the next one would begin within the result. -/
theorem hasMore_pageAt (small : result.length < 2 ^ 63) {number : Nat}
    (begins : number = 0 ∨ number * size.toNat < result.length) :
    (pageAt result size number).hasMore = true ↔
      (number + 1) * size.toNat < result.length := by
  have inWords : result.length < 2 ^ 64 := Nat.lt_trans small (by decide)
  have ends : (pageAt result size number).hasMore = true ↔
      (pageAt result size number).window.position.toNat + size.toNat < result.length :=
    Page.hasMore_ofResult_iff inWords
  rw [position_pageAt small begins] at ends
  rw [Nat.succ_mul]
  exact ends

/-- The first pages show the first elements. By induction on the number of pages: one page more
shows the elements that follow. -/
theorem items_pagesBefore (small : result.length < 2 ^ 63) {count : Nat}
    (begins : ∀ number < count, number = 0 ∨ number * size.toNat < result.length) :
    (pagesBefore result size count).flatMap Page.items = result.take (count * size.toNat) := by
  induction count with
  | zero => simp [pagesBefore]
  | succ count ih =>
    have shorter := ih fun number lt => begins number (Nat.lt_succ_of_lt lt)
    have last := items_pageAt small (begins count (Nat.lt_succ_self count))
    unfold pagesBefore at *
    rw [List.range_succ, List.map_append, List.flatMap_append, shorter, Nat.succ_mul,
      List.take_add]
    simp only [List.map_cons, List.map_nil, List.flatMap_cons, List.flatMap_nil,
      List.append_nil, last]

theorem dropLast_pagesBefore (count : Nat) :
    (pagesBefore result size count).dropLast = pagesBefore result size (count - 1) := by
  cases count with
  | zero => rfl
  | succ count =>
    unfold pagesBefore
    rw [List.range_succ, List.map_append, List.map_singleton, List.dropLast_concat,
      Nat.add_sub_cancel]

theorem take_pagesBefore {made count : Nat} (le : made ≤ count) :
    (pagesBefore result size count).take made = pagesBefore result size made := by
  unfold pagesBefore
  rw [← List.map_take, List.take_range, Nat.min_eq_left le]

theorem tiling_pagesBefore (small : result.length < 2 ^ 63) (positive : 0 < size.toNat) :
    Tiling result size.toNat (pagesBefore result size (pageCount result size)) where
  items := by
    rw [items_pagesBefore small fun _ => begins_of_lt_pageCount positive]
    exact List.take_of_length_le (length_le_pageCount_mul positive)
  totals := by
    intro page mem
    obtain ⟨number, -, rfl⟩ := List.mem_map.mp mem
    rfl
  sizes := by
    intro page mem
    obtain ⟨number, -, rfl⟩ := List.mem_map.mp mem
    rfl
  full := by
    intro page mem
    rw [dropLast_pagesBefore] at mem
    obtain ⟨number, inside, rfl⟩ := List.mem_map.mp mem
    have next : number + 1 < pageCount result size := by
      have := List.mem_range.mp inside
      omega
    -- A page with a page behind it ends where that one begins, so it has all its elements.
    have ends := (begins_of_lt_pageCount positive next).resolve_left (Nat.succ_ne_zero number)
    rw [Nat.succ_mul] at ends
    rw [items_pageAt small (begins_of_lt_pageCount positive (by omega)), List.length_take,
      List.length_drop]
    omega
  inhabited := by
    intro page mem empty
    obtain ⟨number, lt, rfl⟩ := List.mem_map.mp mem
    have begins := begins_of_lt_pageCount positive (List.mem_range.mp lt)
    rw [items_pageAt small begins, List.take_eq_nil_iff, List.drop_eq_nil_iff] at empty
    show result.length = 0
    rcases begins with rfl | inside <;> omega

/-! ## The run -/

/-- A source cuts pages of one size out of one result, as far as a request can name a position. -/
def Cuts (ask : Nat → Except Fault (Page ρ)) (result : List ρ) (size : UInt64) : Prop :=
  ∀ position < 2 ^ 63, ask position = .ok (.ofResult result ⟨UInt64.ofNat position, size⟩)

namespace Browsing

variable {ask : Nat → Except Fault (Page ρ)}

/-- One request to a source that cuts pages of one size out of a result. -/
theorem step_asking (cuts : Cuts ask result size) (small : result.length < 2 ^ 63)
    {number : Nat} (begins : number = 0 ∨ number * size.toNat < result.length)
    (seen : List (Page ρ)) :
    step ask (.asking (number * size.toNat) seen) =
      if (number + 1) * size.toNat < result.length then
        .asking ((number + 1) * size.toNat) (seen ++ [pageAt result size number])
      else .finished (seen ++ [pageAt result size number]) := by
  have range : number * size.toNat < 2 ^ 63 := by
    rcases begins with rfl | inside <;> omega
  have answered : ask (number * size.toNat) = .ok (pageAt result size number) :=
    cuts _ range
  have next : (pageAt result size number).window.position.toNat + size.toNat =
      (number + 1) * size.toNat := by
    rw [position_pageAt small begins, Nat.succ_mul]
  rw [step_of_ok answered]
  by_cases more : (number + 1) * size.toNat < result.length
  · rw [if_pos more, ← next]
    exact if_pos ((hasMore_pageAt small begins).mpr more)
  · rw [if_neg more]
    exact if_neg fun h => more ((hasMore_pageAt small begins).mp h)

/-- As long as there is more, the client asks for one page after the other. By induction on the
number of requests; what carries it is that every page so far begins within the result. -/
theorem run_asking (cuts : Cuts ask result size) (small : result.length < 2 ^ 63)
    {count : Nat} (begins : ∀ number ≤ count, number = 0 ∨ number * size.toNat < result.length) :
    run ask count = .asking (count * size.toNat) (pagesBefore result size count) := by
  induction count with
  | zero => simp [run, start, pagesBefore]
  | succ count ih =>
    have before := ih fun number le => begins number (Nat.le_succ_of_le le)
    have more := (begins (count + 1) (Nat.le_refl _)).resolve_left (Nat.succ_ne_zero count)
    rw [run, before, step_asking cuts small (begins count (Nat.le_succ count)), if_pos more]
    simp only [pagesBefore, List.range_succ, List.map_append, List.map_singleton]

/-- The client stops with the last page of the result, and for good. -/
theorem run_finished (cuts : Cuts ask result size) (small : result.length < 2 ^ 63)
    (positive : 0 < size.toNat)
    {requests : Nat} (enough : pageCount result size ≤ requests) :
    run ask requests = .finished (pagesBefore result size (pageCount result size)) := by
  induction requests, enough using Nat.le_induction with
  | base =>
    obtain ⟨last, eq⟩ : ∃ last, pageCount result size = last + 1 :=
      Nat.exists_eq_add_one.mpr (Nat.lt_of_lt_of_le Nat.zero_lt_one (Nat.le_max_left 1 _))
    have begins : ∀ number ≤ last, number = 0 ∨ number * size.toNat < result.length :=
      fun number le => begins_of_lt_pageCount positive (by omega)
    -- All pages but the last are behind us, and the last one reaches the end.
    have ends : ¬ (last + 1) * size.toNat < result.length := by
      rw [← eq]
      exact Nat.not_lt.mpr (length_le_pageCount_mul positive)
    rw [eq, run, run_asking cuts small begins,
      step_asking cuts small (begins last (Nat.le_refl last)), if_neg ends]
    simp only [pagesBefore, List.range_succ, List.map_append, List.map_singleton]
  | succ requests _ ih => rw [run, ih, step_finished]

/-- The whole run of a client, whose source cuts pages that have room for an element. -/
theorem run_tiles (cuts : Cuts ask result size) (small : result.length < 2 ^ 63)
    (positive : 0 < size.toNat) :
    ∃ pages : List (Page ρ), pages.length = pageCount result size ∧
      Tiling result size.toNat pages ∧
      (∀ made < pageCount result size,
        run ask made = .asking (made * size.toNat) (pages.take made)) ∧
      ∀ made ≥ pageCount result size, run ask made = .finished pages := by
  refine ⟨pagesBefore result size (pageCount result size), ?_,
    tiling_pagesBefore small positive, ?_, ?_⟩
  · unfold pagesBefore
    rw [List.length_map, List.length_range]
  · intro made lt
    have begins : ∀ number ≤ made, number = 0 ∨ number * size.toNat < result.length :=
      fun number le => begins_of_lt_pageCount positive (Nat.lt_of_le_of_lt le lt)
    rw [run_asking cuts small begins, take_pagesBefore (Nat.le_of_lt lt)]
  · intro made enough
    exact run_finished cuts small positive enough

end Browsing

end Pages

/-! ## Services -/

/-- The complete answer does not depend on the position, so a service cuts the pages of a request
out of one list, and all of one size. -/
theorem Service.cuts_ask {service : Service ρ} {records result : List ρ} {request : Request}
    (usable : service.settings.check = .ok ())
    (positive : ∀ size, request.size = some size → 1 ≤ size.toInt)
    (answered : service.answer records request = .ok result) :
    Cuts (service.ask records request) result (request.pageSize service.settings) := by
  intro position range
  unfold ask
  rw [list_eq_ok_iff]
  exact ⟨_, result, Request.window_eq_ok usable positive range, answered, rfl⟩

/-- **Paging tiles the answer.** Whether a request is answered at position 0 does not depend on
the size it names, so let it be answered with some `probe` for a size. A client that names a size
from 1 on, or none, is then asking until it has made as many requests as there are full pages in
the complete answer, rounded up, or one for an empty answer; it always asks next for what it has
not seen; and after that it is finished, with pages that tile the answer. -/
theorem browse_tiles {service : Service ρ} {records : List ρ} {request : Request}
    {probe : Option Int64} (usable : service.settings.check = .ok ())
    (few : records.length < 2 ^ 63)
    (answered : ∃ page,
      service.list records { request with position := some 0, size := probe } = .ok page)
    (positive : ∀ size, request.size = some size → 1 ≤ size) :
    ∃ result pages, service.answer records request = .ok result ∧ result.Subperm records ∧
      let size := (request.pageSize service.settings).toNat
      let requests := max 1 (result.length ⌈/⌉ size)
      pages.length = requests ∧ Tiling result size pages ∧
        (∀ made < requests, Browsing.run (service.ask records request) made =
          .asking (made * size) (pages.take made)) ∧
        ∀ made ≥ requests, Browsing.run (service.ask records request) made =
          .finished pages := by
  -- The probe has the same filter and the same order, so its answer is the one of all requests.
  obtain ⟨page, listed⟩ := answered
  obtain ⟨-, result, -, complete, -⟩ := Service.list_eq_ok_iff.mp listed
  have complete : service.answer records request = .ok result := complete
  have part := Service.answer_subperm complete
  have small : result.length < 2 ^ 63 := Nat.lt_of_le_of_lt part.length_le few
  have atLeastOne : ∀ size, request.size = some size → 1 ≤ size.toInt :=
    fun size named => Int64.le_iff_toInt_le.mp (positive size named)
  have cuts := Service.cuts_ask usable atLeastOne complete
  have room := Request.pageSize_pos usable atLeastOne
  obtain ⟨pages, count, tiling, asking, finished⟩ := Browsing.run_tiles cuts small room
  exact ⟨result, pages, complete, part, count, tiling, asking, finished⟩

/-- Three of four numbers, the largest first and two on a page: two requests see them all. -/
theorem browse_tiles_two_on_a_page :
    let service : Service Int64 := { schema := Schema.empty.insert "n" (.integer fun n => n) }
    let request : Request :=
      { query := some "n().greaterThan(2)", sort := some "-n", size := some 2 }
    ∃ pages : List (Page Int64), pages.length = 2 ∧
      Tiling [9, 7, 5] 2 pages ∧
      Browsing.run (service.ask [9, 7, 1, 5] request) 1 = .asking 2 (pages.take 1) ∧
      Browsing.run (service.ask [9, 7, 1, 5] request) 2 = .finished pages := by
  intro service request
  let condition : Condition :=
    ⟨.plain, "n", .comparing .greater, ["2"], "n().greaterThan(2)"⟩
  have parsed : Condition.parseFilter "n().greaterThan(2)" = .ok [condition] := by rfl
  have ordered : SortKey.parseOrder "-n" = .ok [⟨"n", .descending⟩] := by rfl
  have selects : service.select [9, 7, 1, 5] [condition] = .ok [9, 7, 5] := by rfl
  let keys : List (BoundKey Int64) := [⟨.integer fun n => n, .descending⟩]
  have descends : List.Pairwise
      (fun left right => (compareRecords keys left right).isLE = true) [9, 7, 5] := by decide
  have sorts : service.sort [9, 7, 5] [⟨"n", .descending⟩] = .ok [9, 7, 5] := by
    show Except.ok (arrange keys [9, 7, 5]) = _
    rw [arrange, List.mergeSort_of_pairwise descends]
  have complete : service.answer [9, 7, 1, 5] request = .ok [9, 7, 5] :=
    Outcome.bind_eq_ok_iff.mpr ⟨_, parsed, Outcome.bind_eq_ok_iff.mpr
      ⟨_, ordered, Outcome.bind_eq_ok_iff.mpr ⟨_, selects, sorts⟩⟩⟩
  have answered : ∃ page, service.list [9, 7, 1, 5]
      { request with position := some 0, size := none } = .ok page :=
    ⟨_, Service.list_eq_ok_iff.mpr ⟨_, _, rfl, complete, rfl⟩⟩
  have size : (request.pageSize service.settings).toNat = 2 := by decide
  obtain ⟨result, pages, same, -, count, tiling, asking, finished⟩ :=
    @browse_tiles Int64 service [9, 7, 1, 5] request none (by decide) (by decide) answered
      (by rintro size ⟨⟩; decide)
  obtain rfl : [9, 7, 5] = result := Except.ok.inj (complete.symm.trans same)
  rw [size] at count tiling asking finished
  exact ⟨pages, count, tiling, asking 1 (by decide), finished 2 (by decide)⟩

end Listing
