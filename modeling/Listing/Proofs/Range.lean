import Listing.Proofs.Arrangement
import Listing.Proofs.Selection.Meaning

/-!
# `Listing/Proofs/Range.lean` — a comparison selects a run of the sorted records

Sorting and conditions compare values by two orders. They are not the same: sorting has a place
for absent values and for NaNs, which conditions compare with nothing, and tells the zeros apart,
which are equal in a condition. But they never contradict each other, and that is what a reader of
a sorted list relies on: the records that satisfy `lessThan(…)` stand together.

What has to be shown of a comparison is that it is `Convex`: what holds of two values holds of all
that sort between them. `notEqualTo` is the one comparison that is not, as it leaves out the
middle. Convexity goes up from the orders of the kinds to values and to records
(`Comparison.convex_holds`, `Value.convex_admits`, `Service.convex_holds`), and a list in order has
its convex part in one piece (`Convex.exists_run`).

**`range_contiguous`** says so of `Service.select` and `Service.sort`.
-/

set_option autoImplicit false

namespace Listing

open Std Number Text

/-! ## Convex properties -/

/-- What holds of two things holds of everything between them, ends included. -/
def Convex {α : Type} (order : α → α → Ordering) (p : α → Prop) : Prop :=
  ∀ ⦃a b c : α⦄, (order a b).isLE → (order b c).isLE → p a → p c → p b

namespace Convex

variable {α : Type} {order : α → α → Ordering} {p : α → Prop}

/-- It does not matter from which end one looks. -/
theorem apply [OrientedCmp order] (convex : Convex order p) (direction : Direction) :
    Convex (fun a b => direction.apply (order a b)) p := by
  cases direction with
  | ascending => exact convex
  | descending =>
    intro a b c ab bc ha hc
    simp only [Direction.descending_apply] at ab bc
    exact convex bc ab hc ha

/-- Nothing that is absent is between two present things. -/
theorem absentFirst {p : Option α → Prop} (absent : ¬ p none)
    (convex : Convex order fun a => p (some a)) : Convex (Value.absentFirst order) p := by
  intro a b c ab bc ha hc
  cases a with
  | none => exact absurd ha absent
  | some a =>
    cases b with
    | none => cases ab
    | some b =>
      cases c with
      | none => exact absurd hc absent
      | some c => exact convex ab bc ha hc

/-- A list in order holds a convex property of one run of its elements. By induction on the list:
if the property holds of the head, nothing can stand between the head and the run. -/
theorem exists_run (convex : Convex order p) {sorted : List α}
    (ordered : sorted.Pairwise fun a b => order a b ≠ .gt) :
    ∃ before run after, sorted = before ++ run ++ after ∧ (∀ a ∈ run, p a) ∧
      ∀ a ∈ before ++ after, ¬ p a := by
  induction sorted with
  | nil => exact ⟨[], [], [], rfl, by simp, by simp⟩
  | cons head rest ih =>
    obtain ⟨headFirst, restOrdered⟩ := List.pairwise_cons.mp ordered
    obtain ⟨before, run, after, rfl, inside, outside⟩ := ih restOrdered
    by_cases holds : p head
    · cases run with
      | nil => exact ⟨[], [head], before ++ after, by simp, by simpa using holds, outside⟩
      | cons first run =>
        have nothing (b : α) : b ∉ before := by
          intro mem
          have headB : (order head b).isLE :=
            Ordering.ne_gt_iff_isLE.mp (headFirst b (by simp [mem]))
          have bFirst : (order b first).isLE := by
            have beforeRun := (List.pairwise_append.mp restOrdered).1
            have apart := (List.pairwise_append.mp beforeRun).2.2
            exact Ordering.ne_gt_iff_isLE.mp (apart b mem first List.mem_cons_self)
          have holdsB := convex headB bFirst holds (inside first List.mem_cons_self)
          exact outside b (List.mem_append_left after mem) holdsB
        obtain rfl := List.eq_nil_iff_forall_not_mem.mpr nothing
        exact ⟨[], head :: first :: run, after, rfl,
          List.forall_mem_cons.mpr ⟨holds, inside⟩, outside⟩
    · exact ⟨head :: before, run, after, rfl, inside,
        List.forall_mem_cons.mpr ⟨holds, outside⟩⟩

end Convex

theorem filter_eq_run {α : Type} {p : α → Prop} [DecidablePred p] {before run after : List α}
    (inside : ∀ a ∈ run, p a) (outside : ∀ a ∈ before ++ after, ¬ p a) :
    (before ++ run ++ after).filter p = run := by
  obtain ⟨noneBefore, noneAfter⟩ := List.forall_mem_append.mp outside
  have emptyBefore : before.filter p = [] := by simpa using noneBefore
  have emptyAfter : after.filter p = [] := by simpa using noneAfter
  have allInside : run.filter p = run := by simpa using inside
  rw [List.filter_append, List.filter_append, emptyBefore, emptyAfter, allInside, List.nil_append,
    List.append_nil]

/-! ## Comparisons -/

namespace Comparison

variable {comparison : Comparison}

/-- All comparisons but `notEqual` are convex in an order with which they agree. -/
theorem convex_holds {α : Type} (order : α → α → Ordering) [TransCmp order]
    (ne : comparison ≠ .notEqual) (operand : α) :
    Convex order fun a => comparison.holds (order a operand) = true := by
  intro a b c ab bc ha hc
  cases comparison with
  | equal =>
    have upper := TransCmp.isLE_trans bc (Ordering.isLE_of_eq_eq (Ordering.isEq_iff_eq_eq.mp hc))
    have lower := TransCmp.isLE_trans
      (Ordering.isLE_of_eq_eq (OrientedCmp.eq_symm (Ordering.isEq_iff_eq_eq.mp ha))) ab
    exact Ordering.isEq_iff_eq_eq.mpr (OrientedCmp.isLE_antisymm upper lower)
  | notEqual => exact absurd rfl ne
  | less =>
    exact Ordering.isLT_iff_eq_lt.mpr (TransCmp.lt_of_isLE_of_lt bc (Ordering.isLT_iff_eq_lt.mp hc))
  | lessOrEqual => exact TransCmp.isLE_trans bc hc
  | greater =>
    have above := OrientedCmp.gt_iff_lt.mp (Ordering.isGT_iff_eq_gt.mp ha)
    exact Ordering.isGT_iff_eq_gt.mpr
      (OrientedCmp.gt_iff_lt.mpr (TransCmp.lt_of_lt_of_isLE above ab))
  | greaterOrEqual =>
    have above := TransCmp.isLE_trans (OrientedCmp.isGE_iff_isLE.mp ha) ab
    exact OrientedCmp.isGE_iff_isLE.mpr above

theorem admits_eq_true_iff (ne : comparison ≠ .notEqual) {order : Option Ordering} :
    comparison.admits order = true ↔
      ∃ found, order = some found ∧ comparison.holds found = true := by
  cases order with
  | none => simp [admits, ne]
  | some found => simp [admits]

end Comparison

/-! ## Decimals -/

namespace Number.Binary64

variable {x y z : Binary64}

/-- The order of all patterns refines the order of the values: it tells more apart, but never the
other way round. -/
theorem signedMagnitude_le (xy : (compareTotal x y).isLE) :
    x.signedMagnitude ≤ y.signedMagnitude := by
  have places : x.place ≤ y.place := Int.isLE_compare.mp xy
  unfold place at places
  unfold signedMagnitude
  cases hx : x.isNegative <;> cases hy : y.isNegative <;> simp only [hx, hy] at * <;> grind

/-- NaNs have their places at the two ends. -/
theorem isNaN_eq_false_of_between (xy : (compareTotal x y).isLE) (yz : (compareTotal y z).isLE)
    (hx : x.isNaN = false) (hz : z.isNaN = false) : y.isNaN = false := by
  have lower := signedMagnitude_le xy
  have upper := signedMagnitude_le yz
  simp only [isNaN, decide_eq_false_iff_not, Nat.not_lt] at *
  unfold signedMagnitude at lower upper
  grind

theorem compare?_eq_some_iff {order : Ordering} :
    compare? x y = some order ↔
      x.isNaN = false ∧ y.isNaN = false ∧ compare x.signedMagnitude y.signedMagnitude = order := by
  unfold compare?
  cases x.isNaN <;> cases y.isNaN <;> simp

theorem convex_admits {comparison : Comparison} (ne : comparison ≠ .notEqual)
    (operand : Binary64) :
    Convex compareTotal fun x => comparison.admits (x.compare? operand) = true := by
  simp only [Comparison.admits_eq_true_iff ne, compare?_eq_some_iff]
  rintro x y z xy yz ⟨_, ⟨hx, number, rfl⟩, holdsX⟩ ⟨_, ⟨hz, -, rfl⟩, holdsZ⟩
  refine ⟨_, ⟨isNaN_eq_false_of_between xy yz hx hz, number, rfl⟩, ?_⟩
  exact Comparison.convex_holds compare ne operand.signedMagnitude
    (Int.isLE_compare.mpr (signedMagnitude_le xy)) (Int.isLE_compare.mpr (signedMagnitude_le yz))
    holdsX holdsZ

end Number.Binary64

/-! ## Values -/

namespace Value

variable {comparison : Comparison}

/-- Only present values of one kind have an order for a condition. -/
theorem present_of_compare? {value operand : Value} {order : Ordering}
    (h : value.compare? operand = some order) :
    value.kind = operand.kind ∧ value.isAbsent = false ∧ operand.isAbsent = false := by
  unfold compare? at h
  split at h
  case h_6 => cases h
  all_goals exact ⟨rfl, rfl, rfl⟩

/-- Strings and dates may be absent, but those that satisfy a comparison are not. -/
theorem convex_admits_of_present {α : Type} {order : α → α → Ordering} [TransCmp order]
    (ne : comparison ≠ .notEqual) (make : Option α → Value) {operand : α}
    (absent : (make none).compare? (make (some operand)) = none)
    (present : ∀ a, (make (some a)).compare? (make (some operand)) = some (order a operand)) :
    Convex (absentFirst order) fun a =>
      comparison.admits ((make a).compare? (make (some operand))) = true := by
  refine Convex.absentFirst ?_ ?_
  · rw [absent]
    simp [Comparison.admits, ne]
  · simp only [present]
    exact Comparison.convex_holds order ne operand

/-- By kinds: the values that satisfy a comparison are all of the operand's kind, and so is what
sorts between them. -/
theorem convex_admits (ne : comparison ≠ .notEqual) (operand : Value) :
    Convex sortCompare fun value => comparison.admits (value.compare? operand) = true := by
  intro a b c ab bc ha hc
  obtain ⟨_, ofA, -⟩ := (Comparison.admits_eq_true_iff ne).mp ha
  obtain ⟨_, ofC, -⟩ := (Comparison.admits_eq_true_iff ne).mp hc
  obtain ⟨kindA, -, present⟩ := present_of_compare? ofA
  have kindC := (present_of_compare? ofC).1
  have kindB := kind_eq_of_between (kindA.trans kindC.symm) ab bc
  clear ofA ofC
  -- All four values are made by one constructor.
  cases operand <;> cases a <;> cases kindA <;> cases b <;> cases kindB <;> cases c <;>
    cases kindC
  case string operand a b c =>
    cases operand with
    | none => cases present
    | some operand =>
      exact convex_admits_of_present ne string rfl (fun _ => rfl) ab bc ha hc
  case date operand a b c =>
    cases operand with
    | none => cases present
    | some operand =>
      exact convex_admits_of_present ne date rfl (fun _ => rfl) ab bc ha hc
  case boolean operand a b c => exact Comparison.convex_holds compare ne operand ab bc ha hc
  case integer operand a b c => exact Comparison.convex_holds compare ne operand ab bc ha hc
  case decimal operand a b c => exact Binary64.convex_admits ne operand ab bc ha hc

end Value

/-! ## Conditions -/

theorem satisfies_comparing_iff {reading : BooleanReading} {value : Value}
    {comparison : Comparison} {operands : List String} :
    satisfies reading value (.comparing comparison) operands = .ok true ↔
      value.isAbsent = false ∧ value.kind.supports (.comparing comparison) = true ∧
        ∃ text operand, firstOperand (.comparing comparison) operands = .ok text ∧
          readOperand reading value.kind text = .ok operand ∧
          comparison.admits (value.compare? operand) = true := by
  unfold satisfies checkSupported
  cases value.isAbsent with
  | true => simp
  | false =>
    cases value.kind.supports (.comparing comparison) with
    | false => simp
    | true =>
      simp [Outcome.bind_eq_ok_iff, Operator.relates]

namespace Service

variable {ρ : Type} {service : Service ρ} {condition : Condition} {comparison : Comparison}

theorem convex_holds {accessor : Accessor ρ} (ne : comparison ≠ .notEqual)
    (asks : condition.operator = .comparing comparison)
    (known : service.schema.get? condition.field = some accessor) :
    Convex (fun left right => (accessor.extract left).sortCompare (accessor.extract right))
      fun record => service.Holds record condition := by
  have holds_iff (record : ρ) : service.Holds record condition ↔
      satisfies service.settings.booleanReading (accessor.extract record)
        (.comparing comparison) condition.operands = .ok true := by
    unfold Holds verdict Condition.matches
    rw [Schema.resolve_eq_ok_iff.mpr known, asks]
    rfl
  simp only [holds_iff, satisfies_comparing_iff, Accessor.kind_extract]
  rintro a b c ab bc ⟨-, has, text, operand, first, reads, ha⟩ ⟨-, -, _, _, first', reads', hc⟩
  obtain rfl := Except.ok.inj (first.symm.trans first')
  obtain rfl := Except.ok.inj (reads.symm.trans reads')
  have hb := Value.convex_admits ne operand ab bc ha hc
  obtain ⟨_, ofB, -⟩ := (Comparison.admits_eq_true_iff ne).mp hb
  exact ⟨(Value.present_of_compare? ofB).2.1, has, text, operand, first, reads, hb⟩

theorem satisfies_singleton {record : ρ} :
    service.Satisfies [condition] record ↔ service.Holds record condition :=
  List.forall_mem_singleton

theorem verdict_eq_false_of_settles {record : ρ} (settles : service.Settles [condition] record)
    (fails : ¬ service.Holds record condition) :
    service.verdict record condition = .ok false := by
  rcases settles with satisfies | ⟨stop, first, stops⟩
  · exact absurd (satisfies_singleton.mp satisfies) fails
  · obtain rfl := List.mem_singleton.mp first.mem
    exact stops

/-- **A comparison selects a run of the sorted records.** When a selection by one comparison other
than `notEqual` succeeds, and all records are sorted by the same field, in either direction, the
records that satisfy the condition stand together; before and after them it does not hold. -/
theorem range_contiguous (service : Service ρ) {condition : Condition} {comparison : Comparison}
    (asks : condition.operator = .comparing comparison) (ne : comparison ≠ .notEqual)
    {records selected : List ρ} (selects : service.select records [condition] = .ok selected)
    (direction : Direction) :
    ∃ before run after,
      service.sort records [⟨condition.field, direction⟩] = .ok (before ++ run ++ after) ∧
      run.Perm selected ∧
      (∀ record ∈ run, service.verdict record condition = .ok true) ∧
      ∀ record ∈ before ++ after, service.verdict record condition = .ok false := by
  obtain ⟨binds, settled, rfl⟩ := select_eq_ok_iff.mp selects
  obtain ⟨accessor, known, -⟩ := binds condition List.mem_cons_self
  let key : BoundKey ρ := ⟨accessor, direction⟩
  have stable := stablySorted_arrange [key] records
  have convex : Convex (compareRecords [key]) fun record => service.Holds record condition := by
    have : OrientedCmp fun left right : ρ =>
        (accessor.extract left).sortCompare (accessor.extract right) :=
      ⟨OrientedCmp.eq_swap⟩
    rw [compareRecords_singleton]
    exact (convex_holds ne asks known).apply direction
  obtain ⟨before, run, after, split, inside, outside⟩ := convex.exists_run stable.ordered
  have perm := stable.perm
  rw [split] at stable perm
  have among (record : ρ) (mem : record ∈ before ++ after) : record ∈ records :=
    perm.subset (by simp only [List.mem_append] at *; tauto)
  refine ⟨before, run, after, ?_, ?_, inside, fun record mem =>
    verdict_eq_false_of_settles (settled record (among record mem)) (outside record mem)⟩
  · exact sort_eq_ok_iff.mpr ⟨[key], .cons ⟨known, rfl⟩ .nil, stable⟩
  · have kept := perm.filter fun record => service.Holds record condition
    rw [filter_eq_run inside outside] at kept
    simpa only [satisfies_singleton] using kept

/-- The zeros are equal in a condition, sort next to each other, and have NaNs on both sides. -/
theorem range_contiguous_zeros :
    let service : Service Binary64 := { schema := Schema.empty.insert "d" (.decimal id) }
    let condition := Condition.ofParts .plain "d" (.comparing .equal) ["0"]
    let records : List Binary64 :=
      [⟨0x7FF8000000000000⟩, ⟨0⟩, ⟨0x3FF0000000000000⟩, ⟨0x8000000000000000⟩, ⟨0xFFF8000000000000⟩]
    service.select records [condition] = .ok [⟨0⟩, ⟨0x8000000000000000⟩] ∧
      ∃ before run after,
        service.sort records [⟨"d", .descending⟩] = .ok (before ++ run ++ after) ∧
        run.Perm [⟨0⟩, ⟨0x8000000000000000⟩] := by
  intro service condition records
  have selects : service.select records [condition] = .ok [⟨0⟩, ⟨0x8000000000000000⟩] := by rfl
  obtain ⟨before, run, after, sorts, perm, -, -⟩ :=
    range_contiguous service rfl (by decide) selects .descending
  exact ⟨selects, before, run, after, sorts, perm⟩

end Service

end Listing
