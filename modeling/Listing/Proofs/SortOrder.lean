import Listing.Arrangement
import Mathlib.Order.Defs.LinearOrder

/-!
# `Listing/Proofs/SortOrder.lean` — the laws of the sort order

Sorting needs an order that puts any two values in a place, and does so consistently: turning the
question round turns the answer round, and what comes no later than something comes no later than
what follows it. `Std.TransCmp` is these two laws. The order of each kind of value obeys them,
because it looks at a *key* of the value, or at several in turn, and keys are integers or lists of
characters. Values of different kinds are told apart by the rank of their kind, which is a key
as well.

The laws go up from there without a further look at values: to the order under one sort key, in
either direction, and to the order under a list of them.

The orders have ties, and which ones is part of what they are: an order in which all is equal would
obey the laws as well. The keys of a kind miss nothing of a value, but for the case of a text, so
values are tied if they are the same once texts are lowered (`Value.folded`).

**`sortOrder_totalPreorder`** says all this of values and of records.
-/

set_option autoImplicit false

namespace Listing

open Std Number Text

/-! ## One kind -/

instance : TransCmp Date.compare :=
  inferInstanceAs (TransCmp (compareLex (compareOn Date.year)
    (compareLex (compareOn Date.month) (compareOn Date.day))))

instance : TransCmp Binary64.compareTotal :=
  inferInstanceAs (TransCmp (compareOn Binary64.place))

instance : TransCmp compareFolded :=
  inferInstanceAs (TransCmp (compareOn fun text : String => fold text.toList))

namespace Value

section AbsentFirst

variable {α : Type} {order : α → α → Ordering}

theorem absentFirst_eq_swap [OrientedCmp order] {a b : Option α} :
    absentFirst order a b = (absentFirst order b a).swap := by
  cases a with
  | none => cases b <;> rfl
  | some a =>
    cases b with
    | none => rfl
    | some b =>
      simp only [absentFirst]
      exact OrientedCmp.eq_swap

theorem absentFirst_isLE_trans [TransCmp order] {a b c : Option α}
    (ab : (absentFirst order a b).isLE) (bc : (absentFirst order b c).isLE) :
    (absentFirst order a c).isLE := by
  cases a with
  | none => cases c <;> rfl
  | some a =>
    -- Only an absent value comes no later than an absent one.
    cases b with
    | none => cases ab
    | some b =>
      cases c with
      | none => cases bc
      | some c =>
        simp only [absentFirst] at *
        exact TransCmp.isLE_trans ab bc

instance [TransCmp order] : TransCmp (absentFirst order) where
  eq_swap := absentFirst_eq_swap
  isLE_trans := absentFirst_isLE_trans

end AbsentFirst

/-! ## All kinds -/

theorem sortCompare_of_kind_ne {a b : Value} (ne : a.kind ≠ b.kind) :
    sortCompare a b = compare a.kind.rank b.kind.rank := by
  cases a <;> cases b <;> first | rfl | exact absurd rfl ne

theorem sortCompare_eq_swap {a b : Value} : sortCompare a b = (sortCompare b a).swap := by
  by_cases same : a.kind = b.kind
  · cases a <;> cases b <;> cases same <;> simp only [sortCompare] <;>
      exact OrientedCmp.eq_swap
  · rw [sortCompare_of_kind_ne same, sortCompare_of_kind_ne (Ne.symm same)]
    exact OrientedCmp.eq_swap

theorem rank_le_of_sortCompare {a b : Value} (ab : (sortCompare a b).isLE) :
    a.kind.rank ≤ b.kind.rank := by
  by_cases same : a.kind = b.kind
  · exact Nat.le_of_eq (congrArg Kind.rank same)
  · rw [sortCompare_of_kind_ne same] at ab
    exact Nat.isLE_compare.mp ab

/-- A value between two of one kind is of that kind, too. -/
theorem kind_eq_of_between {a b c : Value} (same : a.kind = c.kind)
    (ab : (sortCompare a b).isLE) (bc : (sortCompare b c).isLE) : a.kind = b.kind := by
  have lower := rank_le_of_sortCompare ab
  have upper := rank_le_of_sortCompare bc
  rw [← same] at upper
  exact Kind.rank_injective (Nat.le_antisymm lower upper)

theorem sortCompare_isLE_trans {a b c : Value} (ab : (sortCompare a b).isLE)
    (bc : (sortCompare b c).isLE) : (sortCompare a c).isLE := by
  by_cases same : a.kind = c.kind
  · have sameB := kind_eq_of_between same ab bc
    cases a <;> cases b <;> cases sameB <;> cases c <;> cases same <;>
      simp only [sortCompare] at * <;> exact TransCmp.isLE_trans ab bc
  · rw [sortCompare_of_kind_ne same]
    exact Nat.isLE_compare.mpr
      (Nat.le_trans (rank_le_of_sortCompare ab) (rank_le_of_sortCompare bc))

instance : TransCmp sortCompare where
  eq_swap := sortCompare_eq_swap
  isLE_trans := sortCompare_isLE_trans

end Value

/-! ## Ties -/

/-- The sign and the magnitude of a pattern can be told from its place. -/
theorem Number.Binary64.place_injective {x y : Binary64} (h : x.place = y.place) : x = y := by
  have boundX := x.bits.toNat_lt
  have boundY := y.bits.toNat_lt
  have signBit : (1 <<< 63 : Nat) = 9223372036854775808 := rfl
  suffices x.bits.toNat = y.bits.toNat by
    cases x
    cases y
    exact congrArg Binary64.mk (UInt64.toNat_inj.mp this)
  simp only [place, isNegative, magnitude, decide_eq_true_eq, signBit] at h
  split at h <;> split at h <;> omega

instance : LawfulEqCmp Binary64.compareTotal where
  eq_of_compare h := Binary64.place_injective (LawfulEqOrd.eq_of_compare h)

instance : LawfulEqCmp Date.compare where
  eq_of_compare {a b} h := by
    simp only [Date.compare, Ordering.then_eq_eq, LawfulEqOrd.compare_eq_iff_eq] at h
    obtain ⟨year, month, day⟩ := h
    cases a
    cases b
    cases year
    cases month
    cases day
    rfl

namespace Value

theorem absentFirst_eq_eq_iff {α β : Type} {order : α → α → Ordering} {key : α → β}
    (ties : ∀ a b, order a b = .eq ↔ key a = key b) {a b : Option α} :
    absentFirst order a b = .eq ↔ a.map key = b.map key := by
  cases a <;> cases b <;> simp [absentFirst, ties]

/-- The value with its text, if it has one, in lower case. -/
def folded : Value → Value
  | string text => string (text.map fun text => String.ofList (fold text.toList))
  | date day => date day
  | boolean truth => boolean truth
  | integer word => integer word
  | decimal number => decimal number

@[simp] theorem kind_folded (value : Value) : value.folded.kind = value.kind := by
  cases value <;> rfl

theorem sortCompare_eq_eq_iff_of_kind {a b : Value} (same : a.kind = b.kind) :
    sortCompare a b = .eq ↔ a.folded = b.folded := by
  cases a <;> cases b <;> cases same
  case string a b =>
    have ties (left right : String) : compareFolded left right = .eq ↔
        String.ofList (fold left.toList) = String.ofList (fold right.toList) := by
      rw [compareFolded_eq_iff, String.ofList_inj]
    simpa only [sortCompare, folded, string.injEq] using absentFirst_eq_eq_iff ties
  case date a b =>
    have ties (left right : Date) : Date.compare left right = .eq ↔ id left = id right :=
      LawfulEqCmp.compare_eq_iff_eq
    simpa only [sortCompare, folded, date.injEq, Option.map_id, id] using absentFirst_eq_eq_iff ties
  case boolean a b => simp [sortCompare, folded]
  case integer a b => simp [sortCompare, folded]
  case decimal a b => simp [sortCompare, folded]

/-- Values are tied if they are the same, or would be in lower case. -/
theorem sortCompare_eq_eq_iff {a b : Value} : sortCompare a b = .eq ↔ a.folded = b.folded := by
  by_cases same : a.kind = b.kind
  · exact sortCompare_eq_eq_iff_of_kind same
  · rw [sortCompare_of_kind_ne same]
    constructor
    · intro equal
      have rank : a.kind.rank = b.kind.rank := LawfulEqOrd.eq_of_compare equal
      exact absurd (Kind.rank_injective rank) same
    · intro equal
      have kinds := congrArg kind equal
      rw [kind_folded, kind_folded] at kinds
      exact absurd kinds same

end Value

/-! ## Sort keys -/

variable {ρ : Type}

theorem Direction.descending_apply {α : Type} {order : α → α → Ordering} [OrientedCmp order]
    (a b : α) : descending.apply (order a b) = order b a :=
  OrientedCmp.eq_swap.symm

/-- A direction turns an order round or leaves it as it is. -/
theorem Direction.transCmp_apply {α : Type} (direction : Direction) (order : α → α → Ordering)
    [TransCmp order] : TransCmp fun a b => direction.apply (order a b) := by
  cases direction with
  | ascending => exact inferInstanceAs (TransCmp order)
  | descending =>
    simp only [descending_apply]
    exact TransCmp.opposite

instance (key : BoundKey ρ) : TransCmp key.compare :=
  key.direction.transCmp_apply
    (Ordering.byKey (fun record => key.accessor.extract record) Value.sortCompare)

theorem transCmp_compareRecords (keys : List (BoundKey ρ)) : TransCmp (compareRecords keys) := by
  induction keys with
  | nil => exact { eq_swap := rfl, isLE_trans := fun _ _ => rfl }
  | cons key keys ih =>
    exact inferInstanceAs (TransCmp (compareLex key.compare (compareRecords keys)))

instance (keys : List (BoundKey ρ)) : TransCmp (compareRecords keys) :=
  transCmp_compareRecords keys

theorem Direction.apply_eq_eq_iff {direction : Direction} {order : Ordering} :
    direction.apply order = .eq ↔ order = .eq := by
  cases direction with
  | ascending => exact Iff.rfl
  | descending => exact Ordering.swap_eq_eq

/-- A tie is a tie in either direction. -/
theorem BoundKey.compare_eq_eq_iff {key : BoundKey ρ} {left right : ρ} :
    key.compare left right = .eq ↔
      (key.accessor.extract left).folded = (key.accessor.extract right).folded := by
  rw [BoundKey.compare, Direction.apply_eq_eq_iff, Value.sortCompare_eq_eq_iff]

/-- Records are tied if they are tied under every key. -/
theorem compareRecords_eq_eq_iff_forall {keys : List (BoundKey ρ)} {left right : ρ} :
    compareRecords keys left right = .eq ↔ ∀ key ∈ keys, key.compare left right = .eq := by
  induction keys with
  | nil => simp [compareRecords]
  | cons key keys ih => rw [compareRecords, Ordering.then_eq_eq, ih, List.forall_mem_cons]

/-! ## Both orders -/

/-- What sorting asks of a comparison. Any two things are in some order, turning the question round
turns the answer round, and answers can be chained. Different things may be tied, but then nothing
else tells them apart. -/
structure TotalPreorder {α : Type} (order : α → α → Ordering) : Prop where
  self : ∀ a, order a a = .eq
  turned : ∀ a b, order a b = (order b a).swap
  trans : ∀ a b c answer, order a b = answer → order b c = answer → order a c = answer
  trans_notAfter : ∀ a b c, order a b ≠ .gt → order b c ≠ .gt → order a c ≠ .gt
  alike : ∀ a b, order a b = .eq → ∀ c, order a c = order b c ∧ order c a = order c b

theorem TotalPreorder.of_transCmp {α : Type} (order : α → α → Ordering) [TransCmp order] :
    TotalPreorder order where
  self _ := ReflCmp.compare_self
  turned _ _ := OrientedCmp.eq_swap
  trans a b c answer ab bc := by
    cases answer with
    | lt => exact TransCmp.lt_trans ab bc
    | eq => exact TransCmp.eq_trans ab bc
    | gt => exact TransCmp.gt_trans ab bc
  trans_notAfter a b c ab bc := by
    simp only [Ordering.ne_gt_iff_isLE] at *
    exact TransCmp.isLE_trans ab bc
  alike a b ab c := ⟨TransCmp.congr_left ab, TransCmp.congr_right ab⟩

/-- **Sorting has a total preorder to go by.** Any values of any kinds can be compared, absent ones
and NaNs among them, and so can records under any keys in any directions; the answers never
contradict each other. Values are tied if they are the same once texts are lowered, and records if
their values are under every key. -/
theorem sortOrder_totalPreorder :
    TotalPreorder Value.sortCompare ∧
    (∀ a b : Value, a.sortCompare b = .eq ↔ a.folded = b.folded) ∧
    ∀ (ρ : Type) (keys : List (BoundKey ρ)),
      TotalPreorder (compareRecords keys) ∧
      ∀ left right, compareRecords keys left right = .eq ↔
        ∀ key ∈ keys, (key.accessor.extract left).folded = (key.accessor.extract right).folded := by
  refine ⟨.of_transCmp _, fun a b => Value.sortCompare_eq_eq_iff, fun ρ keys => ?_⟩
  refine ⟨.of_transCmp _, fun left right => ?_⟩
  rw [compareRecords_eq_eq_iff_forall]
  exact forall₂_congr fun key _ => BoundKey.compare_eq_eq_iff

end Listing
