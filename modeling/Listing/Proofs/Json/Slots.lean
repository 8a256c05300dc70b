import Listing.Json
import Mathlib.Data.List.Forall2
import Mathlib.Data.List.Nodup

/-!
# `Listing/Proofs/Json/Slots.lean` — what fields are given

A record takes its fields from an object or an array, and for both `slots?` finds a list with a
place for each field. This file says what it makes of the two forms, for the fields of any record.

Of an object only the members under the names of fields count. Their order does not matter, nor
what stands between them (`slots?_object_of_perm`), but each may stand there once
(`slots?_eq_none_of_repeated`). An array says the same as the object in which its items have the
names of the first fields (`slots?_array`). And no value is lost: what stands under the name of a
field, or in an array, is in its slot (`mem_of_slots?_object`, `mem_of_slots?_array`).
-/

set_option autoImplicit false

namespace Listing.Json

variable {names : List String} {slots : List (Option Json)} {name : String} {value : Json}
variable {members known others : List (Option String × Json)}

/-! ## One field -/

/-- The value under a name is decided by the members with this name. -/
theorem slot?_congr (same : members.filter (·.1 = some name) = others.filter (·.1 = some name)) :
    slot? members name = slot? others name := by
  unfold slot?
  rw [same]

theorem slot?_eq_none_of_lt (repeated : 1 < (members.filter (·.1 = some name)).length) :
    slot? members name = none := by
  unfold slot?
  split
  · next nothing => simp [nothing] at repeated
  · next one => simp [one] at repeated
  · rfl

theorem slot?_of_perm (same : members.Perm others) : slot? members name = slot? others name := by
  have found := same.filter (·.1 = some name)
  by_cases repeated : 1 < (members.filter (·.1 = some name)).length
  · rw [slot?_eq_none_of_lt repeated, slot?_eq_none_of_lt (found.length_eq ▸ repeated)]
  · -- No member, or one, stands in the same order everywhere.
    refine slot?_congr ?_
    revert found repeated
    cases members.filter (·.1 = some name) with
    | nil => exact fun found _ => found.nil_eq
    | cons member rest =>
      cases rest with
      | nil => exact fun found _ => found.singleton_eq
      | cons => simp

theorem slot?_append_of_ne (foreign : ∀ other ∈ others, other.1 ≠ some name) :
    slot? (members ++ others) name = slot? members name := by
  refine slot?_congr ?_
  have nothing : others.filter (·.1 = some name) = [] := by simpa using foreign
  rw [List.filter_append, nothing, List.append_nil]

theorem eq_of_slot? {slot : Option Json} (found : slot? members name = some slot)
    (mem : (some name, value) ∈ members) : slot = some value := by
  have mem : (some name, value) ∈ members.filter (·.1 = some name) := by simpa using mem
  unfold slot? at found
  split at found
  · next nothing =>
    rw [nothing] at mem
    cases mem
  · next member one =>
    rw [one, List.mem_singleton] at mem
    rw [← Option.some.inj found, ← mem]
  · cases found

/-! ## All fields -/

/-- All fields have a slot when each has; the slots stand in the order of the fields. -/
theorem mapM_eq_some_iff {α β : Type} {f : α → Option β} {as : List α} {bs : List β} :
    as.mapM f = some bs ↔ List.Forall₂ (fun a b => f a = some b) as bs := by
  induction as generalizing bs with
  | nil => simp [eq_comm]
  | cons a as ih =>
    rw [List.mapM_cons, List.forall₂_cons_left_iff]
    cases f a with
    | none => simp
    | some b => cases rest : as.mapM f <;> simp [← ih, rest, eq_comm]

theorem mapM_congr {α β : Type} {f g : α → Option β} {as : List α}
    (same : ∀ a ∈ as, f a = g a) : as.mapM f = as.mapM g := by
  induction as with
  | nil => rfl
  | cons a as ih =>
    obtain ⟨head, rest⟩ := List.forall_mem_cons.mp same
    rw [List.mapM_cons, List.mapM_cons, head, ih rest]

/-- Members that are ignored: their names are texts, but not those of fields. -/
def Ignored (names : List String) (others : List (Option String × Json)) : Prop :=
  ∀ other ∈ others, ∃ name, name ∉ names ∧ other.1 = some name

theorem Ignored.all_isSome (ignored : Ignored names others) :
    others.all (·.1.isSome) = true := by
  refine List.all_eq_true.mpr fun other mem => ?_
  obtain ⟨name, -, text⟩ := ignored other mem
  rw [text, Option.isSome_some]

/-- **The layout of an object does not matter**: in any order, with any ignored members anywhere, it
gives the same to the fields. -/
theorem slots?_object_of_perm (same : members.Perm (known ++ others))
    (ignored : Ignored names others) :
    slots? names (.object members) = slots? names (.object known) := by
  have texts : members.all (·.1.isSome) = known.all (·.1.isSome) := by
    rw [same.all_eq, List.all_append, ignored.all_isSome, Bool.and_true]
  have sameSlots : names.mapM (slot? members) = names.mapM (slot? known) := by
    refine mapM_congr fun name field => ?_
    rw [slot?_of_perm same, slot?_append_of_ne]
    intro other mem here
    obtain ⟨foreign, absent, text⟩ := ignored other mem
    cases here.symm.trans text
    exact absent field
  rw [slots?, slots?, texts, sameSlots]

theorem forall₂_of_slots?_object (gives : slots? names (.object members) = some slots) :
    List.Forall₂ (fun name slot => slot? members name = some slot) names slots := by
  rw [slots?] at gives
  split at gives
  · exact mapM_eq_some_iff.mp gives
  · cases gives

theorem exists_slot? (gives : slots? names (.object members) = some slots) (field : name ∈ names) :
    ∃ slot ∈ slots, slot? members name = some slot := by
  have all := forall₂_of_slots?_object gives
  clear gives
  induction all with
  | nil => cases field
  | cons found _ ih =>
    obtain rfl | field := List.mem_cons.mp field
    · exact ⟨_, List.mem_cons_self, found⟩
    · obtain ⟨slot, mem, found⟩ := ih field
      exact ⟨slot, List.mem_cons_of_mem _ mem, found⟩

/-- A field must not be given twice. -/
theorem slots?_eq_none_of_repeated {again : Json} (field : name ∈ names)
    (twice : [(some name, value), (some name, again)].Sublist members) :
    slots? names (.object members) = none := by
  refine Option.eq_none_iff_forall_ne_some.mpr fun slots gives => ?_
  obtain ⟨slot, -, found⟩ := exists_slot? gives field
  have both := (twice.filter (·.1 = some name)).length_le
  rw [slot?_eq_none_of_lt (by simpa [Nat.lt_iff_add_one_le] using both)] at found
  cases found

/-- What stands under the name of a field is in a slot. -/
theorem mem_of_slots?_object (gives : slots? names (.object members) = some slots)
    (field : name ∈ names) (mem : (some name, value) ∈ members) : some value ∈ slots := by
  obtain ⟨slot, inSlots, found⟩ := exists_slot? gives field
  exact eq_of_slot? found mem ▸ inSlots

/-! ## Arrays -/

theorem mem_of_slots?_array {items : List Json} (gives : slots? names (.array items) = some slots)
    (mem : value ∈ items) : some value ∈ slots := by
  rw [slots?] at gives
  split at gives
  · cases gives
    exact List.mem_append_left _ (List.mem_map_of_mem mem)
  · cases gives

/-- The members that give values to fields, in the order of the fields. -/
def named : List String → List (Option Json) → List (Option String × Json)
  | name :: names, some value :: slots => (some name, value) :: named names slots
  | _ :: names, none :: slots => named names slots
  | _, _ => []

theorem mem_names_of_mem_named {member : Option String × Json} (mem : member ∈ named names slots) :
    ∃ name ∈ names, member.1 = some name := by
  fun_induction named names slots with
  | case1 name names value slots ih =>
    obtain rfl | mem := List.mem_cons.mp mem
    · exact ⟨name, List.mem_cons_self, rfl⟩
    · obtain ⟨other, field, text⟩ := ih mem
      exact ⟨other, List.mem_cons_of_mem _ field, text⟩
  | case2 name names slots ih =>
    obtain ⟨other, field, text⟩ := ih mem
    exact ⟨other, List.mem_cons_of_mem _ field, text⟩
  | case3 => cases mem

theorem ne_of_mem_named (absent : name ∉ names) :
    ∀ member ∈ named names slots, member.1 ≠ some name := by
  intro member mem here
  obtain ⟨other, field, text⟩ := mem_names_of_mem_named mem
  cases here.symm.trans text
  exact absent field

theorem mapM_slot?_named (distinct : names.Nodup) (each : slots.length = names.length) :
    names.mapM (slot? (named names slots)) = some slots := by
  induction names generalizing slots with
  | nil =>
    rw [List.length_eq_zero_iff.mp each]
    rfl
  | cons name names ih =>
    obtain ⟨slot, slots, rfl⟩ := List.exists_cons_of_length_eq_add_one each
    obtain ⟨absent, distinct⟩ := List.nodup_cons.mp distinct
    have head : slot? (named (name :: names) (slot :: slots)) name = some slot := by
      cases slot with
      | none =>
        show slot? ([] ++ named names slots) name = some none
        rw [slot?_append_of_ne (ne_of_mem_named absent)]
        rfl
      | some value =>
        show slot? ([(some name, value)] ++ named names slots) name = some (some value)
        rw [slot?_append_of_ne (ne_of_mem_named absent)]
        simp [slot?]
    have tail : names.mapM (slot? (named (name :: names) (slot :: slots))) = some slots := by
      rw [← ih distinct (Nat.succ.inj each)]
      refine mapM_congr fun other field => ?_
      cases slot with
      | none => rfl
      | some value =>
        have ne : name ≠ other := fun same => absent (same ▸ field)
        exact slot?_congr (by simp [named, ne])
    rw [List.mapM_cons, head, tail]
    rfl

/-- Fields get the values that are given under their names. -/
theorem slots?_named (distinct : names.Nodup) (each : slots.length = names.length) :
    slots? names (.object (named names slots)) = some slots := by
  have texts : (named names slots).all (·.1.isSome) = true := by
    refine List.all_eq_true.mpr fun member mem => ?_
    obtain ⟨name, -, text⟩ := mem_names_of_mem_named mem
    rw [text, Option.isSome_some]
  rw [slots?, if_pos texts, mapM_slot?_named distinct each]

theorem named_of_items (names : List String) (items : List Json) :
    named names (items.map some ++ List.replicate (names.length - items.length) none) =
      (names.map some).zip items := by
  induction names generalizing items with
  | nil => simp [named]
  | cons name names ih =>
    cases items with
    | nil => simpa [named, List.replicate_succ] using ih []
    | cons item items => simpa [named] using ih items

/-- **An array says the same as an object**: its items stand for the first fields. -/
theorem slots?_array (distinct : names.Nodup) {items : List Json}
    (few : items.length ≤ names.length) :
    slots? names (.array items) = slots? names (.object ((names.map some).zip items)) := by
  have each : (items.map some ++
      List.replicate (names.length - items.length) none).length = names.length := by
    simp [few]
  rw [← named_of_items, slots?_named distinct each, slots?, if_pos few]

end Listing.Json
