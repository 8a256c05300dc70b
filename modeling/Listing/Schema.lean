import Listing.Fault
import Listing.Text.Quoted
import Listing.Value

/-!
# `Listing/Schema.lean` — the fields of a record type

The library knows nothing about records but what a `Schema` tells it: the names of their fields
and, for each name, an accessor that gets the value of the field out of a record. An accessor has
one kind and can only give values of that kind.

A name is looked up as it is written first, and without regard to ASCII case only if that finds
nothing; `forAllName()` then still reaches a field called `name`. Several names may differ only in
case, so the second search needs an order to have one answer. It is the order of the names' UTF-8
bytes, in which a schema keeps its entries by construction.
-/

set_option autoImplicit false

namespace Listing

/-! ## Accessors -/

/-- How to get the value of one field out of a record of type `ρ`. -/
inductive Accessor (ρ : Type) where
  | string (get : ρ → Option String)
  | date (get : ρ → Option Date)
  | boolean (get : ρ → Bool)
  | integer (get : ρ → Int64)
  | decimal (get : ρ → Number.Binary64)

namespace Accessor

variable {ρ : Type}

def kind : Accessor ρ → Kind
  | string _ => .string
  | date _ => .date
  | boolean _ => .boolean
  | integer _ => .integer
  | decimal _ => .decimal

def extract (record : ρ) : Accessor ρ → Value
  | string get => .string (get record)
  | date get => .date (get record)
  | boolean get => .boolean (get record)
  | integer get => .integer (get record)
  | decimal get => .decimal (get record)

@[simp] theorem kind_extract (accessor : Accessor ρ) (record : ρ) :
    (accessor.extract record).kind = accessor.kind := by
  cases accessor <;> rfl

def describe (accessor : Accessor ρ) : String :=
  "FieldAccessor::" ++ accessor.kind.name

end Accessor

/-! ## Names -/

/-- The order of names: by their UTF-8 bytes. -/
def compareNames (a b : String) : Ordering :=
  compare a.toByteArray.data.toList b.toByteArray.data.toList

instance : Std.TransCmp compareNames where
  eq_swap := Std.OrientedOrd.eq_swap
  isLE_trans := Std.TransOrd.isLE_trans

instance : Std.LawfulEqCmp compareNames where
  compare_self := Std.ReflOrd.compare_self
  eq_of_compare h := by
    have sameBytes := Std.LawfulEqOrd.eq_of_compare h
    exact String.toByteArray_inj.mp (ByteArray.ext (Array.toList_inj.mp sameBytes))

/-! ## Schemas -/

/-- The fields of a record type, by name. -/
structure Schema (ρ : Type) where
  entries : List (String × Accessor ρ)
  ordered : entries.Pairwise fun a b => compareNames a.1 b.1 = .lt

namespace Schema

variable {ρ : Type}

def empty : Schema ρ :=
  ⟨[], .nil⟩

/-- Puts an entry in its place, or in the place of the entry with the same name. -/
def insertEntry (name : String) (accessor : Accessor ρ) :
    List (String × Accessor ρ) → List (String × Accessor ρ)
  | [] => [(name, accessor)]
  | entry :: rest =>
    match compareNames name entry.1 with
    | .lt => (name, accessor) :: entry :: rest
    | .eq => (name, accessor) :: rest
    | .gt => entry :: insertEntry name accessor rest

theorem mem_insertEntry {name : String} {accessor : Accessor ρ}
    {entries : List (String × Accessor ρ)} {entry : String × Accessor ρ}
    (h : entry ∈ insertEntry name accessor entries) :
    entry = (name, accessor) ∨ entry ∈ entries := by
  induction entries with
  | nil => simpa [insertEntry] using h
  | cons first rest ih =>
    rw [insertEntry] at h
    split at h
    · simpa using h
    · rcases List.mem_cons.mp h with h | h
      · exact .inl h
      · exact .inr (List.mem_cons_of_mem _ h)
    · rcases List.mem_cons.mp h with h | h
      · exact .inr (h ▸ List.mem_cons_self)
      · exact (ih h).imp_right (List.mem_cons_of_mem _)

theorem ordered_insertEntry {name : String} {accessor : Accessor ρ}
    {entries : List (String × Accessor ρ)}
    (ordered : entries.Pairwise fun a b => compareNames a.1 b.1 = .lt) :
    (insertEntry name accessor entries).Pairwise fun a b => compareNames a.1 b.1 = .lt := by
  induction entries with
  | nil => exact List.pairwise_singleton _ _
  | cons first rest ih =>
    obtain ⟨before, restOrdered⟩ := List.pairwise_cons.mp ordered
    rw [insertEntry]
    split
    · next lt =>
      refine List.pairwise_cons.mpr ⟨fun entry mem => ?_, ordered⟩
      rcases List.mem_cons.mp mem with rfl | mem
      · exact lt
      · exact Std.TransCmp.lt_trans lt (before entry mem)
    · next eq =>
      have same : name = first.1 := Std.LawfulEqCmp.eq_of_compare eq
      exact List.pairwise_cons.mpr ⟨fun entry mem => same ▸ before entry mem, restOrdered⟩
    · next gt =>
      refine List.pairwise_cons.mpr ⟨fun entry mem => ?_, ih restOrdered⟩
      rcases mem_insertEntry mem with rfl | mem
      · exact Std.OrientedCmp.gt_iff_lt.mp gt
      · exact before entry mem

/-- Adds a field. If there is one with this name already, the new accessor replaces its own. -/
def insert (schema : Schema ρ) (name : String) (accessor : Accessor ρ) : Schema ρ :=
  ⟨insertEntry name accessor schema.entries, ordered_insertEntry schema.ordered⟩

/-- The field names, in the order of their UTF-8 bytes. -/
def names (schema : Schema ρ) : List String :=
  schema.entries.map (·.1)

def size (schema : Schema ρ) : Nat :=
  schema.entries.length

/-- The accessor of the field with this name, or else of the first one whose name differs from it
only in ASCII case. -/
def get? (schema : Schema ρ) (name : String) : Option (Accessor ρ) :=
  let exact := schema.entries.find? fun entry => entry.1 = name
  let similar := schema.entries.find? fun entry => Text.agree entry.1.toList name.toList
  (exact <|> similar).map (·.2)

/-- The accessor of a field that a request mentions. -/
def resolve (schema : Schema ρ) (name : String) : Except Fault (Accessor ρ) :=
  match schema.get? name with
  | some accessor => .ok accessor
  | none => .error (.unknownField name)

def describe (schema : Schema ρ) : String :=
  let entries := schema.entries.map fun (name, accessor) =>
    Text.quoted name ++ ": " ++ accessor.describe
  "\x7b" ++ ", ".intercalate entries ++ "\x7d"

end Schema

end Listing
