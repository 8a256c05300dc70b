import Listing.Schema
import Mathlib.Data.Finset.Card

/-!
# `Listing/Proofs/Lookup.lean` — which field a name means

A schema is asked for a field by a name that somebody has written, and the answer may be a field of
another name. `Means` says which: the field of exactly this name, whatever others there are, and
only if there is none the first, in the order of names, of those that differ in ASCII case alone.
It looks at nothing but which names there are, so two schemas with the same names agree on what is
meant, and `get?_eq_some_iff` splits every lookup in two: what is meant, and what stands there.

What stands there is decided by registration. Entries are in order and no name has two of them, so
a schema is determined by its members (`ext_mem`), and all that one registration does is said by
`mem_entries_insert`. The rest follows from it, by induction on the registrations.

**`lookup_ofHistory`** says what a schema knows after any sequence of registrations.
-/

set_option autoImplicit false

namespace Listing

open Text

/-! ## Names that are meant -/

/-- Among some names, the one that is meant by a name that somebody has written: this very name, or
else the first of those that agree with it. -/
inductive Means (names : List String) (written : String) : String → Prop where
  | exact (mem : written ∈ names) : Means names written written
  | similar {name : String} (absent : written ∉ names) (mem : name ∈ names)
      (agrees : agree name.toList written.toList = true)
      (first : ∀ other ∈ names, agree other.toList written.toList = true →
        (compareNames name other).isLE) : Means names written name

namespace Means

variable {names others : List String} {written name other : String}

theorem mem (means : Means names written name) : name ∈ names := by
  cases means with
  | exact mem => exact mem
  | similar _ mem _ _ => exact mem

theorem agrees (means : Means names written name) :
    agree name.toList written.toList = true := by
  cases means with
  | exact _ => exact agree_refl _
  | similar _ _ agrees _ => exact agrees

theorem of_same (same : ∀ name, name ∈ names ↔ name ∈ others)
    (means : Means names written name) : Means others written name := by
  cases means with
  | exact mem => exact .exact ((same _).mp mem)
  | similar absent mem agrees first =>
    refine .similar (mt (same _).mpr absent) ((same _).mp mem) agrees ?_
    exact fun other mem => first other ((same _).mpr mem)

/-- It does not matter how often and in which order the names are there. -/
theorem congr (same : ∀ name, name ∈ names ↔ name ∈ others) :
    Means names written name ↔ Means others written name :=
  ⟨of_same same, of_same fun name => (same name).symm⟩

end Means

namespace Schema

variable {ρ : Type} {schema other : Schema ρ} {name written : String}
  {accessor : Accessor ρ} {entry : String × Accessor ρ}

/-! ## Entries -/

theorem mem_names : name ∈ schema.names ↔ ∃ accessor, (name, accessor) ∈ schema.entries := by
  simp [names]

theorem ordered_names (schema : Schema ρ) :
    schema.names.Pairwise fun earlier later => compareNames earlier later = .lt :=
  List.pairwise_map.mpr schema.ordered

theorem nodup_names (schema : Schema ρ) : schema.names.Nodup := by
  refine schema.ordered_names.imp ?_
  rintro name _ before rfl
  cases Std.ReflCmp.compare_self.symm.trans before

/-- No name has two entries. -/
theorem eq_of_mem_entries {found : Accessor ρ} (mem : (name, accessor) ∈ schema.entries)
    (mem' : (name, found) ∈ schema.entries) : accessor = found :=
  congrArg Prod.snd (List.inj_on_of_nodup_map schema.nodup_names mem mem' rfl)

/-- Schemas with the same entries are the same, because there is one order for them. -/
theorem ext_mem (same : ∀ entry, entry ∈ schema.entries ↔ entry ∈ other.entries) :
    schema = other := by
  have perm : schema.entries.Perm other.entries :=
    (List.perm_ext_iff_of_nodup (.of_map _ schema.nodup_names) (.of_map _ other.nodup_names)).mpr
      same
  have equal : schema.entries = other.entries := by
    apply List.Perm.eq_of_pairwise ?_ schema.ordered other.ordered perm
    intro left right _ _ before behind
    cases before.symm.trans (Std.OrientedCmp.gt_of_lt behind)
  cases schema
  cases other
  cases equal
  rfl

/-! ## Finding -/

/-- What stands before an entry has a smaller name, and what stands behind it a larger one. -/
theorem compareNames_of_split {before after : List (String × Accessor ρ)}
    (split : schema.entries = before ++ entry :: after) :
    (∀ earlier ∈ before, compareNames earlier.1 entry.1 = .lt) ∧
      ∀ later ∈ after, compareNames entry.1 later.1 = .lt := by
  have ordered := schema.ordered
  rw [split, List.pairwise_append] at ordered
  obtain ⟨-, behind, across⟩ := ordered
  exact ⟨fun earlier mem => across earlier mem entry List.mem_cons_self,
    (List.pairwise_cons.mp behind).1⟩

/-- A search finds the first entry, in the order of names, that it is looking for. -/
theorem find?_entries_eq_some_iff {p : String → Bool} :
    schema.entries.find? (fun entry => p entry.1) = some entry ↔
      entry ∈ schema.entries ∧ p entry.1 = true ∧
        ∀ other ∈ schema.names, p other = true → (compareNames entry.1 other).isLE := by
  rw [List.find?_eq_some_iff_append]
  constructor
  · rintro ⟨suits, before, after, split, skipped⟩
    refine ⟨split ▸ List.mem_append_right before List.mem_cons_self, suits, ?_⟩
    intro other mem suitsOther
    obtain ⟨accessor, mem⟩ := mem_names.mp mem
    rw [split] at mem
    rcases List.mem_append.mp mem with mem | mem
    · have skips := skipped _ mem
      rw [suitsOther] at skips
      cases skips
    · rcases List.mem_cons.mp mem with same | mem
      · rw [← same]
        exact Std.ReflCmp.isLE_rfl
      · exact Ordering.isLE_of_eq_lt ((compareNames_of_split split).2 _ mem)
  · rintro ⟨mem, suits, first⟩
    obtain ⟨before, after, split⟩ := List.append_of_mem mem
    refine ⟨suits, before, after, split, ?_⟩
    intro earlier isEarlier
    have isName : earlier.1 ∈ schema.names :=
      mem_names.mpr ⟨earlier.2, split ▸ List.mem_append_left _ isEarlier⟩
    cases suitsEarlier : p earlier.1 with
    | false => rfl
    | true =>
      have notLater := first earlier.1 isName suitsEarlier
      have less := (compareNames_of_split split).1 earlier isEarlier
      rw [Std.OrientedCmp.gt_of_lt less] at notLater
      cases notLater

theorem find?_entries_eq_none_iff {p : String → Bool} :
    schema.entries.find? (fun entry => p entry.1) = none ↔
      ∀ name ∈ schema.names, p name = false := by
  simp [names]

theorem get?_of_mem (mem : (written, accessor) ∈ schema.entries) :
    schema.get? written = some accessor := by
  have found :
      schema.entries.find? (fun entry => entry.1 = written) = some (written, accessor) := by
    refine (find?_entries_eq_some_iff (p := fun name => decide (name = written))).mpr
      ⟨mem, decide_eq_true rfl, ?_⟩
    intro other _ same
    rw [of_decide_eq_true same]
    exact Std.ReflCmp.isLE_rfl
  rw [get?, found]
  rfl

theorem get?_of_notMem (absent : written ∉ schema.names) :
    schema.get? written =
      (schema.entries.find? fun entry => agree entry.1.toList written.toList).map (·.2) := by
  have none : schema.entries.find? (fun entry => entry.1 = written) = none := by
    refine (find?_entries_eq_none_iff (p := fun name => decide (name = written))).mpr ?_
    intro name mem
    apply decide_eq_false
    rintro rfl
    exact absent mem
  rw [get?, none]
  rfl

/-- A lookup gives what stands under the name that is meant. -/
theorem get?_eq_some_iff :
    schema.get? written = some accessor ↔
      ∃ name, Means schema.names written name ∧ (name, accessor) ∈ schema.entries := by
  by_cases registered : written ∈ schema.names
  · obtain ⟨found, mem⟩ := mem_names.mp registered
    rw [get?_of_mem mem, Option.some.injEq]
    constructor
    · rintro rfl
      exact ⟨written, .exact registered, mem⟩
    · rintro ⟨name, means, mem'⟩
      cases means with
      | exact _ => exact eq_of_mem_entries mem mem'
      | similar absent _ _ _ => exact absurd registered absent
  · rw [get?_of_notMem registered]
    simp only [Option.map_eq_some_iff, find?_entries_eq_some_iff
      (p := fun name => agree name.toList written.toList)]
    constructor
    · rintro ⟨⟨name, found⟩, ⟨mem, agrees, first⟩, rfl⟩
      exact ⟨name, .similar registered (mem_names.mpr ⟨found, mem⟩) agrees first, mem⟩
    · rintro ⟨name, means, mem⟩
      cases means with
      | exact mem' => exact absurd mem' registered
      | similar _ _ agrees first => exact ⟨(name, accessor), ⟨mem, agrees, first⟩, rfl⟩

theorem get?_eq_none_iff :
    schema.get? written = none ↔
      ∀ name ∈ schema.names, agree name.toList written.toList = false := by
  by_cases registered : written ∈ schema.names
  · obtain ⟨found, mem⟩ := mem_names.mp registered
    rw [get?_of_mem mem]
    constructor
    · intro none
      cases none
    · intro none
      cases (none written registered).symm.trans (agree_refl _)
  · rw [get?_of_notMem registered, Option.map_eq_none_iff]
    exact find?_entries_eq_none_iff (p := fun name => agree name.toList written.toList)

/-! ## Registering -/

theorem mem_insertEntry_self (name : String) (accessor : Accessor ρ)
    (entries : List (String × Accessor ρ)) :
    (name, accessor) ∈ insertEntry name accessor entries := by
  induction entries with
  | nil => exact List.mem_cons_self
  | cons first rest ih =>
    rw [insertEntry]
    split
    · exact List.mem_cons_self
    · exact List.mem_cons_self
    · exact List.mem_cons_of_mem _ ih

theorem mem_insertEntry_of_ne {entries : List (String × Accessor ρ)} (mem : entry ∈ entries)
    (ne : entry.1 ≠ name) : entry ∈ insertEntry name accessor entries := by
  induction entries with
  | nil => cases mem
  | cons first rest ih =>
    rw [insertEntry]
    split
    · exact List.mem_cons_of_mem _ mem
    · next eq =>
      rcases List.mem_cons.mp mem with rfl | mem
      · exact absurd (Std.LawfulEqCmp.eq_of_compare eq).symm ne
      · exact List.mem_cons_of_mem _ mem
    · rcases List.mem_cons.mp mem with rfl | mem
      · exact List.mem_cons_self
      · exact List.mem_cons_of_mem _ (ih mem)

theorem mem_entries_insert_self : (name, accessor) ∈ (schema.insert name accessor).entries :=
  mem_insertEntry_self name accessor schema.entries

/-- A field that is registered takes the place of one of the same name, and the others stay. -/
theorem mem_entries_insert {found : Accessor ρ} :
    (written, found) ∈ (schema.insert name accessor).entries ↔
      (written = name ∧ found = accessor) ∨
        (written ≠ name ∧ (written, found) ∈ schema.entries) := by
  constructor
  · intro mem
    by_cases same : written = name
    · subst same
      exact .inl ⟨rfl, eq_of_mem_entries mem mem_entries_insert_self⟩
    · refine .inr ⟨same, (mem_insertEntry mem).resolve_left ?_⟩
      exact fun equal => same (congrArg Prod.fst equal)
  · rintro (⟨rfl, rfl⟩ | ⟨ne, mem⟩)
    · exact mem_entries_insert_self
    · exact mem_insertEntry_of_ne mem ne

theorem mem_names_insert :
    written ∈ (schema.insert name accessor).names ↔ written ∈ name :: schema.names := by
  rw [List.mem_cons, mem_names, mem_names]
  simp only [mem_entries_insert, exists_or, exists_and_left, exists_eq, and_true]
  by_cases same : written = name
  · simp [same]
  · simp [same]

/-! ## Histories -/

/-- What was registered under a name, in the order of registration. -/
def registrations (history : List (String × Accessor ρ)) (name : String) : List (Accessor ρ) :=
  (history.filter fun entry => entry.1 = name).map (·.2)

/-- The schema that comes of registering fields one after the other. -/
def ofHistory (history : List (String × Accessor ρ)) : Schema ρ :=
  history.foldl (fun schema entry => schema.insert entry.1 entry.2) empty

theorem ofHistory_concat (history : List (String × Accessor ρ)) (name : String)
    (accessor : Accessor ρ) :
    ofHistory (history ++ [(name, accessor)]) = (ofHistory history).insert name accessor :=
  List.foldl_concat _ _ _ _

theorem registrations_concat (history : List (String × Accessor ρ)) (entry : String × Accessor ρ)
    (name : String) :
    registrations (history ++ [entry]) name =
      if entry.1 = name then registrations history name ++ [entry.2]
      else registrations history name := by
  unfold registrations
  rw [List.filter_append, List.map_append]
  split
  · next same => simp [same]
  · next ne => simp [ne]

theorem mem_registrations {history : List (String × Accessor ρ)} :
    accessor ∈ registrations history name ↔ (name, accessor) ∈ history := by
  simp [registrations]

/-- Registrations under different names can change places. -/
theorem registrations_swap {first second : String × Accessor ρ} (ne : first.1 ≠ second.1)
    (before after : List (String × Accessor ρ)) (name : String) :
    registrations (before ++ second :: first :: after) name =
      registrations (before ++ first :: second :: after) name := by
  by_cases same : first.1 = name
  · have other : second.1 ≠ name := same ▸ ne.symm
    simp [registrations, same, other]
  · simp [registrations, same, List.filter_cons]

variable {history others : List (String × Accessor ρ)}

/-- Under each name stands what was registered last. -/
theorem mem_entries_ofHistory :
    (name, accessor) ∈ (ofHistory history).entries ↔
      (registrations history name).getLast? = some accessor := by
  induction history using List.reverseRecOn with
  | nil => simp [ofHistory, empty, registrations]
  | append_singleton history entry ih =>
    rw [ofHistory_concat, mem_entries_insert, ih, registrations_concat]
    by_cases same : entry.1 = name
    · simp [same, eq_comm]
    · simp [same, Ne.symm same]

theorem mem_names_ofHistory : name ∈ (ofHistory history).names ↔ name ∈ history.map Prod.fst := by
  simp only [mem_names, mem_entries_ofHistory, ← Option.isSome_iff_exists, List.getLast?_isSome]
  simp [registrations, List.filter_eq_nil_iff]

/-- The order of registrations matters only among those under the same name. -/
theorem ofHistory_congr (same : ∀ name, registrations others name = registrations history name) :
    ofHistory others = ofHistory history := by
  apply ext_mem
  rintro ⟨name, accessor⟩
  rw [mem_entries_ofHistory, mem_entries_ofHistory, same]

/-- Where no name is registered twice, each registration is the last one under its name. -/
theorem mem_entries_ofHistory_of_nodup (nodup : (history.map Prod.fst).Nodup) :
    entry ∈ (ofHistory history).entries ↔ entry ∈ history := by
  obtain ⟨name, accessor⟩ := entry
  rw [mem_entries_ofHistory]
  constructor
  · intro last
    exact mem_registrations.mp (List.mem_of_getLast? last)
  · intro mem
    obtain ⟨found, last⟩ : ∃ found, (registrations history name).getLast? = some found :=
      Option.isSome_iff_exists.mp
        (List.getLast?_isSome.mpr (List.ne_nil_of_mem (mem_registrations.mpr mem)))
    have mem' := mem_registrations.mp (List.mem_of_getLast? last)
    obtain rfl : found = accessor :=
      congrArg Prod.snd (List.inj_on_of_nodup_map nodup mem' mem rfl)
    exact last

theorem ofHistory_eq_of_perm (nodup : (history.map Prod.fst).Nodup) (perm : others.Perm history) :
    ofHistory others = ofHistory history := by
  apply ext_mem
  intro entry
  rw [mem_entries_ofHistory_of_nodup nodup,
    mem_entries_ofHistory_of_nodup ((perm.map Prod.fst).nodup_iff.mpr nodup), perm.mem_iff]

theorem size_ofHistory : (ofHistory history).size = (history.map Prod.fst).toFinset.card := by
  have sameNames : (ofHistory history).names.toFinset = (history.map Prod.fst).toFinset := by
    ext name
    rw [List.mem_toFinset, List.mem_toFinset, mem_names_ofHistory]
  rw [← sameNames, List.toFinset_card_of_nodup (nodup_names _)]
  exact (List.length_map _).symm

/-- **A schema knows what was registered last, under names in their order.** After any sequence of
registrations a lookup gives what was registered last under the name that is meant, and nothing
exactly if no registered name agrees with the one that was written. The names that are listed are
the registered ones, each once and in order, and the size is their number. None of this depends on
the order of registrations under different names; where no name is registered twice it does not
depend on the order at all. -/
theorem lookup_ofHistory (history : List (String × Accessor ρ)) :
    (∀ written accessor, (ofHistory history).get? written = some accessor ↔
      ∃ name, Means (history.map Prod.fst) written name ∧
        (registrations history name).getLast? = some accessor) ∧
    (∀ written, (ofHistory history).get? written = none ↔
      ∀ name ∈ history.map Prod.fst, agree name.toList written.toList = false) ∧
    ((ofHistory history).names.Pairwise
        (fun earlier later => compareNames earlier later = .lt) ∧
      (∀ name, name ∈ (ofHistory history).names ↔ name ∈ history.map Prod.fst) ∧
      (ofHistory history).size = (history.map Prod.fst).toFinset.card) ∧
    ∀ others : List (String × Accessor ρ),
      ((∀ name, registrations others name = registrations history name) →
        ofHistory others = ofHistory history) ∧
      ((history.map Prod.fst).Nodup → others.Perm history →
        ofHistory others = ofHistory history) := by
  refine ⟨?_, ?_, ⟨ordered_names _, fun name => mem_names_ofHistory, size_ofHistory⟩, ?_⟩
  · intro written accessor
    simp only [get?_eq_some_iff, Means.congr fun name => mem_names_ofHistory,
      mem_entries_ofHistory]
  · intro written
    simp only [get?_eq_none_iff, mem_names_ofHistory]
  · exact fun others => ⟨ofHistory_congr, ofHistory_eq_of_perm⟩

/-- `Due` is registered twice and `due` never: a lookup of the one gives what came last, and of the
other what stands under the first of the names that agree with it. -/
theorem lookup_ofHistory_due :
    let number : Accessor (Bool × Int64) := .integer Prod.snd
    let truth : Accessor (Bool × Int64) := .boolean Prod.fst
    let history := [("Due", number), ("DUE", number), ("Due", truth)]
    let distinct := [("Due", number), ("DUE", truth)]
    Means (history.map Prod.fst) "due" "DUE" ∧
      (ofHistory history).get? "due" = some number ∧
      (ofHistory history).get? "Due" = some truth ∧
      (ofHistory history).get? "dué" = none ∧
      (∀ name, registrations [("Due", number), ("Due", truth), ("DUE", number)] name =
        registrations history name) ∧
      ofHistory [("Due", number), ("Due", truth), ("DUE", number)] = ofHistory history ∧
      (distinct.map Prod.fst).Nodup ∧ distinct.reverse.Perm distinct ∧
      ofHistory distinct.reverse = ofHistory distinct := by
  intro number truth history distinct
  obtain ⟨found, unknown, -, reordered⟩ := lookup_ofHistory history
  have means : Means (history.map Prod.fst) "due" "DUE" :=
    .similar (by decide) (by decide) (by decide) (by decide)
  have sameUnderNames (name : String) :
      registrations [("Due", number), ("Due", truth), ("DUE", number)] name =
        registrations history name :=
    registrations_swap (by decide) [("Due", number)] [] name
  have nodup : (distinct.map Prod.fst).Nodup := by decide
  have perm : distinct.reverse.Perm distinct := List.reverse_perm _
  refine ⟨means, (found _ _).mpr ⟨"DUE", means, rfl⟩, ?_, ?_, sameUnderNames,
    (reordered _).1 sameUnderNames, nodup, perm, ((lookup_ofHistory distinct).2.2.2 _).2 nodup perm⟩
  · exact (found _ _).mpr ⟨"Due", .exact (by decide), rfl⟩
  · exact (unknown _).mpr (by decide)

end Schema

end Listing
