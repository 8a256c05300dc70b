import Listing.Settings
import Listing.Proofs.Integer
import Listing.Proofs.Json.Slots
import Listing.Proofs.Json.Structure
import Listing.Proofs.Selection
import Listing.Proofs.Window
import Listing.Service

/-!
# `Listing/Proofs/Settings.lean` — what a text says about settings

A host may choose each of the settings or leave it (`Settings.Choice`), and a choice can be put down
in many ways: in any text of an object, with the members in any order and others between them, or in
an array. None of this should matter. It does not matter because each step forgets something of the
text and the next one sees only what is left:

* Reading forgets the layout. A text stands for one JSON value (`Json.Writes`).
* Looking for fields forgets the order, the other members, and whether there were members or items.
  What is left are the slots (`Json.slots?_object_of_perm`, `Json.slots?_array`).
* Filling the slots forgets which settings were chosen. `ofJson?_eq_some_iff` says how, and so also
  when there are no settings: if there are no slots, or if one of them holds a value that no setting
  has (`Json.OutOfRange`).

Whether the settings can be used is asked last, so it is asked about what a host gets, the defaults
among it. **`layout_independent`** is all of this.
-/

set_option autoImplicit false

namespace Listing

open Json Number

/-! ## Values -/

/-- The JSON value of a word: its digits, without zeros in front. -/
def Json.ofWord (word : UInt64) : Json :=
  .number (Nat.toDigits 10 word.toNat)

/-- The JSON value of a reading: its name, in small letters. -/
def Json.ofReading (reading : BooleanReading) : Json :=
  .string (some reading.name)

/-- No setting has such a value: `null`, a number that is no integer or does not fit a word, and a
text that is not the name of a reading, letter for letter. -/
inductive Json.OutOfRange : Json → Prop where
  | null : OutOfRange .null
  | number {literal : List Char} (beyond : ∀ n, Numeral literal n → n < 0 ∨ 2 ^ 64 ≤ n) :
      OutOfRange (.number literal)
  | text {text : String} (noName : ∀ reading : BooleanReading, text ≠ reading.name) :
      OutOfRange (.string (some text))

theorem Json.uint64?_ofWord (word : UInt64) : (ofWord word).uint64? = some word := by
  have digits := digitsOf_toDigits word.toNat
  have reads : readInteger? (Nat.toDigits 10 word.toNat) = some (word.toNat : Int) := by
    refine readInteger?_eq_some_iff.mpr ?_
    have positive : 0 < (Nat.toDigits 10 word.toNat).length := Nat.length_toDigits_pos
    obtain ⟨width, more⟩ := Nat.exists_eq_add_one.mpr positive
    rw [more] at digits
    exact .unsigned digits
  have unsigned : (Nat.toDigits 10 word.toNat).head? ≠ some '-' := by
    intro sign
    cases digits.isDigit '-' (List.mem_of_head? sign)
  have integer : (ofWord word).integer? = some (word.toNat : Int) := by
    simp [ofWord, integer?, reads, unsigned]
  rw [uint64?, integer, Option.bind_some, toUInt64?_eq_some_iff]

theorem Json.readingOfJson?_ofReading (reading : BooleanReading) :
    Settings.readingOfJson? (ofReading reading) = some reading := by
  cases reading <;> decide

theorem Json.OutOfRange.uint64?_eq_none {value : Json} (outOfRange : value.OutOfRange) :
    value.uint64? = none := by
  cases outOfRange with
  | null | text => rfl
  | number beyond =>
    refine Option.eq_none_iff_forall_ne_some.mpr fun word reads => ?_
    obtain ⟨n, integer, fits⟩ := Option.bind_eq_some_iff.mp reads
    have numeral := readInteger?_eq_some_iff.mp (Option.filter_eq_some_iff.mp integer).1
    have value := toUInt64?_eq_some_iff.mp fits
    have upper := word.toNat_lt
    obtain below | above := beyond n numeral <;> omega

theorem Json.OutOfRange.readingOfJson?_eq_none {value : Json} (outOfRange : value.OutOfRange) :
    Settings.readingOfJson? value = none := by
  cases outOfRange with
  | null | number => rfl
  | text noName =>
    refine List.find?_eq_none.mpr fun reading _ => ?_
    simpa using (noName reading).symm

namespace Settings

/-! ## Choices -/

/-- A default page size that is a size, and not above the maximum. -/
def Usable (settings : Settings) : Prop :=
  1 ≤ settings.defaultPageSize.toNat ∧
    settings.defaultPageSize.toNat ≤ settings.maxPageSize.toNat

instance (settings : Settings) : Decidable settings.Usable :=
  inferInstanceAs (Decidable (_ ∧ _))

/-- What a text may say about settings: each of them, or nothing about it. -/
structure Choice where
  defaultPageSize : Option UInt64
  maxPageSize : Option UInt64
  booleanReading : Option BooleanReading
  parallelThreshold : Option UInt64

namespace Choice

/-- What was not chosen is as by default. -/
def settings (choice : Choice) : Settings where
  defaultPageSize := choice.defaultPageSize.getD default.defaultPageSize
  maxPageSize := choice.maxPageSize.getD default.maxPageSize
  booleanReading := choice.booleanReading.getD default.booleanReading
  parallelThreshold := choice.parallelThreshold.getD default.parallelThreshold

def slots (choice : Choice) : List (Option Json) :=
  [choice.defaultPageSize.map ofWord, choice.maxPageSize.map ofWord,
    choice.booleanReading.map ofReading, choice.parallelThreshold.map ofWord]

/-- The members of an object that makes a choice, in the order of the settings. -/
def members (choice : Choice) : List (Option String × Json) :=
  named names choice.slots

end Choice

/-! ## From a value to settings -/

variable {json other : Json} {settings : Settings} {text : String}

/-- A JSON value gives settings through a slot for each. -/
theorem ofJson?_eq_some_iff :
    ofJson? json = some settings ↔
      ∃ defaultPageSize maxPageSize booleanReading parallelThreshold,
        json.slots? names =
            some [defaultPageSize, maxPageSize, booleanReading, parallelThreshold] ∧
          fill? uint64? default.defaultPageSize defaultPageSize = some settings.defaultPageSize ∧
          fill? uint64? default.maxPageSize maxPageSize = some settings.maxPageSize ∧
          fill? readingOfJson? default.booleanReading booleanReading =
            some settings.booleanReading ∧
          fill? uint64? default.parallelThreshold parallelThreshold =
            some settings.parallelThreshold := by
  refine ⟨fun shape => ?_, fun filled => ?_⟩
  · unfold ofJson? at shape
    split at shape
    · next defaultPageSize maxPageSize booleanReading parallelThreshold gives =>
      obtain ⟨_, first, shape⟩ := Option.bind_eq_some_iff.mp shape
      obtain ⟨_, second, shape⟩ := Option.bind_eq_some_iff.mp shape
      obtain ⟨_, third, shape⟩ := Option.bind_eq_some_iff.mp shape
      obtain ⟨_, fourth, shape⟩ := Option.bind_eq_some_iff.mp shape
      cases shape
      exact ⟨_, _, _, _, gives, first, second, third, fourth⟩
    · cases shape
  · obtain ⟨_, _, _, _, gives, first, second, third, fourth⟩ := filled
    simp [ofJson?, gives, first, second, third, fourth]

theorem ofJson?_eq_none (ungiven : json.slots? names = none) : ofJson? json = none := by
  rw [ofJson?, ungiven]

/-- One value that no setting has makes all of it unusable. -/
theorem ofJson?_eq_none_of_outOfRange {value : Json} (outOfRange : value.OutOfRange)
    (given : ∀ slots, json.slots? names = some slots → some value ∈ slots) :
    ofJson? json = none := by
  refine Option.eq_none_iff_forall_ne_some.mpr fun settings shape => ?_
  obtain ⟨_, _, _, _, gives, first, second, third, fourth⟩ := ofJson?_eq_some_iff.mp shape
  have mem := given _ gives
  simp only [List.mem_cons, List.not_mem_nil, or_false] at mem
  obtain rfl | rfl | rfl | rfl := mem
  · exact absurd first (by simp [fill?, outOfRange.uint64?_eq_none])
  · exact absurd second (by simp [fill?, outOfRange.uint64?_eq_none])
  · exact absurd third (by simp [fill?, outOfRange.readingOfJson?_eq_none])
  · exact absurd fourth (by simp [fill?, outOfRange.uint64?_eq_none])

theorem ofJson?_congr (same : json.slots? names = other.slots? names) :
    ofJson? json = ofJson? other := by
  rw [ofJson?, ofJson?, same]

theorem fill?_map {α : Type} {write : α → Json} {read? : Json → Option α}
    (reads : ∀ a, read? (write a) = some a) (default : α) (chosen : Option α) :
    fill? read? default (chosen.map write) = some (chosen.getD default) := by
  cases chosen with
  | none => rfl
  | some a => exact reads a

theorem nodup_names : names.Nodup := by
  decide

theorem ofJson?_choice (choice : Choice) :
    ofJson? (.object choice.members) = some choice.settings :=
  ofJson?_eq_some_iff.mpr ⟨_, _, _, _, slots?_named nodup_names rfl, fill?_map uint64?_ofWord _ _,
    fill?_map uint64?_ofWord _ _, fill?_map readingOfJson?_ofReading _ _,
    fill?_map uint64?_ofWord _ _⟩

/-! ## Texts -/

/-- A text is refused as settings. -/
def Refused (text : String) : Prop :=
  ∃ cause, read text = .error (.badSettings cause)

theorem read_of_writes (written : Writes text json) (shape : ofJson? json = some settings) :
    read text = settings.check >>= fun _ => .ok settings := by
  rw [read, read?_eq_some_iff.mpr written, Option.bind_some, shape]
  rfl

theorem refused_of_writes (written : Writes text json) (shape : ofJson? json = none) :
    Refused text := by
  refine ⟨.notSettings, ?_⟩
  rw [read, read?_eq_some_iff.mpr written, Option.bind_some, shape]

/-- Settings that cannot be used are refused with a cause of their own. -/
theorem exists_check_eq_error (unusable : ¬ settings.Usable) :
    ∃ cause, settings.check = .error (.badSettings cause) := by
  have failed := mt check_eq_ok_iff.mp unusable
  unfold check at failed ⊢
  split
  · exact ⟨_, rfl⟩
  · split
    · exact ⟨_, rfl⟩
    · simp_all

/-- **Settings do not depend on the layout of their text, and can be used.** For every choice of
settings, a text of an object that makes this choice, with its members in any order and ignored
members anywhere, is read as the chosen settings if these can be used, and is refused otherwise. A
text of an array says what a text of the object says in which the items stand under the names of the
first settings. A text is refused if it gives a setting twice, gives it a value that no setting has,
or is of an array that is too long. Settings that were read from a text pass the check, and a
service with them reads operands as they say. -/
theorem layout_independent (text : String) :
    (∀ (choice : Choice) (members others : List (Option String × Json)),
      Writes text (.object members) → members.Perm (choice.members ++ others) →
        Ignored names others →
          (choice.settings.Usable → read text = .ok choice.settings) ∧
            (¬ choice.settings.Usable → Refused text)) ∧
    (∀ (items : List Json) (members others : List (Option String × Json)) (objectText : String),
      items.length ≤ 4 → Writes text (.array items) → Writes objectText (.object members) →
        members.Perm ((names.map some).zip items ++ others) → Ignored names others →
          read text = read objectText) ∧
    (∀ (members : List (Option String × Json)) (name : String), name ∈ names →
      Writes text (.object members) →
        (∀ value again, [(some name, value), (some name, again)].Sublist members → Refused text) ∧
          ∀ value, (some name, value) ∈ members → value.OutOfRange → Refused text) ∧
    (∀ items : List Json, Writes text (.array items) →
      (4 < items.length → Refused text) ∧
        ∀ value ∈ items, value.OutOfRange → Refused text) ∧
    ∀ settings, read text = .ok settings →
      settings.check = .ok () ∧
        ∀ (ρ : Type) (service : Service ρ), service.settings = settings →
          ∀ (records : List ρ) (conditions : List Condition),
            service.select records conditions =
              service.schema.bindConditions conditions >>= fun bound =>
                keep (fun record => matchesAll settings.booleanReading record bound) records := by
  refine ⟨?_, ?_, ?_, ?_, ?_⟩
  · intro choice members others written same ignored
    have shape : ofJson? (.object members) = some choice.settings := by
      rw [ofJson?_congr (slots?_object_of_perm same ignored), ofJson?_choice]
    refine ⟨fun usable => ?_, fun unusable => ?_⟩
    · rw [read_of_writes written shape, check_eq_ok_iff.mpr usable]
      rfl
    · obtain ⟨cause, fails⟩ := exists_check_eq_error unusable
      refine ⟨cause, ?_⟩
      rw [read_of_writes written shape, fails]
      rfl
  · intro items members others objectText few written writtenObject same ignored
    have sameShape : ofJson? (.array items) = ofJson? (.object members) := by
      refine ofJson?_congr ?_
      rw [slots?_array nodup_names few, slots?_object_of_perm same ignored]
    rw [read, read, read?_eq_some_iff.mpr written, read?_eq_some_iff.mpr writtenObject,
      Option.bind_some, Option.bind_some, sameShape]
  · intro members name setting written
    refine ⟨fun value again twice => ?_, fun value mem outOfRange => ?_⟩
    · exact refused_of_writes written
        (ofJson?_eq_none (slots?_eq_none_of_repeated setting twice))
    · exact refused_of_writes written (ofJson?_eq_none_of_outOfRange outOfRange
        fun slots gives => mem_of_slots?_object gives setting mem)
  · intro items written
    refine ⟨fun long => ?_, fun value mem outOfRange => ?_⟩
    · exact refused_of_writes written (ofJson?_eq_none (if_neg (Nat.not_le.mpr long)))
    · exact refused_of_writes written (ofJson?_eq_none_of_outOfRange outOfRange
        fun slots gives => mem_of_slots?_array gives mem)
  · intro settings reads
    refine ⟨check_of_read reads, ?_⟩
    intro ρ service same records conditions
    rw [Service.select_eq, same]

/-- A choice in another order, with a note among it, a letter of a name escaped and blanks around;
the same as an array; a maximum below the default size; a setting given twice, alike; a number that
is one too large; and arrays with `null` or with one item too many. -/
theorem layout_independent_odd_texts :
    let text := "\x7b\t\"\\u006daxPageSize\" : 600,\"note\":[null],\n\"defaultPageSize\":7\x7d "
    let settings : Settings := { defaultPageSize := 7, maxPageSize := 600 }
    read text = .ok settings ∧ settings.check = .ok () ∧ read "[7 ,600]" = read text ∧
      Refused "\x7b\"defaultPageSize\":501\x7d" ∧
      Refused "\x7b\"maxPageSize\":9,\"note\":0,\"maxPageSize\":9\x7d" ∧
      Refused "\x7b\"parallelThreshold\":18446744073709551616\x7d" ∧
      Refused "[7,600,null]" ∧ Refused "[7,600,\"strict\",9,9]" := by
  intro text settings
  let choice : Choice := ⟨some 7, some 600, none, none⟩
  let note : Option String × Json := (some "note", .array [.null])
  let size : Option String × Json := (some "defaultPageSize", ofWord 7)
  let maximum : Option String × Json := (some "maxPageSize", ofWord 600)
  have ignored : Ignored names [note] := by
    intro other mem
    cases List.mem_singleton.mp mem
    exact ⟨"note", by decide, rfl⟩
  have written : Writes text (.object ([maximum, note] ++ [size])) := by
    unfold text
    exact read?_eq_some_iff.mp (by with_unfolding_all rfl)
  have tooLarge : (Json.number "18446744073709551616".toList).OutOfRange := by
    refine .number fun n numeral => .inr ?_
    have value : readInteger? "18446744073709551616".toList = some (2 ^ 64) := by decide
    cases (readInteger?_eq_some_iff.mpr numeral).symm.trans value
    decide
  have reads : read text = .ok settings :=
    ((layout_independent text).1 choice _ [note] written List.perm_append_comm ignored).1
      (by decide)
  refine ⟨reads, ((layout_independent text).2.2.2.2 settings reads).1, ?_, ?_, ?_, ?_, ?_, ?_⟩
  · exact (layout_independent _).2.1 [ofWord 7, ofWord 600] _ [note] text (by decide)
      (read?_eq_some_iff.mp (by with_unfolding_all rfl)) written List.perm_append_comm ignored
  · exact ((layout_independent _).1 ⟨some 501, none, none, none⟩ _ []
      (read?_eq_some_iff.mp (by with_unfolding_all rfl)) (List.Perm.refl _)
      (List.forall_mem_nil _)).2 (by decide)
  · have written : Writes "\x7b\"maxPageSize\":9,\"note\":0,\"maxPageSize\":9\x7d"
        (.object [(some "maxPageSize", ofWord 9), (some "note", ofWord 0),
          (some "maxPageSize", ofWord 9)]) := read?_eq_some_iff.mp (by with_unfolding_all rfl)
    exact ((layout_independent _).2.2.1 _ "maxPageSize" (by decide) written).1 (ofWord 9)
      (ofWord 9) (by simp)
  · have written : Writes "\x7b\"parallelThreshold\":18446744073709551616\x7d"
        (.object [(some "parallelThreshold", .number "18446744073709551616".toList)]) :=
      read?_eq_some_iff.mp (by with_unfolding_all rfl)
    exact ((layout_independent _).2.2.1 _ "parallelThreshold" (by decide) written).2 _
      List.mem_cons_self tooLarge
  · have written : Writes "[7,600,null]" (.array [ofWord 7, ofWord 600, .null]) :=
      read?_eq_some_iff.mp (by with_unfolding_all rfl)
    exact ((layout_independent _).2.2.2.1 _ written).2 .null (by simp) .null
  · have written : Writes "[7,600,\"strict\",9,9]"
        (.array [ofWord 7, ofWord 600, ofReading .strict, ofWord 9, ofWord 9]) :=
      read?_eq_some_iff.mp (by with_unfolding_all rfl)
    exact ((layout_independent _).2.2.2.1 _ written).1 (by decide)

end Settings

end Listing
