import Listing.Proofs.Clauses

/-!
# `Listing/Proofs/SortKey.lean` — how sort keys are spelled

There are three ways to spell a sort key: the name of a field, alone, with a direction behind a
colon, or with a minus in front of it (`SortKey.SpelledBy`). They do not get in each other's way,
because a name has neither a minus nor a colon in it. So a text spells one key at most, and reading
finds it (`SortKey.parse_eq_ok_iff`).

A key is written with its direction, whatever way it was spelled. It can be read again if its field
is a name at all; and then there is no semicolon in it either, so that it can stand in a sort order
(`SortKey.parseOrder_renderOrder_iff`). What was read from a text is of that kind.

**`parse_spelled`** puts this together.
-/

set_option autoImplicit false

namespace Listing

open Outcome Text

/-! ## Directions -/

theorem Direction.ofKeyword?_eq_some_iff {word : List Char} {direction : Direction} :
    ofKeyword? word = some direction ↔ agree direction.keyword.toList word = true := by
  unfold ofKeyword?
  constructor
  · intro found
    exact List.find?_some (p := fun candidate : Direction => agree candidate.keyword.toList word)
      found
  · intro names
    cases direction with
    | ascending => rw [List.find?_cons, names]
    | descending =>
      have other : agree ascending.keyword.toList word = false := by
        rw [Bool.eq_false_iff]
        intro ascends
        rw [agree_comm] at names
        exact absurd (agree_trans ascends names) (by decide)
      rw [List.find?_cons, other, List.find?_cons, names]

namespace SortKey

/-! ## Keys -/

/-- A text spells a sort key. -/
inductive SpelledBy : SortKey → List Char → Prop where
  | name {field : String} (named : isIdentifier field.toList = true) :
      SpelledBy ⟨field, .ascending⟩ field.toList
  | directed {field : String} {direction : Direction} {word : List Char}
      (named : isIdentifier field.toList = true)
      (names : agree direction.keyword.toList word = true) :
      SpelledBy ⟨field, direction⟩ (field.toList ++ ':' :: word)
  | minus {field : String} (named : isIdentifier field.toList = true) :
      SpelledBy ⟨field, .descending⟩ ('-' :: field.toList)

theorem SpelledBy.named {key : SortKey} {cs : List Char} (spelled : key.SpelledBy cs) :
    isIdentifier key.field.toList = true := by
  cases spelled with
  | name named => exact named
  | directed named names => exact named
  | minus named => exact named

/-- A text that is taken apart into a name and a direction spells the key that has them. -/
theorem SpelledBy.of_splitDirection {cs field : List Char} {direction : Direction}
    (splits : splitDirection cs = .ok (field, direction)) (named : isIdentifier field = true) :
    SpelledBy ⟨String.ofList field, direction⟩ cs := by
  have named' : isIdentifier (String.ofList field).toList = true := by
    rwa [String.toList_ofList]
  unfold splitDirection at splits
  split at splits
  · cases splits
    simpa only [String.toList_ofList] using SpelledBy.minus named'
  · split at splits
    · cases splits
      simpa only [String.toList_ofList] using SpelledBy.name named'
    · next before word cut =>
      split at splits
      · next found names =>
        cases splits
        rw [(cut?_eq_some_iff.mp cut).1]
        have names := Direction.ofKeyword?_eq_some_iff.mp names
        simpa only [String.toList_ofList] using SpelledBy.directed named' names
      · cases splits

/-- The minus and the colon are found where they stand, as a name has neither. -/
theorem SpelledBy.splitDirection_eq {key : SortKey} {cs : List Char} (spelled : key.SpelledBy cs) :
    splitDirection cs = .ok (key.field.toList, key.direction) := by
  have uncut : ':' ∉ key.field.toList := notMem_of_isIdentifier spelled.named (by decide)
  have unmarked : '-' ∉ key.field.toList := notMem_of_isIdentifier spelled.named (by decide)
  unfold splitDirection
  cases spelled with
  | name named =>
    split
    · next minus => exact absurd (minus ▸ List.mem_cons_self) unmarked
    · rw [cut?_eq_none_iff.mpr uncut]
  | @directed field direction word named names =>
    split
    · next minus =>
      obtain ⟨first, rest, front, -⟩ := exists_cons_of_isIdentifier named
      rw [front] at minus unmarked
      exact absurd ((List.cons.inj minus).1 ▸ List.mem_cons_self) unmarked
    · simp only [cut?_eq_some_iff.mpr ⟨rfl, uncut⟩, Direction.ofKeyword?_eq_some_iff.mpr names]
  | minus named => rfl

/-- A text is read as the key that what is visible of it spells. -/
theorem parse_eq_ok_iff {text : String} {key : SortKey} :
    parse text = .ok key ↔ key.SpelledBy (trim text.toList) := by
  unfold parse
  rw [mapError_eq_ok_iff]
  unfold read
  constructor
  · intro reads
    split at reads
    · cases reads
    · split at reads
      · cases reads
      · next field direction splits =>
        split at reads
        · next named =>
          cases reads
          exact .of_splitDirection splits named
        · cases reads
  · intro spelled
    have splits := spelled.splitDirection_eq
    split
    · next blank =>
      rw [blank] at splits
      have empty := spelled.named
      rw [← (Prod.mk.inj (Except.ok.inj splits)).1] at empty
      cases empty
    · simp only [splits, spelled.named, if_true, String.ofList_toList]

/-- Where no key is spelled, the text is a bad sort key, whatever is wrong with it. -/
theorem exists_parse_eq_error_iff {text : String} :
    (∃ cause, parse text = .error (.badSortKey cause)) ↔
      ¬ ∃ key : SortKey, key.SpelledBy (trim text.toList) := by
  simp only [← parse_eq_ok_iff]
  unfold parse
  cases read text with
  | ok key => simp [Except.mapError]
  | error cause => simp [Except.mapError]

/-! ## Written keys -/

theorem toList_render (key : SortKey) :
    key.render.toList = key.field.toList ++ ':' :: key.direction.keyword.toList := by
  unfold render
  rw [String.toList_append, String.toList_append, List.append_assoc]
  rfl

theorem trim_render {key : SortKey} (named : isIdentifier key.field.toList = true) :
    trim key.render.toList = key.render.toList := by
  obtain ⟨first, rest, front, isChar⟩ := exists_cons_of_isIdentifier named
  have back : key.render.toList.getLast? = some 'c' := by
    rw [toList_render, List.getLast?_append]
    cases key.direction <;> rfl
  refine trim_eq_self (by rw [toList_render, front]; rfl) back
    (isBlank_of_isIdentifierChar isChar) (by decide)

theorem separator_notMem_render {key : SortKey} (named : isIdentifier key.field.toList = true) :
    ';' ∉ key.render.toList := by
  have fields : ';' ∉ key.field.toList := notMem_of_isIdentifier named (by decide)
  have directions : ';' ∉ key.direction.keyword.toList := by
    cases key.direction <;> decide
  rw [toList_render]
  simp [fields, directions]

theorem visible_render (key : SortKey) : ¬ Blank key.render.toList := by
  intro blank
  have colon : isBlank ':' = true := blank ':' (by rw [toList_render]; simp)
  cases colon

/-- A key can be written and read again exactly if its field is a name. -/
theorem parse_render_iff {key : SortKey} :
    parse key.render = .ok key ↔ isIdentifier key.field.toList = true := by
  rw [parse_eq_ok_iff]
  constructor
  · intro spelled
    exact spelled.named
  · intro named
    rw [trim_render named, toList_render]
    exact .directed named (agree_refl _)

/-! ## Written orders -/

/-- The sort order with these keys. -/
def renderOrder (keys : List SortKey) : String :=
  ";".intercalate (keys.map render)

/-- Visible texts with semicolons between them, but not in them, are the clauses of an order. -/
theorem clauses_intercalate {texts : List String} (unseparated : ∀ text ∈ texts, ';' ∉ text.toList)
    (visible : ∀ text ∈ texts, ¬ Blank text.toList) :
    clauses (";".intercalate texts) = texts := by
  induction texts with
  | nil => rfl
  | cons text rest ih =>
    obtain ⟨absent, unseparated⟩ := List.forall_mem_cons.mp unseparated
    obtain ⟨seen, visible⟩ := List.forall_mem_cons.mp visible
    have first := clauses_of_notMem absent seen
    cases rest with
    | nil => rw [String.intercalate_singleton, first]
    | cons next rest =>
      rw [String.intercalate_cons_cons, clauses_separated, first, ih unseparated visible,
        List.singleton_append]

theorem named_of_parseOrder {order : String} {keys : List SortKey}
    (reads : parseOrder order = .ok keys) {key : SortKey} (mem : key ∈ keys) :
    isIdentifier key.field.toList = true := by
  obtain ⟨text, -, parses⟩ := exists_mem_of_mapM reads mem
  exact (parse_eq_ok_iff.mp parses).named

/-- Keys can be written one behind the other and read again exactly if their fields are names. -/
theorem parseOrder_renderOrder_iff {keys : List SortKey} :
    parseOrder (renderOrder keys) = .ok keys ↔
      ∀ key ∈ keys, isIdentifier key.field.toList = true := by
  constructor
  · intro reads key mem
    exact named_of_parseOrder reads mem
  · intro named
    have cut : clauses (renderOrder keys) = keys.map render := by
      refine clauses_intercalate ?_ ?_
      · exact List.forall_mem_map.mpr fun key mem => separator_notMem_render (named key mem)
      · exact List.forall_mem_map.mpr fun key _ => visible_render key
    unfold parseOrder
    rw [cut, mapM_eq_ok_iff, List.forall₂_map_left_iff, List.forall₂_same]
    intro key mem
    exact parse_render_iff.mpr (named key mem)

/-- **Sort keys are read as they are spelled, and as they are written.** Blanks around it aside, a
text is read as a key exactly if it spells the key, and it is a bad sort key exactly if it spells
none. A key is written as a text that is read as the same key, exactly if its field is a name. What
was read from any sort order can be written as an order, and is read from it with all keys in their
places. -/
theorem parse_spelled :
    (∀ (text : String) (key : SortKey),
      parse text = .ok key ↔ key.SpelledBy (trim text.toList)) ∧
    (∀ text : String, (∃ cause, parse text = .error (.badSortKey cause)) ↔
      ¬ ∃ key : SortKey, key.SpelledBy (trim text.toList)) ∧
    (∀ key : SortKey, parse key.render = .ok key ↔ isIdentifier key.field.toList = true) ∧
    ∀ (order : String) (keys : List SortKey),
      parseOrder order = .ok keys → parseOrder (renderOrder keys) = .ok keys := by
  refine ⟨fun text key => parse_eq_ok_iff, fun text => exists_parse_eq_error_iff,
    fun key => parse_render_iff, ?_⟩
  intro order keys reads
  exact parseOrder_renderOrder_iff.mpr fun key mem => named_of_parseOrder reads mem

/-- Both spellings of a direction can be read again from the written order, which has but one. They
do not mix, and a word does for a direction only if nothing comes behind it. -/
theorem parse_spelled_odd_cases :
    let keys : List SortKey := [⟨"name", .descending⟩, ⟨"age", .ascending⟩]
    (parseOrder "\u3000-name ;; age:Asc;" = .ok keys ∧
      renderOrder keys = "name:desc;age:asc" ∧ parseOrder (renderOrder keys) = .ok keys) ∧
    (¬ ∃ key : SortKey, key.SpelledBy (trim "-name:desc".toList)) ∧
    ¬ ∃ key : SortKey, key.SpelledBy (trim "name:asc:desc".toList) := by
  intro keys
  obtain ⟨-, refused, -, again⟩ := parse_spelled
  have reads : parseOrder "\u3000-name ;; age:Asc;" = .ok keys := by rfl
  exact ⟨⟨reads, by rfl, again _ keys reads⟩, (refused "-name:desc").mp ⟨_, by rfl⟩,
    (refused "name:asc:desc").mp ⟨_, by rfl⟩⟩

end SortKey

end Listing
