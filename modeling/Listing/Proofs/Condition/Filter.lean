import Listing.Proofs.Condition.RoundTrip

/-!
# `Listing/Proofs/Condition/Filter.lean` — which filters survive being written

A filter is a list of conditions with semicolons between them. It has no escapes either, and it
trims its clauses, so there are two more ways to lose something when conditions are written one
behind the other: an operand with a semicolon ends its clause too early, and a clause could lose
blanks at its ends.

The second never happens. A written condition begins with a letter, a digit or an underscore and
ends with a bracket, so trimming leaves it alone, whatever blanks its operands have
(`IsClause.of_render`). The first cannot happen to a condition that was read from a filter, since
its own text was a clause (`FaithfulClause.of_parseFilter`).

**`parseFilter_roundTrip`** puts both together: what was read from a filter can be written and
read again and again, and only the texts of the conditions change, once, to their written forms.
-/

set_option autoImplicit false

namespace Listing.Condition

open Text

/-- The filter that asks for all of these conditions. -/
def renderFilter (conditions : List Condition) : String :=
  ";".intercalate (conditions.map rendered)

/-! ## Clauses -/

/-- A text that can stand between semicolons and is not changed there. -/
structure IsClause (text : String) : Prop where
  nonempty : text.toList ≠ []
  unseparated : ';' ∉ text.toList
  trimmed : trim text.toList = text.toList

/-- Clauses with semicolons between them are cut into the same clauses. No clauses at all are
written as a blank one, which does not count. -/
theorem clauses_intercalate {texts : List String} (all : ∀ text ∈ texts, IsClause text) :
    clauses (";".intercalate texts) = texts := by
  unfold clauses
  rw [String.toList_intercalate]
  show (((split ';' (join ';' (texts.map String.toList))).map trim).filter (· ≠ [])).map
    String.ofList = texts
  by_cases none : texts = []
  · -- The one piece of the empty text is blank.
    subst none
    rfl
  have cut : split ';' (join ';' (texts.map String.toList)) = texts.map String.toList := by
    refine split_join (fun empty => none (List.map_eq_nil_iff.mp empty)) ?_
    intro piece mem
    obtain ⟨text, isText, rfl⟩ := List.mem_map.mp mem
    exact (all text isText).unseparated
  have trimmed : (texts.map String.toList).map trim = texts.map String.toList := by
    rw [List.map_map]
    exact List.map_congr_left fun text isText => (all text isText).trimmed
  have kept : (texts.map String.toList).filter (· ≠ []) = texts.map String.toList := by
    rw [List.filter_eq_self]
    intro piece mem
    obtain ⟨text, isText, rfl⟩ := List.mem_map.mp mem
    exact decide_eq_true (all text isText).nonempty
  rw [cut, trimmed, kept, List.map_map]
  simp only [Function.comp_def, String.ofList_toList, List.map_id']

theorem separator_notMem_of_mem_clauses {filter text : String} (mem : text ∈ clauses filter) :
    ';' ∉ text.toList := by
  unfold clauses at mem
  obtain ⟨clause, kept, rfl⟩ := List.mem_map.mp mem
  obtain ⟨piece, isPiece, rfl⟩ := List.mem_map.mp (List.mem_filter.mp kept).1
  rw [String.toList_ofList]
  exact fun inside => separator_notMem_of_mem_split isPiece (mem_of_mem_trim inside)

theorem parseFilter_eq_ok_iff {filter : String} {conditions : List Condition} :
    parseFilter filter = .ok conditions ↔
      List.Forall₂ (fun text condition => parse text = .ok condition) (clauses filter)
        conditions :=
  Outcome.mapM_eq_ok_iff

/-! ## Written conditions as clauses -/

/-- Parts of a condition that are written as they will be read, also within a filter. -/
structure FaithfulClause (quantifier : Quantifier) (field : String) (operands : List String) :
    Prop extends Faithful quantifier field operands where
  unseparated : ∀ operand ∈ operands, ';' ∉ operand.toList

theorem toList_render (quantifier : Quantifier) (field : String) (operator : Operator)
    (operands : List String) :
    (render quantifier field operator operands).toList =
      quantifier.keyword.toList ++ (field.toList ++ ("().".toList ++
        (operator.keyword.toList ++ '(' :: (join ',' (operands.map String.toList) ++ [')'])))) := by
  unfold render
  simp [fieldMarker, join, String.toList_intercalate]

theorem separator_notMem_render {quantifier : Quantifier} {field : String}
    {operands : List String} (faithful : FaithfulClause quantifier field operands)
    (operator : Operator) : ';' ∉ (render quantifier field operator operands).toList := by
  have quantifiers : ';' ∉ quantifier.keyword.toList := by
    cases quantifier <;> decide
  have operators : ∀ operator : Operator, ';' ∉ operator.keyword.toList := by decide
  have fields : ';' ∉ field.toList := notMem_of_isIdentifier faithful.named (by decide)
  have insides : ';' ∉ join ',' (operands.map String.toList) := by
    intro mem
    rcases mem_join mem with eq | ⟨piece, isPiece, inside⟩
    · revert eq
      decide
    · obtain ⟨operand, isOperand, rfl⟩ := List.mem_map.mp isPiece
      exact faithful.unseparated operand isOperand inside
  rw [toList_render]
  simp [quantifiers, operators, fields, insides]

/-- A written condition begins with an identifier character: the first one of the quantifier or, if
there is none, of the field. -/
theorem exists_cons_render (quantifier : Quantifier) {field : String}
    (named : isIdentifier field.toList = true) (operator : Operator) (operands : List String) :
    ∃ first rest, (render quantifier field operator operands).toList = first :: rest ∧
      isIdentifierChar first = true := by
  rw [toList_render]
  cases quantifier with
  | forAll => exact ⟨'f', _, rfl, by decide⟩
  | thereExists => exact ⟨'t', _, rfl, by decide⟩
  | plain =>
    obtain ⟨first, rest, eq, isChar⟩ := exists_cons_of_isIdentifier named
    rw [eq]
    exact ⟨first, _, rfl, isChar⟩

theorem getLast?_render (quantifier : Quantifier) (field : String) (operator : Operator)
    (operands : List String) :
    (render quantifier field operator operands).toList.getLast? = some ')' := by
  unfold render
  rw [String.toList_append]
  exact List.getLast?_concat

theorem IsClause.of_render {quantifier : Quantifier} {field : String} {operands : List String}
    (faithful : FaithfulClause quantifier field operands) (operator : Operator) :
    IsClause (render quantifier field operator operands) := by
  obtain ⟨first, rest, front, isChar⟩ :=
    exists_cons_render quantifier faithful.named operator operands
  refine ⟨?_, separator_notMem_render faithful operator, ?_⟩
  · rw [front]
    exact List.cons_ne_nil first rest
  · exact trim_eq_self front (getLast?_render quantifier field operator operands)
      (isBlank_of_isIdentifierChar isChar) (by decide)

/-! ## The round trip -/

/-- A condition of a filter has parts that can be written in a filter: its own text was a clause,
and operands have only characters of that text. -/
theorem FaithfulClause.of_parseFilter {filter : String} {conditions : List Condition}
    {condition : Condition} (h : parseFilter filter = .ok conditions)
    (mem : condition ∈ conditions) :
    FaithfulClause condition.quantifier condition.field condition.operands := by
  obtain ⟨text, isText, parsed⟩ := Outcome.exists_mem_of_mapM h mem
  obtain ⟨field, word, inside, parts, -, -, -, lists, -⟩ := parse_eq_ok_iff.mp parsed
  refine ⟨Faithful.of_parse parsed, ?_⟩
  intro operand isOperand within
  apply separator_notMem_of_mem_clauses isText
  rw [parts.toList_eq]
  simp [lists.mem_of_mem isOperand within]

/-- The condition that the written form of a condition is read as. -/
def rewritten (condition : Condition) : Condition :=
  ofParts condition.quantifier condition.field condition.operator condition.operands

/-- Conditions with faithful parts are read back from a filter with their written forms. -/
theorem parseFilter_renderFilter {conditions : List Condition}
    (faithful : ∀ condition ∈ conditions,
      FaithfulClause condition.quantifier condition.field condition.operands) :
    parseFilter (renderFilter conditions) = .ok (conditions.map rewritten) := by
  have cut : clauses (renderFilter conditions) = conditions.map rendered := by
    apply clauses_intercalate
    intro text mem
    obtain ⟨condition, isCondition, rfl⟩ := List.mem_map.mp mem
    exact IsClause.of_render (faithful condition isCondition) condition.operator
  rw [parseFilter_eq_ok_iff, cut, List.forall₂_map_left_iff, List.forall₂_map_right_iff,
    List.forall₂_same]
  intro condition mem
  exact (faithful condition mem).toFaithful.parse_render condition.operator

/-- The second condition is the first one, with the written form of the first as its text. -/
structure Rewrites (condition again : Condition) : Prop where
  quantifier : again.quantifier = condition.quantifier
  field : again.field = condition.field
  operator : again.operator = condition.operator
  operands : again.operands = condition.operands
  text : again.text = condition.rendered

theorem rewrites_rewritten (condition : Condition) : Rewrites condition condition.rewritten :=
  ⟨rfl, rfl, rfl, rfl, rfl⟩

/-- **Filters survive being written.** What was read from any filter is written as a filter that
is read as the same conditions, in their order and with their written forms as texts, so that
writing them once more changes nothing. And conditions that were built from parts are read back
equal in everything if their parts are faithful and no operand has a semicolon. -/
theorem parseFilter_roundTrip :
    (∀ filter conditions, parseFilter filter = .ok conditions →
      ∃ again, parseFilter (renderFilter conditions) = .ok again ∧
        again.length = conditions.length ∧ List.Forall₂ Rewrites conditions again ∧
        renderFilter again = renderFilter conditions) ∧
    ∀ conditions : List Condition,
      (∀ condition ∈ conditions, ∃ quantifier field operator operands,
        FaithfulClause quantifier field operands ∧
          condition = ofParts quantifier field operator operands) →
      parseFilter (renderFilter conditions) = .ok conditions := by
  constructor
  · intro filter conditions parsed
    refine ⟨conditions.map rewritten, ?_, List.length_map rewritten, ?_, ?_⟩
    · exact parseFilter_renderFilter fun condition mem => FaithfulClause.of_parseFilter parsed mem
    · rw [List.forall₂_map_right_iff, List.forall₂_same]
      intro condition _
      exact rewrites_rewritten condition
    · -- Written forms do not depend on the texts, which are all that has changed.
      unfold renderFilter
      rw [List.map_map]
      rfl
  · intro conditions built
    have faithful : ∀ condition ∈ conditions,
        FaithfulClause condition.quantifier condition.field condition.operands := by
      intro condition mem
      obtain ⟨quantifier, field, operator, operands, faithful, rfl⟩ := built condition mem
      exact faithful
    have same : conditions.map rewritten = conditions.map id := by
      refine List.map_congr_left ?_
      intro condition mem
      obtain ⟨quantifier, field, operator, operands, -, rfl⟩ := built condition mem
      rfl
    rw [parseFilter_renderFilter faithful, same, List.map_id]

end Listing.Condition
