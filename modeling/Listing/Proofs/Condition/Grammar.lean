import Listing.Condition.Parser
import Listing.Proofs.Outcome
import Listing.Proofs.Text

/-!
# `Listing/Proofs/Condition/Grammar.lean` — which texts are conditions

`Condition.parse` is a scan: it takes a text apart at the first thing that looks like the next
part, and never looks back. This file says what the scan recognises, without mentioning it. A text
is a condition when it is put together like one,

    opening quantifier field word ++ inside ++ ")"

from an identifier, a word for an operator and anything at all between the last two brackets. The
quantifier is no choice: it is the one that the text begins with, also where that leaves less for
the field than a reader would expect.

**`parse_grammar`** has three parts: the scan accepts these texts and no others, and reads them as
their parts say; there is one way at most to see a text like this; and a text that is refused is
reported for its operator exactly when everything up to the operator is in order.

The order of proof is that of the scan. Each step takes off a part that cannot hold the character
that ends it, so each has an equation with `↔` that says what it took (`readField_eq_ok_iff` and so
on), and the equations are put together once, in `read_eq_ok_iff`.
-/

set_option autoImplicit false

namespace Listing

open Text

/-! ## Words for operators -/

namespace Operator

/-- No two keywords differ in case only. -/
theorem eq_of_agree_keyword :
    ∀ a b : Operator, agree a.keyword.toList b.keyword.toList = true → a = b := by
  decide

theorem agree_of_ofKeyword? {word : List Char} {operator : Operator}
    (h : ofKeyword? word = some operator) : agree operator.keyword.toList word = true := by
  unfold ofKeyword? at h
  exact List.find?_some (p := fun candidate : Operator => agree candidate.keyword.toList word) h

/-- A word is read as the operator whose keyword it is but for case. -/
theorem ofKeyword?_eq_some_iff {word : List Char} {operator : Operator} :
    ofKeyword? word = some operator ↔ agree operator.keyword.toList word = true := by
  constructor
  · exact agree_of_ofKeyword?
  · intro h
    cases found : ofKeyword? word with
    | none =>
      have none := List.find?_eq_none.mp found operator (mem_all operator)
      exact absurd h none
    | some other =>
      rw [agree_comm] at h
      rw [eq_of_agree_keyword _ _ (agree_trans (agree_of_ofKeyword? found) h)]

theorem ofKeyword?_eq_none_iff {word : List Char} :
    ofKeyword? word = none ↔ ∀ operator : Operator, agree operator.keyword.toList word = false := by
  constructor
  · intro h operator
    rw [Bool.eq_false_iff]
    intro agrees
    rw [ofKeyword?_eq_some_iff.mpr agrees] at h
    cases h
  · intro h
    cases found : ofKeyword? word with
    | none => rfl
    | some operator =>
      rw [ofKeyword?_eq_some_iff, h operator] at found
      cases found

/-- A word for an operator holds no bracket, whatever its case: a bracket has none. -/
theorem bracket_notMem_of_agree {operator : Operator} {word : List Char}
    (h : agree operator.keyword.toList word = true) : '(' ∉ word := by
  intro mem
  have lowered : '(' ∈ operator.keyword.toList.map Char.toLower := by
    rw [eq_of_beq h]
    exact List.mem_map.mpr ⟨'(', mem, by decide⟩
  have none : ∀ operator : Operator, '(' ∉ operator.keyword.toList.map Char.toLower := by decide
  exact none operator lowered

theorem ne_nil_of_agree {operator : Operator} {word : List Char}
    (h : agree operator.keyword.toList word = true) : word ≠ [] := by
  rintro rfl
  have none : ∀ operator : Operator, agree operator.keyword.toList [] = false := by decide
  rw [none operator] at h
  cases h

end Operator

namespace Condition

/-! ## The steps of the scan -/

/-- The field ends at the first bracket, and no identifier goes beyond it. -/
theorem readField_eq_ok_iff {offset : Nat} {cs field rest : List Char} :
    readField offset cs = .ok (field, rest) ↔
      cs = field ++ '(' :: ')' :: rest ∧ isIdentifier field = true := by
  unfold readField
  constructor
  · intro h
    split at h
    · contradiction
    · contradiction
    · next _ before behind _ cut =>
      by_cases named : isIdentifier before = true
      · rw [if_pos named] at h
        obtain ⟨rfl, rfl⟩ := Prod.mk.inj (Except.ok.inj h)
        exact ⟨(cut?_eq_some_iff.mp cut).1, named⟩
      · rw [if_neg named] at h
        contradiction
    · contradiction
  · rintro ⟨rfl, named⟩
    have cut : cut? '(' (field ++ '(' :: ')' :: rest) = some (field, ')' :: rest) :=
      cut?_eq_some_iff.mpr ⟨rfl, notMem_of_isIdentifier named (by decide)⟩
    obtain ⟨first, others, rfl, -⟩ := exists_cons_of_isIdentifier named
    simp only [cut, if_pos named]

theorem readField_ne_operatorUnknown {offset : Nat} {cs : List Char} {word : String} :
    readField offset cs ≠ .error (.operatorUnknown word) := by
  unfold readField
  split
  · simp
  · simp
  · split <;> simp
  · simp

/-- The operator ends at the first bracket, and no keyword goes beyond it. -/
theorem readOperator_eq_ok_iff {offset : Nat} {cs rest : List Char} {operator : Operator} :
    readOperator offset cs = .ok (operator, rest) ↔
      ∃ word, cs = '.' :: word ++ '(' :: rest ∧
        agree operator.keyword.toList word = true := by
  unfold readOperator
  constructor
  · intro h
    split at h
    · next behind =>
      split at h
      · contradiction
      · contradiction
      · next word after _ cut =>
        split at h
        · next found known =>
          obtain ⟨rfl, rfl⟩ := Prod.mk.inj (Except.ok.inj h)
          obtain ⟨shape, -⟩ := cut?_eq_some_iff.mp cut
          exact ⟨word, by rw [shape]; rfl, Operator.ofKeyword?_eq_some_iff.mp known⟩
        · contradiction
    · contradiction
  · rintro ⟨word, rfl, known⟩
    have cut : cut? '(' (word ++ '(' :: rest) = some (word, rest) :=
      cut?_eq_some_iff.mpr ⟨rfl, Operator.bracket_notMem_of_agree known⟩
    obtain ⟨first, others, rfl⟩ := List.exists_cons_of_ne_nil (Operator.ne_nil_of_agree known)
    simp only [List.cons_append] at cut ⊢
    simp only [cut, Operator.ofKeyword?_eq_some_iff.mpr known]

/-- An operator is unknown when there is a word in its place, and it is none. -/
theorem readOperator_eq_operatorUnknown_iff {offset : Nat} {cs : List Char} {word : String} :
    readOperator offset cs = .error (.operatorUnknown word) ↔
      ∃ rest, cs = '.' :: word.toList ++ '(' :: rest ∧ word.toList ≠ [] ∧ '(' ∉ word.toList ∧
        ∀ operator : Operator, agree operator.keyword.toList word.toList = false := by
  unfold readOperator
  constructor
  · intro h
    split at h
    · next behind =>
      split at h
      · simp at h
      · simp at h
      · next found after nonempty cut =>
        split at h
        · simp at h
        · next unknown =>
          obtain ⟨shape, absent⟩ := cut?_eq_some_iff.mp cut
          simp only [Except.error.injEq, ConditionCause.operatorUnknown.injEq] at h
          subst h
          rw [String.toList_ofList]
          exact ⟨after, by rw [shape]; rfl, nonempty,
            absent, Operator.ofKeyword?_eq_none_iff.mp unknown⟩
    · simp at h
  · rintro ⟨rest, rfl, nonempty, absent, unknown⟩
    have cut : cut? '(' (word.toList ++ '(' :: rest) = some (word.toList, rest) :=
      cut?_eq_some_iff.mpr ⟨rfl, absent⟩
    obtain ⟨first, others, eq⟩ := List.exists_cons_of_ne_nil nonempty
    have none := Operator.ofKeyword?_eq_none_iff.mpr unknown
    have back : String.ofList (first :: others) = word := by rw [← eq, String.ofList_toList]
    rw [eq] at cut none ⊢
    simp only [List.cons_append] at cut ⊢
    simp only [cut, none, back]

theorem readOperands_eq_ok_iff {size : Nat} {cs : List Char} {operands : List String} :
    readOperands size cs = .ok operands ↔
      ∃ inside, cs = inside ++ [')'] ∧ operands = splitOperands inside := by
  unfold readOperands
  by_cases closed : cs.getLast? = some ')'
  · obtain ⟨inside, rfl⟩ := List.getLast?_eq_some_iff.mp closed
    rw [if_pos closed, List.dropLast_concat, Except.ok.injEq]
    constructor
    · intro h
      exact ⟨inside, rfl, h.symm⟩
    · rintro ⟨other, same, rfl⟩
      rw [List.append_cancel_right same]
  · rw [if_neg closed]
    constructor
    · intro h
      cases h
    · rintro ⟨inside, rfl, -⟩
      exact absurd List.getLast?_concat closed

theorem readOperands_ne_operatorUnknown {size : Nat} {cs : List Char} {word : String} :
    readOperands size cs ≠ .error (.operatorUnknown word) := by
  unfold readOperands
  split <;> simp

/-! ## The whole scan -/

theorem drop_keyword {cs rest : List Char} {quantifier : Quantifier}
    (h : cs = quantifier.keyword.toList ++ rest) : cs.drop quantifier.keyword.length = rest := by
  rw [h, ← String.length_toList, List.drop_left]

theorem eq_keyword_append_drop (cs : List Char) :
    cs = (Quantifier.detect cs).keyword.toList ++
      cs.drop (Quantifier.detect cs).keyword.length := by
  obtain ⟨rest, eq⟩ := Quantifier.keyword_prefix_of_detect cs
  rw [drop_keyword eq.symm, eq]

theorem trim_ne_nil_of_bracket {cs : List Char} (mem : '(' ∈ cs) : trim cs ≠ [] := by
  intro empty
  have blank := trim_eq_nil_iff.mp empty '(' mem
  revert blank
  decide

theorem read_eq_ok_iff {cs : List Char} {condition : Condition} :
    read cs = .ok condition ↔
      ∃ field word inside operator,
        cs = (Quantifier.detect cs).keyword.toList ++
          (field ++ '(' :: ')' :: ('.' :: word ++ '(' :: (inside ++ [')']))) ∧
        isIdentifier field = true ∧ agree operator.keyword.toList word = true ∧
        condition = ⟨Quantifier.detect cs, String.ofList field, operator, splitOperands inside,
          String.ofList cs⟩ := by
  unfold read
  constructor
  · intro h
    by_cases blank : trim cs = []
    · rw [if_pos blank] at h
      cases h
    rw [if_neg blank] at h
    -- All three steps have succeeded, and each says what it took off.
    obtain ⟨⟨field, behind⟩, fieldRead, h⟩ := Outcome.bind_eq_ok_iff.mp h
    obtain ⟨⟨operator, last⟩, operatorRead, h⟩ := Outcome.bind_eq_ok_iff.mp h
    obtain ⟨operands, operandsRead, h⟩ := Outcome.bind_eq_ok_iff.mp h
    obtain ⟨shape, named⟩ := readField_eq_ok_iff.mp fieldRead
    obtain ⟨word, rfl, known⟩ := readOperator_eq_ok_iff.mp operatorRead
    obtain ⟨inside, rfl, rfl⟩ := readOperands_eq_ok_iff.mp operandsRead
    refine ⟨field, word, inside, operator, ?_, named, known, (Except.ok.inj h).symm⟩
    rw [← shape]
    exact eq_keyword_append_drop cs
  · rintro ⟨field, word, inside, operator, shape, named, known, rfl⟩
    have visible : trim cs ≠ [] := trim_ne_nil_of_bracket (by rw [shape]; simp)
    rw [if_neg visible]
    refine Outcome.bind_eq_ok_iff.mpr ⟨_, readField_eq_ok_iff.mpr ⟨drop_keyword shape, named⟩, ?_⟩
    refine Outcome.bind_eq_ok_iff.mpr ⟨_, readOperator_eq_ok_iff.mpr ⟨word, rfl, known⟩, ?_⟩
    exact Outcome.bind_eq_ok_iff.mpr ⟨_, readOperands_eq_ok_iff.mpr ⟨inside, rfl, rfl⟩, rfl⟩

theorem read_eq_operatorUnknown_iff {cs : List Char} {word : String} :
    read cs = .error (.operatorUnknown word) ↔
      ∃ field rest,
        cs = (Quantifier.detect cs).keyword.toList ++
          (field ++ '(' :: ')' :: ('.' :: word.toList ++ '(' :: rest)) ∧
        isIdentifier field = true ∧ word.toList ≠ [] ∧ '(' ∉ word.toList ∧
        ∀ operator : Operator, agree operator.keyword.toList word.toList = false := by
  unfold read
  constructor
  · intro h
    by_cases blank : trim cs = []
    · rw [if_pos blank] at h
      cases h
    rw [if_neg blank] at h
    -- Only the second step can have found an unknown operator, so the first has succeeded.
    rcases Outcome.bind_eq_error_iff.mp h with none | ⟨⟨field, behind⟩, fieldRead, h⟩
    · exact absurd none readField_ne_operatorUnknown
    obtain ⟨shape, named⟩ := readField_eq_ok_iff.mp fieldRead
    rcases Outcome.bind_eq_error_iff.mp h with unknown | ⟨⟨operator, last⟩, -, h⟩
    · obtain ⟨rest, rfl, cause⟩ := readOperator_eq_operatorUnknown_iff.mp unknown
      refine ⟨field, rest, ?_, named, cause⟩
      rw [← shape]
      exact eq_keyword_append_drop cs
    · rcases Outcome.bind_eq_error_iff.mp h with none | ⟨operands, -, h⟩
      · exact absurd none readOperands_ne_operatorUnknown
      · cases h
  · rintro ⟨field, rest, shape, named, cause⟩
    have visible : trim cs ≠ [] := trim_ne_nil_of_bracket (by rw [shape]; simp)
    rw [if_neg visible]
    refine Outcome.bind_eq_error_iff.mpr (.inr
      ⟨_, readField_eq_ok_iff.mpr ⟨drop_keyword shape, named⟩, ?_⟩)
    exact Outcome.bind_eq_error_iff.mpr
      (.inl (readOperator_eq_operatorUnknown_iff.mpr ⟨rest, rfl, cause⟩))

/-! ## Operands -/

/-- The operands that a text between brackets lists: none if there is no text, and otherwise the
pieces between its commas, with their blanks. -/
def Lists (inside : String) (operands : List String) : Prop :=
  if inside = "" then operands = []
  else
    operands ≠ [] ∧ (∀ operand ∈ operands, ',' ∉ operand.toList) ∧
      ",".intercalate operands = inside

/-- Cutting at commas gives the operands that are listed, and there is no other way to list. -/
theorem splitOperands_eq_iff {inside : String} {operands : List String} :
    splitOperands inside.toList = operands ↔ Lists inside operands := by
  unfold splitOperands Lists
  by_cases empty : inside = ""
  · rw [if_pos empty, if_pos (by rw [empty]; rfl)]
    exact eq_comm
  · have nonempty : inside.toList ≠ [] := fun h => empty (String.toList_eq_nil_iff.mp h)
    rw [if_neg empty, if_neg nonempty]
    constructor
    · rintro rfl
      refine ⟨fun none => split_ne_nil _ (List.map_eq_nil_iff.mp none), ?_, ?_⟩
      · intro operand mem
        obtain ⟨piece, isPiece, rfl⟩ := List.mem_map.mp mem
        rw [String.toList_ofList]
        exact separator_notMem_of_mem_split isPiece
      · rw [← String.toList_inj, String.toList_intercalate, List.map_map]
        simp only [Function.comp_def, String.toList_ofList, List.map_id']
        exact join_split inside.toList
    · rintro ⟨some, absent, rfl⟩
      have pieces : (",".intercalate operands).toList = join ',' (operands.map String.toList) :=
        String.toList_intercalate
      have cut : split ',' (join ',' (operands.map String.toList)) =
          operands.map String.toList := by
        refine split_join (fun none => some (List.map_eq_nil_iff.mp none)) ?_
        intro piece mem
        obtain ⟨operand, isOperand, rfl⟩ := List.mem_map.mp mem
        exact absent operand isOperand
      rw [pieces, cut, List.map_map]
      simp only [Function.comp_def, String.ofList_toList, List.map_id']

/-! ## Texts of conditions -/

/-- What a condition begins with: everything in front of its operands. -/
def opening (quantifier : Quantifier) (field word : String) : String :=
  quantifier.keyword ++ field ++ fieldMarker ++ "." ++ word ++ "("

/-- The same in characters, in the order in which they are taken off. -/
theorem eq_opening_append_iff {text field word rest : String} {quantifier : Quantifier} :
    text = opening quantifier field word ++ rest ↔
      text.toList = quantifier.keyword.toList ++
        (field.toList ++ '(' :: ')' :: ('.' :: word.toList ++ '(' :: rest.toList)) := by
  rw [← String.toList_inj]
  simp [opening, fieldMarker]

/-- One way to see a text as a condition: behind the quantifier that it begins with stand an
identifier and a word for an operator, and everything up to the last bracket is `inside`. -/
structure Decomposes (text field word inside : String) : Prop where
  shape : text = opening (Quantifier.detect text.toList) field word ++ inside ++ ")"
  named : isIdentifier field.toList = true
  known : ∃ operator : Operator, agree operator.keyword.toList word.toList = true

/-- A text that is a condition as far as its operator, in whose place there is a word that is no
operator. What comes behind the bracket does not matter, and need not end. -/
def Misnamed (text word : String) : Prop :=
  ∃ field rest, text = opening (Quantifier.detect text.toList) field word ++ rest ∧
    isIdentifier field.toList = true ∧ word ≠ "" ∧ '(' ∉ word.toList ∧
    ∀ operator : Operator, agree operator.keyword.toList word.toList = false

theorem Decomposes.toList_eq {text field word inside : String}
    (h : Decomposes text field word inside) :
    text.toList = (Quantifier.detect text.toList).keyword.toList ++
      (field.toList ++ '(' :: ')' :: ('.' :: word.toList ++ '(' :: (inside.toList ++ [')']))) := by
  have shape := h.shape
  rw [String.append_assoc, eq_opening_append_iff, String.toList_append] at shape
  exact shape

/-- A text is a condition in one way at most. Field and operator both end at the first bracket
that follows, so the two cuts of the scan tell them apart. -/
theorem Decomposes.unique {text field word inside field' word' inside' : String}
    (h : Decomposes text field word inside) (h' : Decomposes text field' word' inside') :
    field = field' ∧ word = word' ∧ inside = inside' := by
  obtain ⟨operator, known⟩ := h.known
  obtain ⟨operator', known'⟩ := h'.known
  have behind := List.append_cancel_left (h.toList_eq.symm.trans h'.toList_eq)
  obtain ⟨fields, behind⟩ := append_separator_inj behind
    (notMem_of_isIdentifier h.named (by decide)) (notMem_of_isIdentifier h'.named (by decide))
  simp only [List.cons_append, List.cons.injEq, true_and] at behind
  obtain ⟨words, behind⟩ := append_separator_inj behind
    (Operator.bracket_notMem_of_agree known) (Operator.bracket_notMem_of_agree known')
  have insides := List.append_cancel_right behind
  exact ⟨String.toList_inj.mp fields, String.toList_inj.mp words, String.toList_inj.mp insides⟩

/-- A text is read as a condition exactly when it can be seen as one, and the condition says what
is seen. -/
theorem parse_eq_ok_iff {text : String} {condition : Condition} :
    parse text = .ok condition ↔
      ∃ field word inside, Decomposes text field word inside ∧
        condition.quantifier = Quantifier.detect text.toList ∧ condition.field = field ∧
        agree condition.operator.keyword.toList word.toList = true ∧
        Lists inside condition.operands ∧ condition.text = text := by
  unfold parse
  rw [Outcome.mapError_eq_ok_iff, read_eq_ok_iff]
  constructor
  · rintro ⟨field, word, inside, operator, shape, named, known, rfl⟩
    refine ⟨String.ofList field, String.ofList word, String.ofList inside, ⟨?_, ?_, operator, ?_⟩,
      rfl, rfl, ?_, ?_, String.ofList_toList⟩
    · rw [String.append_assoc, eq_opening_append_iff, String.toList_append]
      simp only [String.toList_ofList]
      exact shape
    · rwa [String.toList_ofList]
    · rwa [String.toList_ofList]
    · rwa [String.toList_ofList]
    · rw [← splitOperands_eq_iff, String.toList_ofList]
  · rintro ⟨field, word, inside, parts, sameQuantifier, sameField, known, lists, sameText⟩
    refine ⟨field.toList, word.toList, inside.toList, condition.operator, parts.toList_eq,
      parts.named, known, ?_⟩
    rw [splitOperands_eq_iff.mpr lists, String.ofList_toList, String.ofList_toList,
      ← sameQuantifier, ← sameField, ← sameText]

theorem parse_eq_operatorUnknown_iff {text word : String} :
    parse text = .error (.badCondition text (.operatorUnknown word)) ↔ Misnamed text word := by
  unfold parse
  rw [Outcome.mapError_eq_error_iff]
  constructor
  · rintro ⟨cause, refused, same⟩
    obtain rfl : cause = .operatorUnknown word := (Fault.badCondition.inj same).2
    obtain ⟨field, rest, shape, named, nonempty, unknown⟩ :=
      read_eq_operatorUnknown_iff.mp refused
    refine ⟨String.ofList field, String.ofList rest, ?_, ?_, ?_, unknown⟩
    · rw [eq_opening_append_iff]
      simpa only [String.toList_ofList] using shape
    · rwa [String.toList_ofList]
    · exact fun empty => nonempty (String.toList_eq_nil_iff.mpr empty)
  · rintro ⟨field, rest, shape, named, nonempty, unknown⟩
    refine ⟨_, read_eq_operatorUnknown_iff.mpr
      ⟨field.toList, rest.toList, eq_opening_append_iff.mp shape, named, ?_, unknown⟩, rfl⟩
    exact fun empty => nonempty (String.toList_eq_nil_iff.mp empty)

theorem exists_cause_of_parse {text : String} {fault : Fault} (h : parse text = .error fault) :
    ∃ cause, fault = .badCondition text cause := by
  obtain ⟨cause, -, rfl⟩ := Outcome.mapError_eq_error_iff.mp h
  exact ⟨cause, rfl⟩

/-- **Parsing accepts exactly the grammar.** A text is read as a condition if and only if it can
be seen as one, and then the condition has the quantifier that the text begins with, the field and
the operator that are seen, the operands that are listed and the text itself; there is one way at
most to see it so; the unknown operator is reported, as it is written, exactly where a text is
misnamed; and every other text that is refused is refused as malformed. -/
theorem parse_grammar (text : String) :
    (∀ condition, parse text = .ok condition ↔
      ∃ field word inside, Decomposes text field word inside ∧
        condition.quantifier = Quantifier.detect text.toList ∧ condition.field = field ∧
        agree condition.operator.keyword.toList word.toList = true ∧
        Lists inside condition.operands ∧ condition.text = text) ∧
    (∀ field word inside field' word' inside', Decomposes text field word inside →
      Decomposes text field' word' inside' →
        field = field' ∧ word = word' ∧ inside = inside') ∧
    (∀ word, parse text = .error (.badCondition text (.operatorUnknown word)) ↔
      Misnamed text word) ∧
    ∀ fault, parse text = .error fault → (∀ word, ¬ Misnamed text word) →
      ∃ cause, fault = .badCondition text cause ∧ ∀ word, cause ≠ .operatorUnknown word := by
  refine ⟨fun condition => parse_eq_ok_iff, ?_, fun word => parse_eq_operatorUnknown_iff, ?_⟩
  · intro field word inside field' word' inside' parts parts'
    exact parts.unique parts'
  · intro fault refused wellNamed
    obtain ⟨cause, rfl⟩ := exists_cause_of_parse refused
    refine ⟨cause, rfl, ?_⟩
    rintro word rfl
    exact wellNamed word (parse_eq_operatorUnknown_iff.mp refused)

example : parse "forAllx().bogus(é" =
    .error (.badCondition "forAllx().bogus(é" (.operatorUnknown "bogus")) := by rfl

end Condition

end Listing
