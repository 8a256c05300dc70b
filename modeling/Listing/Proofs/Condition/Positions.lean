import Listing.Proofs.Condition.Grammar
import Listing.Proofs.Digits

/-!
# `Listing/Proofs/Condition/Positions.lean` — where a text stops to be a condition

Five of the causes for which a text is no condition come with a position (`offset?`): the number of
bytes that were accepted before. This file says which texts are refused for each of them, without
mentioning how they are read. A text has then a part that is accepted and a rest (`Stops`): the
accepted part is made of what a condition begins with, and with the rest the trouble begins.

`parse_eq_error_iff` is the equivalence. Each of the three steps of reading has an equation for the
causes with a position, and the steps before the one that stops have succeeded, which
`Listing/Proofs/Condition/Grammar.lean` has equations for.

The position is also in the message, and there it can be found again: it is what stands behind the
last blank (`ConditionCause.offset?_eq_some_iff`).
-/

set_option autoImplicit false

namespace Listing

open Number Outcome Text

/-! ## Messages with a position -/

namespace ConditionCause

/-- The position that a cause names. -/
def offset? : ConditionCause → Option Nat
  | markerMissing offset => some offset
  | fieldMalformed _ offset => some offset
  | dotMissing offset => some offset
  | openingMissing offset => some offset
  | closingMissing offset => some offset
  | _ => none

variable {what : String} {offset : Nat}

theorem toList_near (offset : Nat) :
    (message.near offset).toList = " near byte".toList ++ ' ' :: Nat.toDigits 10 offset := by
  show (" near byte " ++ offset.repr).toList = _
  rw [String.toList_append, Nat.toList_repr]
  rfl

/-- A position is what stands behind the last blank. -/
theorem near_inj {what' : String} {offset' : Nat}
    (same : what ++ message.near offset = what' ++ message.near offset') : offset = offset' := by
  have digits (n : Nat) : ' ' ∉ (Nat.toDigits 10 n).reverse := by
    intro mem
    cases (digitsOf_toDigits n).isDigit ' ' (List.mem_reverse.mp mem)
  have turned := congrArg (fun text => text.toList.reverse) same
  simp only [String.toList_append, toList_near, List.reverse_append, List.reverse_cons,
    List.append_assoc, List.singleton_append] at turned
  obtain ⟨sameDigits, -⟩ := append_separator_inj turned (digits _) (digits _)
  have sameNumbers := congrArg ofDigits (List.reverse_inj.mp sameDigits)
  rwa [(digitsOf_toDigits _).ofDigits_eq, (digitsOf_toDigits _).ofDigits_eq] at sameNumbers

theorem exists_digit_near (what : String) (offset : Nat) :
    ∃ c, (what ++ message.near offset).toList.getLast? = some c ∧ c.isDigit = true := by
  have digits := digitsOf_toDigits offset
  have nonempty : Nat.toDigits 10 offset ≠ [] := List.ne_nil_of_length_pos Nat.length_toDigits_pos
  refine ⟨(Nat.toDigits 10 offset).getLast nonempty, ?_, digits.isDigit _ (List.getLast_mem _)⟩
  rw [String.toList_append, toList_near]
  simp [List.getLast?_append, List.getLast?_cons, List.getLast?_eq_some_getLast nonempty]

/-- The messages that end in a position are those of the causes that have one. -/
theorem offset?_eq_some_iff {cause : ConditionCause} :
    cause.offset? = some offset ↔
      ∃ what, cause.message = what ++ " near byte " ++ toString offset := by
  have ending (what : String) : what ++ " near byte " ++ toString offset =
      what ++ message.near offset := String.append_assoc
  simp only [ending]
  have located (front : String) (position : Nat) : some position = some offset ↔
      ∃ what, front ++ message.near position = what ++ message.near offset := by
    refine ⟨fun same => ?_, fun ⟨what, same⟩ => congrArg some (near_inj same)⟩
    cases same
    exact ⟨front, rfl⟩
  have unlocated {text : String} (last : Char) (isLast : text.toList.getLast? = some last)
      (noDigit : last.isDigit = false) :
      none = some offset ↔ ∃ what, text = what ++ message.near offset := by
    refine iff_of_false (Option.some_ne_none offset).symm fun ⟨what, same⟩ => ?_
    obtain ⟨c, isLast', digit⟩ := exists_digit_near what offset
    rw [← same, isLast, Option.some.injEq] at isLast'
    rw [isLast', digit] at noDigit
    cases noDigit
  cases cause with
  | blank => exact unlocated 'd' rfl rfl
  | fieldMissing => exact unlocated 'g' rfl rfl
  | markerMissing position => exact located _ position
  | fieldMalformed field position => exact located _ position
  | dotMissing position => exact located _ position
  | openingMissing position => exact located _ position
  | operatorMissing => exact unlocated 'g' rfl rfl
  | operatorUnknown word =>
    have ends : ("Invalid operator found: <" ++ word ++ ">").toList.getLast? = some '>' := by
      rw [String.toList_append]
      exact List.getLast?_concat
    exact unlocated '>' ends rfl
  | closingMissing position => exact located _ position

end ConditionCause

/-! ## The steps of reading -/

namespace Condition

variable {cause : ConditionCause} {offset position : Nat} {cs : List Char}

theorem readField_eq_error_iff (located : cause.offset? = some position) :
    readField offset cs = .error cause ↔
      ∃ field after, cs = field ++ '(' :: after ∧ field ≠ [] ∧ '(' ∉ field ∧
        ((cause = .markerMissing offset ∧ after.head? ≠ some ')') ∨
          (cause = .fieldMalformed (String.ofList field) offset ∧ after.head? = some ')' ∧
            isIdentifier field = false)) := by
  unfold readField
  refine ⟨fun refused => ?_, fun ⟨field, after, shape, nonempty, first, stops⟩ => ?_⟩
  · split at refused
    · cases refused
      cases located
    · cases refused
      cases located
    · next field rest nonempty cut =>
      obtain ⟨shape, first⟩ := cut?_eq_some_iff.mp cut
      split at refused
      · cases refused
      · next malformed =>
        cases refused
        exact ⟨field, _, shape, nonempty, first, .inr ⟨rfl, rfl, Bool.eq_false_iff.mpr malformed⟩⟩
    · next parts nonempty other cut =>
      obtain ⟨field, after⟩ := parts
      obtain ⟨shape, first⟩ := cut?_eq_some_iff.mp cut
      cases refused
      refine ⟨field, after, shape, ?_, first, .inl ⟨rfl, ?_⟩⟩
      · rintro rfl
        exact nonempty _ rfl
      · intro marked
        obtain ⟨rest, rfl⟩ := List.head?_eq_some_iff.mp marked
        exact other _ _ rfl
  · rw [cut?_eq_some_iff.mpr ⟨shape, first⟩]
    obtain ⟨initial, others, rfl⟩ := List.exists_cons_of_ne_nil nonempty
    rcases stops with ⟨rfl, missing⟩ | ⟨rfl, marked, malformed⟩
    · split
      · next cut => cases cut
      · next cut => cases cut
      · next cut =>
        cases cut
        exact absurd rfl missing
      · rfl
    · obtain ⟨rest, rfl⟩ := List.head?_eq_some_iff.mp marked
      simp [malformed]

theorem readOperator_eq_error_iff (located : cause.offset? = some position) :
    readOperator offset cs = .error cause ↔
      (cause = .dotMissing offset ∧ cs.head? ≠ some '.') ∨
      (cause = .openingMissing (offset + 1) ∧ ∃ rest, cs = '.' :: rest ∧ '(' ∉ rest) := by
  unfold readOperator
  refine ⟨fun refused => ?_, fun stops => ?_⟩
  · split at refused
    · next rest =>
      split at refused
      · next cut =>
        cases refused
        exact .inr ⟨rfl, rest, rfl, cut?_eq_none_iff.mp cut⟩
      · cases refused
        cases located
      · split at refused <;> cases refused
        cases located
    · next other =>
      cases refused
      refine .inl ⟨rfl, fun dotted => ?_⟩
      obtain ⟨rest, rfl⟩ := List.head?_eq_some_iff.mp dotted
      exact other rest rfl
  · rcases stops with ⟨rfl, missing⟩ | ⟨rfl, rest, rfl, missing⟩
    · split
      · simp at missing
      · rfl
    · simp only [cut?_eq_none_iff.mpr missing]

theorem readOperands_eq_error_iff {size : Nat} :
    readOperands size cs = .error cause ↔
      cause = .closingMissing size ∧ cs.getLast? ≠ some ')' := by
  unfold readOperands
  split <;> simp_all [eq_comm]

/-! ## Texts that stop -/

/-- Where a text stops to be a condition: what is wrong there, what has been accepted, and what
stands behind it. -/
inductive Stops (quantifier : Quantifier) (offset : Nat) :
    ConditionCause → String → String → Prop where
  | marker {field rest : String} (nonempty : field ≠ "") (first : '(' ∉ field.toList)
      (missing : rest.toList.head? ≠ some ')') :
      Stops quantifier offset (.markerMissing offset) quantifier.keyword (field ++ "(" ++ rest)
  | name {field rest : String} (nonempty : field ≠ "") (first : '(' ∉ field.toList)
      (malformed : isIdentifier field.toList = false) :
      Stops quantifier offset (.fieldMalformed field offset) quantifier.keyword
        (field ++ fieldMarker ++ rest)
  | dot {field rest : String} (named : isIdentifier field.toList = true)
      (missing : rest.toList.head? ≠ some '.') :
      Stops quantifier offset (.dotMissing offset) (quantifier.keyword ++ field ++ fieldMarker) rest
  | bracket {field rest : String} (named : isIdentifier field.toList = true)
      (missing : '(' ∉ rest.toList) :
      Stops quantifier offset (.openingMissing offset)
        (quantifier.keyword ++ field ++ fieldMarker ++ ".") rest
  | closing {field word rest : String} {operator : Operator}
      (named : isIdentifier field.toList = true)
      (known : agree operator.keyword.toList word.toList = true)
      (missing : rest.toList.getLast? ≠ some ')') :
      Stops quantifier offset (.closingMissing offset) (opening quantifier field word ++ rest) ""

/-- A text is refused with a position by the first of the three steps that stops. -/
theorem read_eq_error_iff (located : cause.offset? = some offset) :
    let start := (Quantifier.detect cs).keyword.utf8ByteSize
    read cs = .error cause ↔ trim cs ≠ [] ∧
      let fieldRead := readField start (cs.drop (Quantifier.detect cs).keyword.length)
      (fieldRead = .error cause ∨ ∃ field behind, fieldRead = .ok (field, behind) ∧
        let operatorRead :=
          readOperator (start + byteLength field + fieldMarker.utf8ByteSize) behind
        (operatorRead = .error cause ∨ ∃ operator last, operatorRead = .ok (operator, last) ∧
          readOperands (byteLength cs) last = .error cause)) := by
  intro start
  unfold read
  split
  · next blank =>
    refine ⟨fun refused => ?_, fun ⟨visible, _⟩ => absurd blank visible⟩
    cases refused
    cases located
  · next visible =>
    simp only [bind_eq_error_iff, pure_eq_ok, reduceCtorEq, and_false, exists_false, or_false,
      Prod.exists, visible, ne_eq, not_false_eq_true, true_and, start]

section

variable {text accepted rest field : String} {quantifier : Quantifier}

theorem exists_toList_eq (cs : List Char) : ∃ text : String, text.toList = cs :=
  ⟨String.ofList cs, String.toList_ofList⟩

/-- The size of everything up to the marker, as reading adds it up. -/
theorem utf8ByteSize_field (quantifier : Quantifier) (field : String) :
    (quantifier.keyword ++ field ++ fieldMarker).utf8ByteSize =
      quantifier.keyword.utf8ByteSize + byteLength field.toList + fieldMarker.utf8ByteSize := by
  simp [byteLength]

theorem Stops.offset?_eq
    (stops : Stops quantifier offset cause accepted rest) : cause.offset? = some offset := by
  cases stops <;> rfl

theorem exists_stops_of_readField {behind : List Char} (located : cause.offset? = some offset)
    (whole : text.toList = quantifier.keyword.toList ++ behind)
    (refused : readField quantifier.keyword.utf8ByteSize behind = .error cause) :
    ∃ accepted rest, text = accepted ++ rest ∧ accepted.utf8ByteSize = offset ∧
      Stops quantifier offset cause accepted rest := by
  obtain ⟨field, after, rfl, nonempty, first, stops⟩ := (readField_eq_error_iff located).mp refused
  obtain ⟨field, rfl⟩ := exists_toList_eq field
  rcases stops with ⟨rfl, missing⟩ | ⟨rfl, marked, malformed⟩
  · obtain ⟨rest, rfl⟩ := exists_toList_eq after
    cases located
    refine ⟨quantifier.keyword, field ++ "(" ++ rest, ?_, rfl, ?_⟩
    · rw [← String.toList_inj, whole]
      simp
    · exact .marker (by simpa using nonempty) first missing
  · obtain ⟨rest, rfl⟩ := List.head?_eq_some_iff.mp marked
    obtain ⟨rest, rfl⟩ := exists_toList_eq rest
    cases located
    refine ⟨quantifier.keyword, field ++ fieldMarker ++ rest, ?_, rfl, ?_⟩
    · rw [← String.toList_inj, whole]
      simp [fieldMarker]
    · rw [String.ofList_toList]
      exact .name (by simpa using nonempty) first malformed

theorem exists_stops_of_readOperator (located : cause.offset? = some offset)
    (named : isIdentifier field.toList = true)
    (whole : text = quantifier.keyword ++ field ++ fieldMarker ++ rest)
    (refused : readOperator (quantifier.keyword ++ field ++ fieldMarker).utf8ByteSize rest.toList =
      .error cause) :
    ∃ accepted rest, text = accepted ++ rest ∧ accepted.utf8ByteSize = offset ∧
      Stops quantifier offset cause accepted rest := by
  rcases (readOperator_eq_error_iff located).mp refused with
    ⟨rfl, missing⟩ | ⟨rfl, behind, dotted, missing⟩
  · cases located
    exact ⟨_, rest, whole, rfl, .dot named missing⟩
  · obtain ⟨behind, rfl⟩ := exists_toList_eq behind
    cases located
    refine ⟨quantifier.keyword ++ field ++ fieldMarker ++ ".", behind, ?_, ?_,
      .bracket named missing⟩
    · rw [whole, ← String.toList_inj, String.toList_append, dotted]
      simp
    · rw [String.utf8ByteSize_append]
      rfl

theorem stops_of_parse (located : cause.offset? = some offset)
    (refused : parse text = .error (.badCondition text cause)) :
    ∃ accepted rest, text = accepted ++ rest ∧ accepted.utf8ByteSize = offset ∧
      Stops (Quantifier.detect text.toList) offset cause accepted rest := by
  obtain ⟨found, reads, same⟩ := mapError_eq_error_iff.mp refused
  cases same
  obtain ⟨-, stops⟩ := (read_eq_error_iff located).mp reads
  have whole := eq_keyword_append_drop text.toList
  generalize text.toList.drop _ = behind at whole stops
  generalize Quantifier.detect text.toList = quantifier at whole stops ⊢
  rcases stops with inField | ⟨field, rest, readsField, later⟩
  · exact exists_stops_of_readField located whole inField
  -- The field and its marker have been accepted, and the rest is behind them.
  obtain ⟨rfl, named⟩ := readField_eq_ok_iff.mp readsField
  obtain ⟨field, rfl⟩ := exists_toList_eq field
  obtain ⟨rest, rfl⟩ := exists_toList_eq rest
  rcases later with inOperator | ⟨operator, last, readsOperator, inOperands⟩
  · rw [← utf8ByteSize_field] at inOperator
    refine exists_stops_of_readOperator located named ?_ inOperator
    rw [← String.toList_inj, whole]
    simp [fieldMarker]
  · obtain ⟨word, dotted, known⟩ := readOperator_eq_ok_iff.mp readsOperator
    obtain ⟨rfl, missing⟩ := readOperands_eq_error_iff.mp inOperands
    obtain ⟨word, rfl⟩ := exists_toList_eq word
    obtain ⟨last, rfl⟩ := exists_toList_eq last
    cases located
    rw [dotted] at whole
    have all : text = opening quantifier field word ++ last := eq_opening_append_iff.mpr whole
    refine ⟨opening quantifier field word ++ last, "", ?_, ?_, .closing named known missing⟩
    · rw [all, String.append_empty]
    · rw [← all, byteLength, String.ofList_toList]

theorem parse_of_stops (whole : text = accepted ++ rest)
    (size : accepted.utf8ByteSize = offset)
    (stops : Stops (Quantifier.detect text.toList) offset cause accepted rest) :
    parse text = .error (.badCondition text cause) := by
  have located := stops.offset?_eq
  refine mapError_eq_error_iff.mpr ⟨cause, (read_eq_error_iff located).mpr ?_, rfl⟩
  generalize Quantifier.detect text.toList = quantifier at stops ⊢
  cases stops with
  | @marker field rest nonempty first missing =>
    have parts : text.toList =
        quantifier.keyword.toList ++ (field.toList ++ '(' :: rest.toList) := by
      simp [whole]
    refine ⟨trim_ne_nil_of_bracket (by simp [parts]), .inl ?_⟩
    rw [drop_keyword parts, size]
    exact (readField_eq_error_iff located).mpr
      ⟨_, _, rfl, by simpa using nonempty, first, .inl ⟨rfl, missing⟩⟩
  | @name field rest nonempty first malformed =>
    have parts : text.toList =
        quantifier.keyword.toList ++ (field.toList ++ '(' :: ')' :: rest.toList) := by
      simp [whole, fieldMarker]
    refine ⟨trim_ne_nil_of_bracket (by simp [parts]), .inl ?_⟩
    rw [drop_keyword parts, size]
    refine (readField_eq_error_iff located).mpr
      ⟨_, _, rfl, by simpa using nonempty, first, .inr ⟨?_, rfl, malformed⟩⟩
    rw [String.ofList_toList]
  | @dot field rest named missing =>
    have parts : text.toList =
        quantifier.keyword.toList ++ (field.toList ++ '(' :: ')' :: rest.toList) := by
      simp [whole, fieldMarker]
    refine ⟨trim_ne_nil_of_bracket (by simp [parts]), .inr ⟨_, _,
      readField_eq_ok_iff.mpr ⟨drop_keyword parts, named⟩, .inl ?_⟩⟩
    rw [← utf8ByteSize_field, size]
    exact (readOperator_eq_error_iff located).mpr (.inl ⟨rfl, missing⟩)
  | @bracket field rest named missing =>
    have parts : text.toList =
        quantifier.keyword.toList ++ (field.toList ++ '(' :: ')' :: '.' :: rest.toList) := by
      simp [whole, fieldMarker]
    refine ⟨trim_ne_nil_of_bracket (by simp [parts]), .inr ⟨_, _,
      readField_eq_ok_iff.mpr ⟨drop_keyword parts, named⟩, .inl ?_⟩⟩
    refine (readOperator_eq_error_iff located).mpr (.inr ⟨?_, _, rfl, missing⟩)
    rw [← utf8ByteSize_field, ← size, String.utf8ByteSize_append]
    rfl
  | @closing field word rest operator named known missing =>
    rw [String.append_empty] at whole
    have parts := eq_opening_append_iff.mp whole
    refine ⟨trim_ne_nil_of_bracket (by simp [parts]), .inr ⟨_, _,
      readField_eq_ok_iff.mpr ⟨drop_keyword parts, named⟩, .inr ⟨operator, _,
        readOperator_eq_ok_iff.mpr ⟨_, rfl, known⟩, ?_⟩⟩⟩
    refine readOperands_eq_error_iff.mpr ⟨?_, missing⟩
    rw [byteLength, String.ofList_toList, whole, size]

/-- A text is refused with a position exactly if it stops there, behind so many bytes. -/
theorem parse_eq_error_iff (located : cause.offset? = some offset) :
    parse text = .error (.badCondition text cause) ↔
      ∃ accepted rest, text = accepted ++ rest ∧ accepted.utf8ByteSize = offset ∧
        Stops (Quantifier.detect text.toList) offset cause accepted rest :=
  ⟨stops_of_parse located, fun ⟨_, _, whole, size, stops⟩ => parse_of_stops whole size stops⟩

end

end Condition

end Listing
