import Listing.Proofs.Condition.Positions
import Listing.Proofs.Text.Slice

/-!
# `Listing/Proofs/Condition/Offsets.lean` — reading by offsets in bytes

`Condition.parse` takes a text apart into lists of characters. The same can be done with the bytes
of the text and nothing but offsets into them: find a bracket, add up lengths, cut there. That is
how one reads without copying, and it is less safe, because an offset can be beyond the end of the
text, before the start of a cut, or in the midst of a character. `scan` reads in this way. Its
outcome is an `Option`: every cut that must succeed and every difference that must not be negative
is asked for with `slice?` and `minus?`, and if one of them fails there is no outcome at all.

One cut may fail. The marker `()` is looked for by cutting two bytes behind the first bracket, and
the second of them may be the first byte of some other character. That cut is not one that must
succeed: if it fails there is no marker (`markedFront?_of_other`).

`scan_eq` says that there always is an outcome, and that it is the one of `parse`. With the
positions of `Listing/Proofs/Condition/Positions.lean` this makes **`offsets_count_bytes`**.
-/

set_option autoImplicit false

namespace Listing.Condition

open Outcome Text

/-! ## The scan -/

/-- The offset of the first occurrence of a character. -/
def offsetOf? (c : Char) (text : String) : Option Nat :=
  (cut? c text.toList).map fun (before, _) => byteLength before

/-- What is left of a text that begins with a character. -/
def stripFront? (c : Char) (text : String) : Option String :=
  if text.toList.head? = some c then some (String.ofList text.toList.tail) else none

/-- The difference of two sizes, if it is one. -/
def minus? (whole part : Nat) : Option Nat :=
  if part ≤ whole then some (whole - part) else none

/-- The text in front of an offset, if there is one and it ends in the marker. -/
def markedFront? (text : String) (last : Nat) : Option String :=
  (slice? text 0 last).filter fun front => fieldMarker.toList.isSuffixOf front.toList

/-- Takes the field out of a text that begins at an offset, and what is behind its marker. -/
def scanField (text : String) (offset : Nat) :
    Option (Except ConditionCause (String × String)) := do
  let behind ← slice? text offset text.utf8ByteSize
  match offsetOf? '(' behind with
  | none => return .error .fieldMissing
  | some bracket =>
    let last := offset + bracket + fieldMarker.utf8ByteSize
    if last < offset + fieldMarker.utf8ByteSize + 1 then
      return .error .fieldMissing
    else match markedFront? text last with
      | none => return .error (.markerMissing offset)
      | some front =>
        let field ← slice? front offset (← minus? front.utf8ByteSize fieldMarker.utf8ByteSize)
        if isIdentifier field.toList then
          let rest ← slice? text last text.utf8ByteSize
          return .ok (field, rest)
        else
          return .error (.fieldMalformed field offset)

/-- Takes the operator out of what is left of a text, and the operands without their brackets. -/
def scanOperator (text rest : String) :
    Option (Except ConditionCause (Operator × String)) := do
  let position ← minus? text.utf8ByteSize rest.utf8ByteSize
  match stripFront? '.' rest with
  | none => return .error (.dotMissing position)
  | some rest =>
    match offsetOf? '(' rest with
    | none => return .error (.openingMissing (position + 1))
    | some bracket =>
      let word ← slice? rest 0 bracket
      if word = "" then
        return .error .operatorMissing
      else match Operator.ofKeyword? word.toList with
        | none => return .error (.operatorUnknown word)
        | some operator =>
          let last ← slice? rest (bracket + 1) rest.utf8ByteSize
          if last.toList.getLast? = some ')' then
            return .ok (operator, String.ofList last.toList.dropLast)
          else
            return .error (.closingMissing text.utf8ByteSize)

/-- Reads a condition by offsets. -/
def scan (text : String) : Option (Except Fault Condition) :=
  if trim text.toList = [] then
    some (.error (.badCondition text .blank))
  else do
    let quantifier := Quantifier.detect text.toList
    match ← scanField text quantifier.keyword.utf8ByteSize with
    | .error cause => return .error (.badCondition text cause)
    | .ok (field, rest) =>
      match ← scanOperator text rest with
      | .error cause => return .error (.badCondition text cause)
      | .ok (operator, inside) =>
        let operands := splitOperands inside.toList
        return .ok { quantifier, field, operator, operands, text }

/-! ## Its cuts -/

variable {text front after : String} {before : List Char}

theorem eq_of_cut {cs : List Char} (cut : cut? '(' text.toList = some (before, cs)) :
    text = String.ofList before ++ ("(" ++ String.ofList cs) := by
  rw [← String.toList_inj, (cut?_eq_some_iff.mp cut).1]
  simp

theorem stripFront?_eq_some_iff {c : Char} :
    stripFront? c text = some after ↔ text.toList = c :: after.toList := by
  unfold stripFront?
  cases text.toList with
  | nil => simp
  | cons d ds => by_cases same : d = c <;> simp [same, ← String.toList_inj]

theorem minus?_append (front behind : String) :
    minus? (front ++ behind).utf8ByteSize behind.utf8ByteSize = some front.utf8ByteSize := by
  simp [minus?]

/-- Where there is a marker, the cut is behind it. -/
theorem markedFront?_of_marker (front behind : String) :
    markedFront? (front ++ fieldMarker ++ behind)
      (front.utf8ByteSize + fieldMarker.utf8ByteSize) = some (front ++ fieldMarker) := by
  rw [← String.utf8ByteSize_append, markedFront?, slice?_front]
  refine Option.filter_eq_some_iff.mpr ⟨rfl, ?_⟩
  rw [String.toList_append]
  exact List.isSuffixOf_iff_suffix.mpr (List.suffix_append _ _)

/-- Where there is none, the cut fails, or what it gives does not end in a marker: one that has the
size of the marker and ends there begins with the bracket. -/
theorem markedFront?_of_other (other : after.toList.head? ≠ some ')') :
    markedFront? (front ++ ("(" ++ after)) (front.utf8ByteSize + fieldMarker.utf8ByteSize) =
      none := by
  rw [markedFront?, Option.filter_eq_none_iff]
  intro found sliced ends
  obtain ⟨initial, same⟩ := List.isSuffixOf_iff_suffix.mp ends
  obtain rfl : String.ofList initial ++ fieldMarker = found := by
    rw [← String.toList_inj, String.toList_append, String.toList_ofList, same]
  obtain ⟨behind, whole, size⟩ := exists_append_of_slice?_zero sliced
  rw [String.utf8ByteSize_append] at size
  rw [String.append_assoc] at whole
  obtain ⟨-, sameBehind⟩ := append_inj_of_utf8ByteSize whole (by omega)
  have closed : after.toList = ')' :: behind.toList := by
    simpa [fieldMarker] using congrArg String.toList sameBehind
  rw [closed] at other
  exact other rfl

/-! ## It reads the same -/

/-- Behind a name that ends in a bracket all cuts succeed but the one that need not. -/
theorem scanField_of_bracket {name : String} (nonempty : name ≠ "") (first : '(' ∉ name.toList)
    (whole : text = front ++ (name ++ ("(" ++ after))) :
    scanField text front.utf8ByteSize =
      some ((readField front.utf8ByteSize (name.toList ++ '(' :: after.toList)).map
        fun (field, rest) => (String.ofList field, String.ofList rest)) := by
  have behind : slice? text front.utf8ByteSize text.utf8ByteSize =
      some (name ++ ("(" ++ after)) := by
    rw [whole]
    exact slice?_behind _ _
  have bracket : offsetOf? '(' (name ++ ("(" ++ after)) = some name.utf8ByteSize := by
    have cut : cut? '(' (name ++ ("(" ++ after)).toList = some (name.toList, after.toList) :=
      cut?_eq_some_iff.mpr ⟨by simp, first⟩
    rw [offsetOf?, cut]
    simp [byteLength]
  have size : name.utf8ByteSize ≠ 0 := by
    rwa [ne_eq, String.utf8ByteSize_eq_zero_iff]
  have someName : name.toList ≠ [] := by
    rwa [ne_eq, String.toList_eq_nil_iff]
  unfold scanField
  simp only [behind, bracket, Option.bind_eq_bind, Option.bind_some]
  rw [if_neg (by omega), ← String.utf8ByteSize_append]
  clear behind bracket
  by_cases marked : after.toList.head? = some ')'
  · obtain ⟨cs, closed⟩ := List.head?_eq_some_iff.mp marked
    obtain ⟨rest, rfl⟩ := exists_toList_eq cs
    have parts : text = front ++ name ++ fieldMarker ++ rest := by
      rw [whole, ← String.toList_inj]
      simp [fieldMarker, closed]
    have markerCut := markedFront?_of_marker (front ++ name) rest
    have restCut := slice?_behind (front ++ name ++ fieldMarker) rest
    have nameCut := slice?_middle front name fieldMarker
    rw [← parts] at markerCut restCut
    rw [String.utf8ByteSize_append] at restCut
    rw [← String.utf8ByteSize_append] at nameCut
    rw [markerCut]
    simp only [minus?_append, nameCut, restCut, Option.bind_some, closed]
    split
    · next named =>
      rw [readField_eq_ok_iff.mpr ⟨rfl, named⟩]
      simp [Except.map]
    · next unnamed =>
      have malformed : readField front.utf8ByteSize (name.toList ++ '(' :: ')' :: rest.toList) =
          .error (.fieldMalformed (String.ofList name.toList) front.utf8ByteSize) :=
        (readField_eq_error_iff rfl).mpr
          ⟨_, _, rfl, someName, first, .inr ⟨rfl, rfl, Bool.eq_false_iff.mpr unnamed⟩⟩
      rw [malformed, String.ofList_toList]
      rfl
  · have missing : readField front.utf8ByteSize (name.toList ++ '(' :: after.toList) =
        .error (.markerMissing front.utf8ByteSize) :=
      (readField_eq_error_iff rfl).mpr ⟨_, _, rfl, someName, first, .inl ⟨rfl, marked⟩⟩
    rw [whole, ← String.append_assoc, markedFront?_of_other marked, missing]
    rfl

theorem scanField_eq (front behind : String) :
    scanField (front ++ behind) front.utf8ByteSize =
      some ((readField front.utf8ByteSize behind.toList).map fun (field, rest) =>
        (String.ofList field, String.ofList rest)) := by
  cases cut : cut? '(' behind.toList with
  | none =>
    unfold scanField readField
    rw [slice?_behind]
    simp [offsetOf?, cut, Except.map]
  | some parts =>
    obtain ⟨name, after⟩ := parts
    obtain ⟨name, rfl⟩ := exists_toList_eq name
    obtain ⟨after, rfl⟩ := exists_toList_eq after
    obtain ⟨shape, first⟩ := cut?_eq_some_iff.mp cut
    by_cases nonempty : name = ""
    · subst nonempty
      unfold scanField readField
      rw [slice?_behind]
      simp [offsetOf?, cut, byteLength, Except.map]
    · rw [shape]
      refine scanField_of_bracket nonempty first ?_
      rw [← String.toList_inj, String.toList_append, shape]
      simp

/-- The operator and the operands, cut apart. -/
theorem scanOperator_eq (front rest : String) :
    (scanOperator (front ++ rest) rest).map
        (Except.map fun (operator, inside) => (operator, splitOperands inside.toList)) =
      some (do
        let (operator, last) ← readOperator front.utf8ByteSize rest.toList
        let operands ← readOperands (front ++ rest).utf8ByteSize last
        return (operator, operands)) := by
  unfold scanOperator
  simp only [minus?_append, Option.bind_eq_bind, Option.bind_some]
  cases dotted : stripFront? '.' rest with
  | none =>
    have missing : rest.toList.head? ≠ some '.' := by
      intro first
      rw [stripFront?, if_pos first] at dotted
      cases dotted
    rw [(readOperator_eq_error_iff rfl).mpr (.inl ⟨rfl, missing⟩)]
    rfl
  | some behind =>
    rw [stripFront?_eq_some_iff.mp dotted]
    unfold readOperator
    cases cut : cut? '(' behind.toList with
    | none => simp [offsetOf?, cut, Except.map]
    | some parts =>
      obtain ⟨word, after⟩ := parts
      have parts := eq_of_cut cut
      have wordSlice : slice? behind 0 (byteLength word) = some (String.ofList word) := by
        rw [parts]
        exact slice?_front _ _
      have lastSlice : slice? behind (byteLength word + 1) behind.utf8ByteSize =
          some (String.ofList after) := by
        have afterBracket := slice?_behind (String.ofList word ++ "(") (String.ofList after)
        rwa [String.append_assoc, ← parts, String.utf8ByteSize_append] at afterBracket
      simp only [offsetOf?, cut, Option.map_some, wordSlice, lastSlice, Option.bind_some]
      cases word with
      | nil => simp [Except.map]
      | cons first others =>
        cases known : Operator.ofKeyword? (first :: others) with
        | none => simp [known, Except.map]
        | some operator =>
          by_cases closed : after.getLast? = some ')' <;>
            simp [known, closed, readOperands, Except.map]

theorem scan_eq (text : String) : scan text = some (parse text) := by
  unfold scan parse read
  split
  · rfl
  generalize detected : Quantifier.detect text.toList = quantifier
  generalize dropped : text.toList.drop quantifier.keyword.length = behind
  have whole : text = quantifier.keyword ++ String.ofList behind := by
    rw [← String.toList_inj, String.toList_append, String.toList_ofList, ← dropped, ← detected]
    exact eq_keyword_append_drop text.toList
  have field := scanField_eq quantifier.keyword (String.ofList behind)
  rw [← whole, String.toList_ofList] at field
  simp only [dropped, field, Option.bind_eq_bind, Option.bind_some]
  cases reads : readField quantifier.keyword.utf8ByteSize behind with
  | error cause => rfl
  | ok parts =>
    obtain ⟨name, rest⟩ := parts
    have front : text =
        quantifier.keyword ++ String.ofList name ++ fieldMarker ++ String.ofList rest := by
      rw [whole, (readField_eq_ok_iff.mp reads).1, ← String.toList_inj]
      simp [fieldMarker]
    have operator := scanOperator_eq (quantifier.keyword ++ String.ofList name ++ fieldMarker)
      (String.ofList rest)
    simp only [← front, String.toList_ofList, String.utf8ByteSize_append] at operator
    obtain ⟨outcome, scans, same⟩ := Option.map_eq_some_iff.mp operator
    simp only [Except.map, scans, Option.bind_some, ok_bind, byteLength, String.ofList_toList]
    generalize readOperator _ rest = operatorRead at same ⊢
    -- The scan stops in the same step as reading does, or both take all steps.
    cases operatorRead with
    | error cause =>
      cases outcome <;> cases same
      rfl
    | ok parts =>
      obtain ⟨operator, last⟩ := parts
      simp only [ok_bind] at same ⊢
      generalize readOperands text.utf8ByteSize last = operandsRead at same ⊢
      cases operandsRead <;> cases outcome <;> cases same <;> rfl

/-- **Offsets count bytes.** Reading by offsets never fails to cut, whatever the text and wherever
in it a character has more than one byte, and its outcome is that of `parse`. Where the message of a
refused text ends in a position, the position is between characters, and the bytes in front of it
are what has been accepted: the quantifier where the marker is missing or the field is malformed,
with the field and its marker where the dot is missing, with the dot as well where the bracket is,
and the whole text where it is not closed. All texts that stop in this way are refused with that
position. -/
theorem offsets_count_bytes (text : String) :
    scan text = some (parse text) ∧
    ∀ (cause : ConditionCause) (offset : Nat),
      (parse text = .error (.badCondition text cause) ∧
        ∃ what, cause.message = what ++ " near byte " ++ toString offset) ↔
      ∃ accepted rest, text = accepted ++ rest ∧ slice? text 0 offset = some accepted ∧
        Stops (Quantifier.detect text.toList) offset cause accepted rest := by
  refine ⟨scan_eq text, fun cause offset => ?_⟩
  rw [← ConditionCause.offset?_eq_some_iff]
  refine ⟨fun ⟨refused, located⟩ => ?_, fun ⟨accepted, rest, whole, sliced, stops⟩ => ?_⟩
  · obtain ⟨accepted, rest, whole, rfl, stops⟩ := (parse_eq_error_iff located).mp refused
    refine ⟨accepted, rest, whole, ?_, stops⟩
    rw [whole]
    exact slice?_front accepted rest
  · obtain ⟨_, -, size⟩ := exists_append_of_slice?_zero sliced
    have located := stops.offset?_eq
    exact ⟨(parse_eq_error_iff located).mpr ⟨accepted, rest, whole, size, stops⟩, located⟩

/-- The character behind the bracket has two bytes, and the cut would be between them. -/
example : slice? "name(é" 0 6 = none ∧
    scan "name(é" = some (.error (.badCondition "name(é" (.markerMissing 0))) := by
  decide +kernel

end Listing.Condition
