import Listing.Proofs.Operand

/-!
# `Listing/Proofs/Tag.lean` — what a tag in front of an operand does

A tag says what an operand would be read as anyway, so it should make no difference; or it says
something else, and then the operand is refused. It does make a difference where what stands behind
it looks like a tag: only one tag is taken off, so a string may begin with what is a tag elsewhere.

Of all this there is one thing to show: that a text has at most one tag (`Kind.eq_of_hasTag`). That
is so because no tag, in small letters, is a prefix of another, and it is why the order in which the
tags are tried does not matter. So `splitTag` is known on texts that are put together of a tag and
something else (`splitTag_append`), and on all others (`splitTag_of_untagged`); and an operand with
its own tag, without one and with a foreign one each has its equation for `readOperand`.

The first characters of a text, as many as a tag has, are also its first bytes
(`Kind.begins_iff_bytes`): what is more than one byte long is no letter of a tag in any case.

**`tag_transparent`** carries the three equations over to conditions.
-/

set_option autoImplicit false

namespace Listing

open Outcome Text

/-! ## Bytes of ASCII -/

namespace Text

theorem toNat_lt_of_toLower {c : Char} (ascii : c.toLower.toNat < 128) : c.toNat < 128 := by
  unfold Char.toLower at ascii
  split at ascii
  · next capital =>
    have capital : c.toNat ≤ 90 := UInt32.le_iff_toNat_le.mp capital.2
    omega
  · exact ascii

/-- Only letters have another case. -/
theorem toLower_of_lt {c : Char} (below : c.toNat < 65) : c.toLower = c := by
  have notCapital : ¬ (c.val ≥ 'A'.val ∧ c.val ≤ 'Z'.val) := by
    rintro ⟨above, -⟩
    exact absurd (UInt32.le_iff_toNat_le.mp above) (Nat.not_le.mpr below)
  exact dif_neg notCapital

theorem utf8ByteSize_ofList_of_ascii {cs : List Char} (ascii : ∀ c ∈ cs, c.toNat < 128) :
    (String.ofList cs).utf8ByteSize = cs.length := by
  induction cs with
  | nil => rfl
  | cons c cs ih =>
    obtain ⟨first, rest⟩ := List.forall_mem_cons.mp ascii
    have oneByte : (String.ofList [c]).utf8ByteSize = 1 := by
      have small : c.val ≤ 127 := UInt32.le_iff_toNat_le.mpr (Nat.le_of_lt_succ first)
      simpa using Char.utf8Size_eq_one_iff.mpr small
    rw [← List.singleton_append, String.ofList_append, String.utf8ByteSize_append, oneByte, ih rest,
      List.length_append, List.length_singleton]

end Text

/-! ## Texts with a tag -/

namespace Kind

/-- A text is the tag of a kind, in any case. -/
def IsTag (kind : Kind) (text : String) : Prop :=
  agree text.toList kind.tag.toList = true

/-- A text begins with the tag of a kind, in any case. -/
def Begins (kind : Kind) (text : String) : Prop :=
  ∃ tag rest, kind.IsTag tag ∧ text = tag ++ rest

variable {kind other : Kind} {text tag : String} {cs : List Char}

theorem IsTag.length_eq (isTag : kind.IsTag tag) : tag.toList.length = kind.tag.length :=
  length_eq_of_agree isTag

theorem begins_iff_hasTag : kind.Begins text ↔ hasTag text.toList kind = true := by
  constructor
  · rintro ⟨tag, rest, isTag, rfl⟩
    rw [hasTag, String.toList_append, List.take_left' isTag.length_eq]
    exact isTag
  · intro tagged
    refine ⟨String.ofList (text.toList.take kind.tag.length),
      String.ofList (text.toList.drop kind.tag.length), ?_, ?_⟩
    · rw [IsTag, String.toList_ofList]
      exact tagged
    · rw [← String.ofList_append, List.take_append_drop, String.ofList_toList]

instance : Decidable (kind.IsTag text) :=
  inferInstanceAs (Decidable (agree text.toList kind.tag.toList = true))

instance : Decidable (kind.Begins text) :=
  decidable_of_iff _ begins_iff_hasTag.symm

/-- No tag is the beginning of another. -/
theorem tag_prefixFree (starts : kind.tag.toList.map Char.toLower <+:
    other.tag.toList.map Char.toLower) : kind = other := by
  revert starts
  cases kind <;> cases other <;> decide

theorem prefix_of_hasTag (tagged : hasTag cs kind = true) :
    kind.tag.toList.map Char.toLower <+: cs.map Char.toLower := by
  rw [← eq_of_beq tagged]
  exact (List.take_prefix _ _).map _

/-- A text has at most one tag. -/
theorem eq_of_hasTag (tagged : hasTag cs kind = true) (tagged' : hasTag cs other = true) :
    kind = other := by
  -- Both tags are prefixes of one text, so one of them is a prefix of the other.
  rcases List.prefix_or_prefix_of_prefix (prefix_of_hasTag tagged) (prefix_of_hasTag tagged') with
    starts | starts
  · exact tag_prefixFree starts
  · exact (tag_prefixFree starts).symm

/-- A text that begins with a digit or a sign has no tag: these stand before the colon, with which
tags begin. -/
theorem not_begins_of_cons {c : Char} {rest : List Char} (below : c.toNat < 58)
    (starts : text.toList = c :: rest) : ¬ kind.Begins text := by
  intro begins
  have lowered := prefix_of_hasTag (begins_iff_hasTag.mp begins)
  rw [starts, List.map_cons, toLower_of_lt (Nat.lt_trans below (by decide))] at lowered
  obtain ⟨name, colon⟩ : ∃ name, kind.tag.toList.map Char.toLower = ':' :: name := by
    cases kind <;> exact ⟨_, rfl⟩
  rw [colon, List.cons_prefix_cons] at lowered
  rw [← lowered.1] at below
  exact absurd below (by decide)

theorem IsTag.utf8ByteSize_eq (isTag : kind.IsTag tag) :
    tag.utf8ByteSize = kind.tag.utf8ByteSize := by
  have lowered : tag.toList.map Char.toLower = kind.tag.toList.map Char.toLower := eq_of_beq isTag
  have kindAscii : (kind.tag.toList.map Char.toLower).all (·.toNat < 128) = true := by
    cases kind <;> rfl
  have ascii : ∀ c ∈ tag.toList, c.toNat < 128 := by
    intro c mem
    have lower : c.toLower ∈ kind.tag.toList.map Char.toLower := lowered ▸ List.mem_map_of_mem mem
    exact toNat_lt_of_toLower (of_decide_eq_true (List.all_eq_true.mp kindAscii _ lower))
  have bytes := utf8ByteSize_ofList_of_ascii ascii
  rw [String.ofList_toList] at bytes
  rw [bytes, isTag.length_eq]
  cases kind <;> rfl

/-- It makes no difference whether a tag is looked for among the first characters or among the first
bytes, of which there may be too few, or the last may be in the midst of a character. -/
theorem begins_iff_bytes :
    kind.Begins text ↔
      ∃ first rest, text = first ++ rest ∧ first.utf8ByteSize = kind.tag.utf8ByteSize ∧
        kind.IsTag first := by
  constructor
  · rintro ⟨tag, rest, isTag, rfl⟩
    exact ⟨tag, rest, rfl, isTag.utf8ByteSize_eq, isTag⟩
  · rintro ⟨first, rest, rfl, -, isTag⟩
    exact ⟨first, rest, isTag, rfl⟩

end Kind

/-! ## Taking the tag off -/

theorem splitTag_of_hasTag {cs : List Char} {kind : Kind} (tagged : hasTag cs kind = true) :
    splitTag cs = (some kind, cs.drop kind.tag.length) := by
  have found : Kind.all.find? (hasTag cs) = some kind := by
    -- Another tag may be tried before this one, but the text does not have both.
    cases first : Kind.all.find? (hasTag cs) with
    | none => exact absurd tagged (List.find?_eq_none.mp first kind kind.mem_all)
    | some other => rw [Kind.eq_of_hasTag (List.find?_some first) tagged]
  rw [splitTag, found]

section

variable {reading : BooleanReading} {kind : Kind} {tag operand literal : String}

/-- One tag is taken off, whatever stands behind it. -/
theorem splitTag_append (isTag : kind.IsTag tag) (literal : String) :
    splitTag (tag ++ literal).toList = (some kind, literal.toList) := by
  have tagged : hasTag (tag ++ literal).toList kind = true :=
    Kind.begins_iff_hasTag.mp ⟨tag, literal, isTag, rfl⟩
  rw [splitTag_of_hasTag tagged, String.toList_append, List.drop_left' isTag.length_eq]

theorem splitTag_of_untagged (untagged : ∀ kind : Kind, ¬ kind.Begins operand) :
    splitTag operand.toList = (none, operand.toList) := by
  have nothing : Kind.all.find? (hasTag operand.toList) = none :=
    List.find?_eq_none.mpr fun kind _ tagged => untagged kind (Kind.begins_iff_hasTag.mpr tagged)
  rw [splitTag, nothing]

/-! ## Reading what is left -/

/-- Reads a text as a value of a kind, without looking for a tag. -/
def readWhole (reading : BooleanReading) (kind : Kind) (literal : String) : Except Fault Value :=
  (readLiteral? reading literal.toList kind).elim
    (.error (.badOperand kind literal .notLiteral)) .ok

theorem readWhole_eq_ok {value : Value}
    (reads : readLiteral? reading literal.toList kind = some value) :
    readWhole reading kind literal = .ok value := by
  rw [readWhole, reads]
  rfl

theorem readWhole_eq_error (unread : readLiteral? reading literal.toList kind = none) :
    readWhole reading kind literal = .error (.badOperand kind literal .notLiteral) := by
  rw [readWhole, unread]
  rfl

/-- Every text is a string. -/
theorem readWhole_string (literal : String) :
    readWhole reading .string literal = .ok (.string (some literal)) := by
  apply readWhole_eq_ok
  rw [readLiteral?, String.ofList_toList]

theorem readOperand_of_split {tagged : Option Kind} (own : tagged.all (· = kind) = true)
    (split : splitTag operand.toList = (tagged, literal.toList)) :
    readOperand reading kind operand = readWhole reading kind literal := by
  unfold readOperand readWhole
  rw [split]
  dsimp only
  rw [if_pos own, String.ofList_toList]
  cases readLiteral? reading literal.toList kind <;> rfl

theorem readOperand_of_tag (isTag : kind.IsTag tag) (literal : String) :
    readOperand reading kind (tag ++ literal) = readWhole reading kind literal :=
  readOperand_of_split (by simp) (splitTag_append isTag literal)

theorem readOperand_of_untagged (untagged : ∀ kind : Kind, ¬ kind.Begins operand) :
    readOperand reading kind operand = readWhole reading kind operand :=
  readOperand_of_split rfl (splitTag_of_untagged untagged)

theorem readOperand_of_foreign {other : Kind} (begins : other.Begins operand)
    (foreign : other ≠ kind) :
    readOperand reading kind operand = .error (.badOperand kind operand .foreignTag) := by
  unfold readOperand
  rw [splitTag_of_hasTag (Kind.begins_iff_hasTag.mp begins)]
  exact if_neg (by simpa using foreign)

/-- A text that is no value of a kind is no operand for it, unless it has the tag of the kind in
front of one. -/
theorem exists_readOperand_error
    (rejected : readLiteral? reading operand.toList kind = none)
    (behindTag : ∀ tag literal, kind.IsTag tag → operand = tag ++ literal →
      readLiteral? reading literal.toList kind = none) :
    ∃ text cause, readOperand reading kind operand = .error (.badOperand kind text cause) := by
  by_cases tagged : ∃ tagKind : Kind, tagKind.Begins operand
  · obtain ⟨tagKind, begins⟩ := tagged
    by_cases own : tagKind = kind
    · obtain ⟨tag, literal, isTag, rfl⟩ := begins
      rw [own] at isTag
      have rejected := behindTag tag literal isTag rfl
      exact ⟨_, _, (readOperand_of_tag isTag literal).trans (readWhole_eq_error rejected)⟩
    · exact ⟨_, _, readOperand_of_foreign begins own⟩
  · have untagged : ∀ tagKind : Kind, ¬ tagKind.Begins operand :=
      fun tagKind begins => tagged ⟨tagKind, begins⟩
    exact ⟨_, _, (readOperand_of_untagged untagged).trans (readWhole_eq_error rejected)⟩

end

/-! ## Conditions -/

section

variable {reading : BooleanReading} {value : Value} {operand operand' : String}

/-- Operands that are read alike are alike. -/
theorem satisfies_of_same_reading
    (same : readOperand reading value.kind operand = readOperand reading value.kind operand')
    (operator : Operator) (others : List String) :
    satisfies reading value operator (operand :: others) =
      satisfies reading value operator (operand' :: others) := by
  unfold satisfies
  simp only [firstOperand, ok_bind, same]

theorem satisfies_of_unreadable {operator : Operator} {fault : Fault}
    (present : value.isAbsent = false) (supported : value.kind.supports operator = true)
    (compares : operator ≠ .unrestricted)
    (unreadable : readOperand reading value.kind operand = .error fault) (others : List String) :
    satisfies reading value operator (operand :: others) = .error fault := by
  rw [satisfies_of_present present supported compares, firstOperand, ok_bind, unreadable,
    error_bind]

theorem satisfies_of_readable {operator : Operator} {literal : Value}
    (present : value.isAbsent = false) (supported : value.kind.supports operator = true)
    (compares : operator ≠ .unrestricted)
    (readable : readOperand reading value.kind operand = .ok literal) (others : List String) :
    satisfies reading value operator (operand :: others) =
      .ok (operator.relates value literal) := by
  rw [satisfies_of_present present supported compares, firstOperand, ok_bind, readable, ok_bind]

/-- Behind a tag of its own a text is taken literally, whatever it looks like. -/
theorem readOperand_string_of_tag {tag : String} (isTag : Kind.string.IsTag tag)
    (literal : String) :
    readOperand reading .string (tag ++ literal) = .ok (.string (some literal)) := by
  rw [readOperand_of_tag isTag, readWhole_string]

theorem satisfies_string_of_tag {operator : Operator} {tag : String} (isTag : Kind.string.IsTag tag)
    (compares : operator ≠ .unrestricted) (text literal : String) (others : List String) :
    satisfies reading (.string (some text)) operator ((tag ++ literal) :: others) =
      .ok (operator.relates (.string (some text)) (.string (some literal))) := by
  have present : (Value.string (some text)).isAbsent = false := rfl
  exact satisfies_of_readable present (Kind.string_supports operator) compares
    (readOperand_string_of_tag isTag literal) others

end

/-- **A tag is transparent, and one is taken off.** An operand without a tag says the same as with
the tag of the kind of the value in front of it, in any case, to all operators and all values, there
or not: the same answer or the same fault. An operand with the tag of another kind is refused by
every value that is there, for every operator that looks at its operands and has a meaning for the
value, and the fault shows the operand with its tag. What stands behind the tag of a string is
compared with and searched for as it is, also where it begins with a tag, so every text can be
written as an operand. -/
theorem tag_transparent (reading : BooleanReading) (others : List String) :
    (∀ (value : Value) (operator : Operator) (tag operand : String), value.kind.IsTag tag →
      (∀ kind : Kind, ¬ kind.Begins operand) →
        satisfies reading value operator ((tag ++ operand) :: others) =
          satisfies reading value operator (operand :: others)) ∧
    (∀ (value : Value) (operator : Operator) (operand : String) (kind : Kind),
      kind.Begins operand → kind ≠ value.kind → value.isAbsent = false →
        value.kind.supports operator = true → operator ≠ .unrestricted →
          satisfies reading value operator (operand :: others) =
            .error (.badOperand value.kind operand .foreignTag)) ∧
    ∀ tag literal : String, Kind.string.IsTag tag →
      readOperand reading .string (tag ++ literal) = .ok (.string (some literal)) ∧
        ∀ text : String,
          (∀ comparison : Comparison,
            satisfies reading (.string (some text)) (.comparing comparison)
                ((tag ++ literal) :: others) =
              .ok (comparison.holds (compareFolded text literal))) ∧
          satisfies reading (.string (some text)) .containing ((tag ++ literal) :: others) =
            .ok (containsFolded text literal) := by
  refine ⟨?_, ?_, ?_⟩
  · intro value operator tag operand isTag untagged
    apply satisfies_of_same_reading
    rw [readOperand_of_tag isTag, readOperand_of_untagged untagged]
  · intro value operator operand kind begins foreign present supported compares
    exact satisfies_of_unreadable present supported compares
      (readOperand_of_foreign begins foreign) others
  · intro tag literal isTag
    refine ⟨readOperand_string_of_tag isTag literal, fun text => ⟨fun comparison => ?_, ?_⟩⟩
    · exact satisfies_string_of_tag isTag Operator.noConfusion text literal others
    · exact satisfies_string_of_tag isTag Operator.noConfusion text literal others

/-- A tag does not help a bad number, which is shown without it; the tag of a day does harm to a
good one, and is shown; and the second of two tags belongs to the text. -/
theorem tag_transparent_odd_cases :
    (Kind.integer.IsTag ":InTeGer:" ∧ (∀ kind : Kind, ¬ kind.Begins "ten") ∧
      satisfies .strict (.integer 7) (.comparing .less) [":InTeGer:" ++ "ten"] =
        .error (.badOperand .integer "ten" .notLiteral)) ∧
    (Kind.date.Begins ":datetime:10" ∧
      satisfies .strict (.integer 7) (.comparing .less) [":datetime:10"] =
        .error (.badOperand .integer ":datetime:10" .foreignTag)) ∧
    (Kind.string.IsTag ":STRING:" ∧
      satisfies .strict (.string (some ":String:a")) (.comparing .equal)
        [":STRING:" ++ ":string:A"] = .ok true) := by
  obtain ⟨transparent, foreign, literally⟩ := tag_transparent .strict []
  have tag : Kind.integer.IsTag ":InTeGer:" := by decide
  have untagged : ∀ kind : Kind, ¬ kind.Begins "ten" := by
    intro kind
    cases kind <;> decide
  have begins : Kind.date.Begins ":datetime:10" := by decide
  have text : Kind.string.IsTag ":STRING:" := by decide
  refine ⟨⟨tag, untagged, ?_⟩, ⟨begins, ?_⟩, text, ?_⟩
  · rw [transparent (.integer 7) _ _ _ tag untagged]
    rfl
  · exact foreign (.integer 7) _ _ _ begins (by decide) rfl rfl (by decide)
  · rw [((literally _ ":string:A" text).2 ":String:a").1 .equal]
    rfl

end Listing
