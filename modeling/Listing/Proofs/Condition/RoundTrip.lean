import Listing.Proofs.Condition.Grammar

/-!
# `Listing/Proofs/Condition/RoundTrip.lean` — which conditions survive being written

`Condition.ofParts` takes any parts and writes them down without a look at them. Reading may then
see something else: a comma in an operand makes two of it, a field called `forAllergies` loses its
beginning to a quantifier, and a single empty operand is written like no operand.

**`parse_ofParts_iff`** says that these are all the ways to be misread. What has to hold of the
parts is `Faithful`, and a condition with faithful parts is read back equal in everything, its text
included. Both directions go through the grammar (`parse_eq_ok_iff`): the written form has the
shape of a condition by definition, so all that is left is whether the reader takes the same
quantifier off (`detect_opening_iff`) and lists the same operands (`lists_intercalate`).
-/

set_option autoImplicit false

namespace Listing

open Text

/-! ## The quantifier of a written condition -/

namespace Quantifier

theorem detect_eq_plain_iff {cs : List Char} :
    detect cs = .plain ↔
      ¬ forAll.keyword.toList <+: cs ∧ ¬ thereExists.keyword.toList <+: cs := by
  unfold detect
  rw [← List.isPrefixOf_iff_prefix, ← List.isPrefixOf_iff_prefix]
  by_cases all : forAll.keyword.toList.isPrefixOf cs = true
  · simp [all]
  · by_cases some : thereExists.keyword.toList.isPrefixOf cs = true
    · simp [all, some]
    · simp [all, some]

theorem detect_keyword_append {quantifier : Quantifier} (quantified : quantifier ≠ .plain)
    (cs : List Char) : detect (quantifier.keyword.toList ++ cs) = quantifier := by
  cases quantifier with
  | forAll => rfl
  | thereExists => rfl
  | plain => exact absurd rfl quantified

end Quantifier

namespace Condition

/-- A written condition is read with its own quantifier, unless it has none and its field begins
like one. -/
theorem detect_opening_iff {quantifier : Quantifier} {field word rest : String} :
    Quantifier.detect (opening quantifier field word ++ rest).toList = quantifier ↔
      (quantifier = .plain →
        ¬ Quantifier.forAll.keyword.toList <+: field.toList ∧
          ¬ Quantifier.thereExists.keyword.toList <+: field.toList) := by
  rw [eq_opening_append_iff.mp rfl]
  by_cases plain : quantifier = .plain
  · -- The first bracket belongs to the marker, and no quantifier goes beyond it.
    subst plain
    simp only [forall_const]
    show Quantifier.detect (field.toList ++ '(' :: _) = .plain ↔ _
    rw [Quantifier.detect_eq_plain_iff, prefix_append_separator_iff (by decide),
      prefix_append_separator_iff (by decide)]
  · simp only [Quantifier.detect_keyword_append plain, plain, false_implies]

/-! ## The operands of a written condition -/

theorem Lists.faithful {inside : String} {operands : List String} (h : Lists inside operands) :
    (∀ operand ∈ operands, ',' ∉ operand.toList) ∧ operands ≠ [""] := by
  unfold Lists at h
  by_cases empty : inside = ""
  · rw [if_pos empty] at h
    subst h
    simp
  · rw [if_neg empty] at h
    obtain ⟨-, absent, joined⟩ := h
    refine ⟨absent, ?_⟩
    rintro rfl
    exact empty joined.symm

theorem Lists.mem_of_mem {inside operand : String} {operands : List String} {c : Char}
    (h : Lists inside operands) (mem : operand ∈ operands) (within : c ∈ operand.toList) :
    c ∈ inside.toList := by
  unfold Lists at h
  by_cases empty : inside = ""
  · rw [if_pos empty] at h
    rw [h] at mem
    cases mem
  · rw [if_neg empty] at h
    obtain ⟨-, -, rfl⟩ := h
    rw [String.toList_intercalate]
    exact mem_join_of_mem (List.mem_map_of_mem mem) within

/-- Operands without commas are listed by their written form. The one exception is a single empty
operand, which is written like none. -/
theorem lists_intercalate {operands : List String}
    (absent : ∀ operand ∈ operands, ',' ∉ operand.toList) (other : operands ≠ [""]) :
    Lists (",".intercalate operands) operands := by
  unfold Lists
  by_cases empty : ",".intercalate operands = ""
  · rw [if_pos empty]
    cases operands with
    | nil => rfl
    | cons first rest =>
      cases rest with
      | nil =>
        rw [String.intercalate_singleton] at empty
        rw [empty] at other
        exact absurd rfl other
      | cons second rest =>
        -- Two operands have a comma between them, so they are not written as nothing.
        rw [String.intercalate_cons_cons] at empty
        simp at empty
  · rw [if_neg empty]
    refine ⟨?_, absent, rfl⟩
    rintro rfl
    exact empty String.intercalate_nil

/-! ## The round trip -/

/-- Parts of a condition that are written as they will be read. -/
structure Faithful (quantifier : Quantifier) (field : String) (operands : List String) :
    Prop where
  named : isIdentifier field.toList = true
  unprefixed : quantifier = .plain →
    ¬ Quantifier.forAll.keyword.toList <+: field.toList ∧
      ¬ Quantifier.thereExists.keyword.toList <+: field.toList
  separable : ∀ operand ∈ operands, ',' ∉ operand.toList
  countable : operands ≠ [""]

/-- What is read is faithful, wherever it was read from. -/
theorem Faithful.of_parse {text : String} {condition : Condition}
    (h : parse text = .ok condition) :
    Faithful condition.quantifier condition.field condition.operands := by
  obtain ⟨field, word, inside, parts, quantified, rfl, -, lists, -⟩ := parse_eq_ok_iff.mp h
  have shape := parts.shape
  rw [← quantified, String.append_assoc] at shape
  rw [shape] at quantified
  exact ⟨parts.named, detect_opening_iff.mp quantified.symm, lists.faithful.1, lists.faithful.2⟩

/-- Faithful parts are written as a text that is seen as a condition with these parts. -/
theorem Faithful.decomposes {quantifier : Quantifier} {field : String} {operands : List String}
    (faithful : Faithful quantifier field operands) (operator : Operator) :
    quantifier = Quantifier.detect (render quantifier field operator operands).toList ∧
      Decomposes (render quantifier field operator operands) field operator.keyword
        (",".intercalate operands) := by
  have written : render quantifier field operator operands =
      opening quantifier field operator.keyword ++ (",".intercalate operands ++ ")") :=
    String.append_assoc
  have quantified : Quantifier.detect (render quantifier field operator operands).toList =
      quantifier := by
    rw [written]
    exact detect_opening_iff.mpr faithful.unprefixed
  refine ⟨quantified.symm, ?_, faithful.named, operator, agree_refl _⟩
  rw [quantified, written, String.append_assoc]

theorem Faithful.parse_render {quantifier : Quantifier} {field : String} {operands : List String}
    (faithful : Faithful quantifier field operands) (operator : Operator) :
    parse (render quantifier field operator operands) =
      .ok (ofParts quantifier field operator operands) := by
  obtain ⟨quantified, parts⟩ := faithful.decomposes operator
  refine parse_eq_ok_iff.mpr ⟨field, operator.keyword, ",".intercalate operands, parts,
    quantified, rfl, agree_refl _, ?_, rfl⟩
  exact lists_intercalate faithful.separable faithful.countable

/-- **Conditions with faithful parts, and no others, survive being written.** -/
theorem parse_ofParts_iff (quantifier : Quantifier) (field : String) (operator : Operator)
    (operands : List String) :
    parse (ofParts quantifier field operator operands).text =
        .ok (ofParts quantifier field operator operands) ↔
      Faithful quantifier field operands := by
  constructor
  · intro h
    exact Faithful.of_parse h
  · intro faithful
    exact faithful.parse_render operator

end Condition

end Listing
