import Listing.Proofs.Condition.RoundTrip
import Listing.Proofs.Lookup
import Listing.Proofs.Selection.Meaning

/-!
# `Listing/Proofs/Condition/Reach.lean` — how a condition reaches a field

A quantifier is taken off a condition by its letters, before anybody knows which fields there are.
So a field may be called `forAllowed`, and a plain condition about it is read as one about `owed`
with a quantifier in front. Such a field is not lost: a condition that *has* a quantifier reaches
every field whose name can be written at all, because only one quantifier is taken off, and the
exact name is looked up before any other.

The proof is the grammar at texts that are spelled out (`parse_spell`). What a plain condition
about `forAllowed` is read as can be seen from its text alone, which is also that of a quantified
condition about `owed` (`spell_plain_append`); and what is left of a name is shorter than the name,
so that not even the search that ignores case comes back to it.

**`parse_reaches`** says which texts reach a field, and what becomes of the others.
-/

set_option autoImplicit false

namespace Listing

open Text

/-- A written name has as many characters as the name it means. -/
theorem Means.length_eq {names : List String} {written name : String}
    (means : Means names written name) : name.length = written.length := by
  rw [← String.length_toList, ← String.length_toList]
  exact length_eq_of_agree means.agrees

namespace Condition

variable {ρ : Type} {schema : Schema ρ} {quantifier : Quantifier} {operator : Operator}
  {name word inside rest : String} {accessor : Accessor ρ}

/-- A condition spelled out, with any text between its last brackets. -/
def spell (quantifier : Quantifier) (field word inside : String) : String :=
  opening quantifier field word ++ inside ++ ")"

/-- A text is read as a condition about the field of this name, and this is its accessor. -/
def Reaches (schema : Schema ρ) (text name : String) (accessor : Accessor ρ) : Prop :=
  ∃ condition, parse text = .ok condition ∧ Means schema.names condition.field name ∧
    schema.resolve condition.field = .ok accessor

/-! ## What is spelled out -/

theorem parse_spell (named : isIdentifier name.toList = true)
    (known : agree operator.keyword.toList word.toList = true)
    (unprefixed : quantifier = .plain → ¬ Quantifier.forAll.keyword.toList <+: name.toList ∧
      ¬ Quantifier.thereExists.keyword.toList <+: name.toList) (inside : String) :
    parse (spell quantifier name word inside) =
      .ok ⟨quantifier, name, operator, splitOperands inside.toList,
        spell quantifier name word inside⟩ := by
  have detected : Quantifier.detect (spell quantifier name word inside).toList = quantifier := by
    unfold spell
    rw [String.append_assoc]
    exact detect_opening_iff.mpr unprefixed
  have parts : Decomposes (spell quantifier name word inside) name word inside := by
    refine ⟨?_, named, operator, known⟩
    rw [detected]
    rfl
  exact parse_eq_ok_iff.mpr ⟨name, word, inside, parts, detected.symm, rfl, known,
    splitOperands_eq_iff.mp rfl, rfl⟩

/-- A quantifier is seen where the name of a field begins like one. -/
theorem spell_plain_append (quantifier : Quantifier) (rest word inside : String) :
    spell .plain (quantifier.keyword ++ rest) word inside = spell quantifier rest word inside := by
  simp [spell, opening, Quantifier.keyword, String.append_assoc]

theorem readField_bracket (offset : Nat) (cs : List Char) :
    readField offset ('(' :: cs) = .error .fieldMissing :=
  rfl

/-- Behind the quantifier there must be something left of the name. -/
theorem parse_spell_empty (quantified : quantifier ≠ .plain) :
    parse (spell quantifier "" word inside) =
      .error (.badCondition (spell quantifier "" word inside) .fieldMissing) := by
  obtain ⟨behind, shape⟩ : ∃ behind, (spell quantifier "" word inside).toList =
      quantifier.keyword.toList ++ '(' :: behind := by
    unfold spell
    rw [String.append_assoc]
    exact ⟨_, eq_opening_append_iff.mp rfl⟩
  have detected : Quantifier.detect (spell quantifier "" word inside).toList = quantifier := by
    rw [shape]
    exact Quantifier.detect_keyword_append quantified _
  refine Outcome.mapError_eq_error_iff.mpr ⟨.fieldMissing, ?_, rfl⟩
  unfold read
  rw [if_neg (trim_ne_nil_of_bracket (by rw [shape]; simp))]
  refine Outcome.bind_eq_error_iff.mpr (.inl ?_)
  rw [detected, drop_keyword shape]
  exact readField_bracket _ _

theorem isIdentifier_of_append (named : isIdentifier (quantifier.keyword ++ rest).toList = true)
    (some : rest ≠ "") : isIdentifier rest.toList = true := by
  have nonempty : rest.toList ≠ [] := fun empty => some (String.toList_eq_nil_iff.mp empty)
  simp only [isIdentifier, String.toList_append, List.all_append, Bool.and_eq_true] at named ⊢
  exact ⟨by simpa using nonempty, named.2.2⟩

/-! ## What is reached -/

theorem reaches_spell (registered : (name, accessor) ∈ schema.entries)
    (named : isIdentifier name.toList = true)
    (known : agree operator.keyword.toList word.toList = true)
    (unprefixed : quantifier = .plain → ¬ Quantifier.forAll.keyword.toList <+: name.toList ∧
      ¬ Quantifier.thereExists.keyword.toList <+: name.toList) (inside : String) :
    Reaches schema (spell quantifier name word inside) name accessor := by
  have isName : name ∈ schema.names := Schema.mem_names.mpr ⟨accessor, registered⟩
  refine ⟨_, parse_spell named known unprefixed inside, .exact isName, ?_⟩
  exact Schema.resolve_eq_ok_iff.mpr (Schema.get?_of_mem registered)

/-- What is left of a name behind a quantifier does not mean the name. -/
theorem not_means_rest {names : List String} (quantified : quantifier ≠ .plain) :
    ¬ Means names rest (quantifier.keyword ++ rest) := by
  intro means
  have length := means.length_eq
  rw [String.length_append] at length
  cases quantifier with
  | plain => exact quantified rfl
  | forAll => simp [Quantifier.keyword] at length
  | thereExists => simp [Quantifier.keyword] at length

/-- A plain condition about a name that begins like a quantifier is no condition about it. -/
theorem not_reaches_spell_plain (quantified : quantifier ≠ .plain)
    (named : isIdentifier (quantifier.keyword ++ rest).toList = true)
    (known : agree operator.keyword.toList word.toList = true) :
    ¬ Reaches schema (spell .plain (quantifier.keyword ++ rest) word inside)
      (quantifier.keyword ++ rest) accessor := by
  rintro ⟨condition, parsed, means, -⟩
  rw [spell_plain_append] at parsed
  by_cases empty : rest = ""
  · subst empty
    cases (parse_spell_empty quantified).symm.trans parsed
  · have parsed' := parse_spell (isIdentifier_of_append named empty) known
      (fun plain => absurd plain quantified) inside
    obtain rfl := Except.ok.inj (parsed'.symm.trans parsed)
    exact not_means_rest quantified means

/-- **Which texts reach a field.** Let a field be registered under an identifier. A condition with
a quantifier reaches it, whatever else is registered. A plain condition reaches it exactly if its
name begins with neither quantifier. If the name is a quantifier and a rest, the plain condition is
read as a quantified one about the rest, which never means this field; if there is no rest, the
text is no condition. -/
theorem parse_reaches (registered : (name, accessor) ∈ schema.entries)
    (named : isIdentifier name.toList = true)
    (known : agree operator.keyword.toList word.toList = true) (inside : String) :
    (∀ quantifier, quantifier ≠ .plain →
      Reaches schema (spell quantifier name word inside) name accessor) ∧
    (Reaches schema (spell .plain name word inside) name accessor ↔
      ¬ Quantifier.forAll.keyword.toList <+: name.toList ∧
        ¬ Quantifier.thereExists.keyword.toList <+: name.toList) ∧
    ∀ quantifier rest, quantifier ≠ .plain → name = quantifier.keyword ++ rest →
      (rest ≠ "" → ∃ condition, parse (spell .plain name word inside) = .ok condition ∧
        condition.quantifier = quantifier ∧ condition.field = rest ∧
        ¬ Means schema.names condition.field name) ∧
      (rest = "" → parse (spell .plain name word inside) =
        .error (.badCondition (spell .plain name word inside) .fieldMissing)) := by
  refine ⟨?_, ⟨?_, ?_⟩, ?_⟩
  · intro quantifier quantified
    exact reaches_spell registered named known (fun plain => absurd plain quantified) inside
  · intro reaches
    have clear (quantifier : Quantifier) (quantified : quantifier ≠ .plain) :
        ¬ quantifier.keyword.toList <+: name.toList := by
      rintro ⟨cs, begins⟩
      obtain rfl : name = quantifier.keyword ++ String.ofList cs := by
        rw [← String.toList_inj, String.toList_append, String.toList_ofList, begins]
      exact not_reaches_spell_plain quantified named known reaches
    exact ⟨clear .forAll (by decide), clear .thereExists (by decide)⟩
  · intro unprefixed
    exact reaches_spell registered named known (fun _ => unprefixed) inside
  · rintro quantifier rest quantified rfl
    rw [spell_plain_append]
    constructor
    · intro some
      have parsed := parse_spell (isIdentifier_of_append named some) known
        (fun plain => absurd plain quantified) inside
      exact ⟨_, parsed, rfl, rfl, not_means_rest quantified⟩
    · rintro rfl
      exact parse_spell_empty quantified

/-- A field `forAllowed` is reached through a quantifier only, although `owed` is a field too, and
so is one whose name is a quantifier; the field `name` is reached in either way. -/
theorem parse_reaches_forAllowed :
    let owed : Accessor (Int64 × Bool) := .integer Prod.fst
    let allowed : Accessor (Int64 × Bool) := .boolean Prod.snd
    let schema := ((((Schema.empty.insert "owed" owed).insert "FORALLOWED" owed).insert
      "forAllowed" allowed).insert "thereExists" allowed).insert "name" owed
    (("forAllowed", allowed) ∈ schema.entries ∧ isIdentifier "forAllowed".toList = true ∧
      agree (Operator.comparing .equal).keyword.toList "EqualTo".toList = true) ∧
    Reaches schema "forAllforAllowed().EqualTo(a,(b)" "forAllowed" allowed ∧
    ¬ Reaches schema "forAllowed().EqualTo(a,(b)" "forAllowed" allowed ∧
    (∃ condition, parse "forAllowed().EqualTo(a,(b)" = .ok condition ∧
      condition.quantifier = .forAll ∧ condition.field = "owed") ∧
    Reaches schema "forAllthereExists().none()" "thereExists" allowed ∧
    parse "thereExists().none()" = .error (.badCondition "thereExists().none()" .fieldMissing) ∧
    Reaches schema "name().none()" "name" owed := by
  intro owed allowed schema
  have allowedMem : ("forAllowed", allowed) ∈ schema.entries := by
    simp [schema, Schema.mem_entries_insert]
  have existsMem : ("thereExists", allowed) ∈ schema.entries := by
    simp [schema, Schema.mem_entries_insert]
  have nameMem : ("name", owed) ∈ schema.entries := by
    simp [schema, Schema.mem_entries_insert]
  have known : agree (Operator.comparing .equal).keyword.toList "EqualTo".toList = true := by decide
  have none : agree Operator.unrestricted.keyword.toList "none".toList = true := by decide
  obtain ⟨quantified, plain, shadowed⟩ := parse_reaches allowedMem (by decide) known "a,(b"
  obtain ⟨quantified', -, shadowed'⟩ := parse_reaches existsMem (by decide) none ""
  obtain ⟨condition, parsed, quantifier, field, -⟩ :=
    (shadowed .forAll "owed" (by decide) rfl).1 (by decide)
  refine ⟨⟨allowedMem, by decide, known⟩, quantified .forAll (by decide), ?_,
    ⟨condition, parsed, quantifier, field⟩, quantified' .forAll (by decide),
    (shadowed' .thereExists "" (by decide) rfl).2 rfl, ?_⟩
  · intro reaches
    exact (plain.mp reaches).1 (by decide)
  · exact (parse_reaches nameMem (by decide) none "").2.1.mpr (by decide)

end Condition

end Listing
