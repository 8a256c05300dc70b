import Listing.Proofs.Operand

/-!
# `Listing/Proofs/Containment.lean` — equal texts, and texts that contain each other

One would expect a text to contain what is equal to a part of it. Conditions do not keep to that,
because comparing and searching lower a text by different rules. The rules part at one letter: a
capital sigma at the end of a word becomes `ς` when it is searched for, and `σ` when it is
compared. And whether it ends a word depends on what stands around it, so a text may even fail to
contain a part of itself: in `ΟΔΟΣ` the sigma ends a word, and the text `Σ` has no word to end.

The other rules agree, so nothing else can go wrong. `map_oneSigma_lowerBetween` says that the two
ways of lowering a text differ in the shape of small sigmas only, and `lowerBetween_eq_fold_iff`
that they do not differ where no sigma ends a word. **`equal_part_contained`** is what remains
true, and `equal_part_not_contained` shows that it is not more.
-/

set_option autoImplicit false

namespace Listing

namespace Text

/-! ## Parts of a text, lowered where they stand -/

/-- A part of a text, lowered as the whole text is: it stands between `before`, which is given last
character first, and `after`. -/
def lowerBetween (before : List Char) : List Char → List Char → List Char
  | [], _ => []
  | c :: cs, after => lowerChar before c (cs ++ after) ++ lowerBetween (c :: before) cs after

theorem lowerAfter_append (before left right : List Char) :
    lowerAfter before (left ++ right) =
      lowerBetween before left right ++ lowerAfter (left.reverse ++ before) right := by
  induction left generalizing before with
  | nil => rfl
  | cons c left ih => simp [lowerAfter, lowerBetween, ih]

theorem lower_eq_lowerBetween (cs : List Char) : lower cs = lowerBetween [] cs [] := by
  have all := lowerAfter_append [] cs []
  rwa [List.append_nil, lowerAfter, List.append_nil] at all

/-- Lowering a whole text lowers each of its parts where it stands. -/
theorem lowerBetween_infix_lower (before inside after : List Char) :
    lowerBetween before.reverse inside after <:+: lower (before ++ inside ++ after) := by
  refine ⟨lowerBetween [] before (inside ++ after),
    lowerAfter (inside.reverse ++ before.reverse) after, ?_⟩
  rw [lower, List.append_assoc before, lowerAfter_append, lowerAfter_append, List.append_nil,
    List.append_assoc]

/-! ## Final sigmas -/

/-- A capital sigma of a part of a text ends a word, where the part stands. -/
def HasFinalSigma (before cs after : List Char) : Prop :=
  ∃ left right, cs = left ++ 'Σ' :: right ∧
    endsWord (left.reverse ++ before) (right ++ after) = true

/-- The two small sigmas, taken for one. -/
def oneSigma (c : Char) : Char :=
  if c = 'ς' then 'σ' else c

theorem map_oneSigma_lowerChar (before : List Char) (c : Char) (after : List Char) :
    (lowerChar before c after).map oneSigma = (foldChar c).map oneSigma := by
  unfold lowerChar
  split
  · next final =>
    obtain ⟨rfl, -⟩ : c = 'Σ' ∧ _ := by simpa using final
    decide
  · rfl

/-- However a text is lowered, it comes out the same but for the shape of its sigmas. -/
theorem map_oneSigma_lowerBetween (before cs after : List Char) :
    (lowerBetween before cs after).map oneSigma = (fold cs).map oneSigma := by
  induction cs generalizing before with
  | nil => rfl
  | cons c cs ih =>
    rw [lowerBetween, fold_cons, List.map_append, List.map_append, map_oneSigma_lowerChar, ih]

theorem map_oneSigma_lower (cs : List Char) :
    (lower cs).map oneSigma = (fold cs).map oneSigma := by
  rw [lower_eq_lowerBetween, map_oneSigma_lowerBetween]

theorem length_lower (cs : List Char) : (lower cs).length = (fold cs).length := by
  simpa using congrArg List.length (map_oneSigma_lower cs)

theorem hasFinalSigma_cons_iff {before cs after : List Char} {c : Char} :
    HasFinalSigma before (c :: cs) after ↔
      (c = 'Σ' ∧ endsWord before (cs ++ after) = true) ∨ HasFinalSigma (c :: before) cs after := by
  constructor
  · rintro ⟨left, right, split, ends⟩
    cases left with
    | nil =>
      obtain ⟨rfl, rfl⟩ := List.cons.inj split
      exact .inl ⟨rfl, ends⟩
    | cons d left =>
      obtain ⟨rfl, rfl⟩ := List.cons.inj split
      exact .inr ⟨left, right, rfl, by simpa using ends⟩
  · rintro (⟨rfl, ends⟩ | ⟨left, right, rfl, ends⟩)
    · exact ⟨[], cs, rfl, ends⟩
    · exact ⟨c :: left, right, rfl, by simpa using ends⟩

theorem lowerChar_eq_foldChar_iff {before after : List Char} {c : Char} :
    lowerChar before c after = foldChar c ↔ ¬ (c = 'Σ' ∧ endsWord before after = true) := by
  unfold lowerChar
  split
  · next final =>
    obtain ⟨rfl, ends⟩ : c = 'Σ' ∧ endsWord before after = true := by simpa using final
    exact ⟨fun same => absurd same (by decide), fun fails => absurd ⟨rfl, ends⟩ fails⟩
  · next other => simpa using other

/-- Characters may be lowered one by one exactly where no sigma ends a word. By induction on the
part: both ways lower its head to the same number of characters, so heads and rests agree apart. -/
theorem lowerBetween_eq_fold_iff {before cs after : List Char} :
    lowerBetween before cs after = fold cs ↔ ¬ HasFinalSigma before cs after := by
  induction cs generalizing before with
  | nil => simp [lowerBetween, HasFinalSigma]
  | cons c cs ih =>
    have sameLength : (lowerChar before c (cs ++ after)).length = (foldChar c).length := by
      simpa using congrArg List.length (map_oneSigma_lowerChar before c (cs ++ after))
    rw [hasFinalSigma_cons_iff, not_or, ← ih, ← lowerChar_eq_foldChar_iff, lowerBetween, fold_cons]
    constructor
    · exact fun same => List.append_inj same sameLength
    · rintro ⟨head, rest⟩
      rw [head, rest]

theorem lower_eq_fold_iff {cs : List Char} : lower cs = fold cs ↔ ¬ HasFinalSigma [] cs [] := by
  rw [lower_eq_lowerBetween, lowerBetween_eq_fold_iff]

instance (before cs after : List Char) : Decidable (HasFinalSigma before cs after) :=
  decidable_of_iff (¬ lowerBetween before cs after = fold cs)
    (by rw [lowerBetween_eq_fold_iff, Classical.not_not])

/-! ## Comparing and searching -/

theorem containsFolded_iff {text part : String} :
    containsFolded text part = true ↔ lower part.toList <:+: lower text.toList :=
  occursIn_iff

/-- Texts that compare equal are lowered to the same length, so one contains the other only if
they are lowered to the same. -/
theorem containsFolded_iff_of_equal {left right : String}
    (equal : compareFolded left right = .eq) :
    containsFolded left right = true ↔ lower left.toList = lower right.toList := by
  have same : (lower left.toList).length = (lower right.toList).length := by
    rw [length_lower, length_lower, compareFolded_eq_iff.mp equal]
  rw [containsFolded_iff]
  constructor
  · intro contained
    exact (contained.eq_of_length same.symm).symm
  · intro eq
    exact eq ▸ List.infix_rfl

/-- Equal texts are lowered to the same, wherever they stand, if no sigma ends a word in them. -/
theorem lowerBetween_eq_lower {before inside after part : List Char}
    (equal : fold inside = fold part) (free : ¬ HasFinalSigma before inside after)
    (partFree : ¬ HasFinalSigma [] part []) :
    lowerBetween before inside after = lower part := by
  rw [lowerBetween_eq_fold_iff.mpr free, equal, lower_eq_fold_iff.mpr partFree]

end Text

open Outcome Text

/-! ## Conditions -/

section

variable {reading : BooleanReading} {text operand : String} {operator : Operator}

theorem satisfies_string_eq (asks : operator ≠ .unrestricted) :
    satisfies reading (.string (some text)) operator [operand] =
      readOperand reading .string operand >>= fun literal =>
        .ok (operator.relates (.string (some text)) literal) := by
  have present : (Value.string (some text)).isAbsent = false := rfl
  exact satisfies_of_present present (Kind.string_supports operator) asks

/-- Every operand for a string that has no tag of another kind stands for its own text. -/
theorem eq_string_of_readOperand {literal : Value}
    (reads : readOperand reading .string operand = .ok literal) :
    literal = .string (some (String.ofList (splitTag operand.toList).2)) := by
  unfold readOperand at reads
  dsimp only [readLiteral?] at reads
  split at reads
  · exact (Except.ok.inj reads).symm
  · cases reads

end

/-- **A text contains what is equal to a part of it, but for final sigmas.** Where a condition finds
a text equal to an operand, it finds the operand in the text exactly if both are lowered to the
same, as they are if no sigma ends a word in them. A text with a part that is equal to another text
contains that one but for the shape of its sigmas. It contains it entirely if the part, where it
stands, is lowered to the same as the other text, as it is if no sigma ends a word in them. -/
theorem equal_part_contained (reading : BooleanReading) (text operand part : String)
    (before inside after : List Char) :
    (satisfies reading (.string (some text)) (.comparing .equal) [operand] = .ok true →
      let literal := (splitTag operand.toList).2
      satisfies reading (.string (some text)) .containing [operand] =
          .ok (lower text.toList = lower literal) ∧
        (¬ HasFinalSigma [] text.toList [] → ¬ HasFinalSigma [] literal [] →
          satisfies reading (.string (some text)) .containing [operand] = .ok true)) ∧
    (text.toList = before ++ inside ++ after →
      compareFolded (String.ofList inside) part = .eq →
        (lower part.toList).map oneSigma <:+: (lower text.toList).map oneSigma ∧
        (lowerBetween before.reverse inside after = lower part.toList →
          containsFolded text part = true) ∧
        (¬ HasFinalSigma before.reverse inside after → ¬ HasFinalSigma [] part.toList [] →
          containsFolded text part = true)) := by
  constructor
  · intro holds literal
    rw [satisfies_string_eq (by simp)] at holds
    obtain ⟨value, reads, holds⟩ := bind_eq_ok_iff.mp holds
    obtain rfl := eq_string_of_readOperand reads
    have equal : compareFolded text (String.ofList literal) = .eq :=
      Ordering.isEq_iff_eq_eq.mp (Except.ok.inj holds)
    have contains : satisfies reading (.string (some text)) .containing [operand] =
        .ok (lower text.toList = lower literal) := by
      rw [satisfies_string_eq (by simp), reads, ok_bind]
      congr 1
      show containsFolded text (String.ofList literal) = _
      rw [Bool.eq_iff_iff, containsFolded_iff_of_equal equal, String.toList_ofList,
        decide_eq_true_iff]
    refine ⟨contains, fun free literalFree => ?_⟩
    have folded := compareFolded_eq_iff.mp equal
    rw [String.toList_ofList] at folded
    have same := lowerBetween_eq_lower folded free literalFree
    rw [contains, decide_eq_true (lower_eq_lowerBetween text.toList ▸ same)]
  · intro split equal
    have equal := compareFolded_eq_iff.mp equal
    rw [String.toList_ofList] at equal
    have found (alike : lowerBetween before.reverse inside after = lower part.toList) :
        containsFolded text part = true := by
      have inPlace := lowerBetween_infix_lower before inside after
      rwa [containsFolded_iff, split, ← alike]
    refine ⟨?_, found, fun free partFree => found (lowerBetween_eq_lower equal free partFree)⟩
    -- Without the shape of sigmas, both are lowered one character at a time.
    rw [map_oneSigma_lower, map_oneSigma_lower, split, fold_append, fold_append, equal,
      List.map_append, List.map_append]
    exact List.infix_append _ _ _

/-- Sigmas do no harm at the head of a word, nor a final one outside of the part or in both. -/
theorem equal_part_contained_salad :
    (satisfies .lenient (.string (some "ΣΑΛΑΤΑ")) (.comparing .equal) [":string:σαλατα"] =
        .ok true ∧
      ¬ HasFinalSigma [] "ΣΑΛΑΤΑ".toList [] ∧ ¬ HasFinalSigma [] "σαλατα".toList [] ∧
      satisfies .lenient (.string (some "ΣΑΛΑΤΑ")) .containing [":string:σαλατα"] = .ok true) ∧
    ("ΟΔΟΣ ΣΑΛΑΤΑ".toList = "ΟΔΟΣ ".toList ++ "ΣΑΛ".toList ++ "ΑΤΑ".toList ∧
      compareFolded "ΣΑΛ" "σαλ" = .eq ∧
      ¬ HasFinalSigma "ΟΔΟΣ ".toList.reverse "ΣΑΛ".toList "ΑΤΑ".toList ∧
      ¬ HasFinalSigma [] "σαλ".toList [] ∧ containsFolded "ΟΔΟΣ ΣΑΛΑΤΑ" "σαλ" = true) ∧
    ("ΟΔΟΣ ΣΑΛΑΤΑ".toList = [] ++ "ΟΔΟΣ".toList ++ " ΣΑΛΑΤΑ".toList ∧
      compareFolded "ΟΔΟΣ" "οδοΣ" = .eq ∧
      lowerBetween [].reverse "ΟΔΟΣ".toList " ΣΑΛΑΤΑ".toList = lower "οδοΣ".toList ∧
      containsFolded "ΟΔΟΣ ΣΑΛΑΤΑ" "οδοΣ" = true) := by
  have holds : satisfies .lenient (.string (some "ΣΑΛΑΤΑ")) (.comparing .equal)
      [":string:σαλατα"] = .ok true := by decide +kernel
  have free : ¬ HasFinalSigma [] "ΣΑΛΑΤΑ".toList [] := by decide +kernel
  have literalFree : ¬ HasFinalSigma [] "σαλατα".toList [] := by decide +kernel
  have split : "ΟΔΟΣ ΣΑΛΑΤΑ".toList = "ΟΔΟΣ ".toList ++ "ΣΑΛ".toList ++ "ΑΤΑ".toList := by
    decide +kernel
  have equal : compareFolded "ΣΑΛ" "σαλ" = .eq := by decide +kernel
  have insideFree : ¬ HasFinalSigma "ΟΔΟΣ ".toList.reverse "ΣΑΛ".toList "ΑΤΑ".toList := by
    decide +kernel
  have partFree : ¬ HasFinalSigma [] "σαλ".toList [] := by decide +kernel
  have split' : "ΟΔΟΣ ΣΑΛΑΤΑ".toList = [] ++ "ΟΔΟΣ".toList ++ " ΣΑΛΑΤΑ".toList := by
    decide +kernel
  have equal' : compareFolded "ΟΔΟΣ" "οδοΣ" = .eq := by decide +kernel
  have alike : lowerBetween [].reverse "ΟΔΟΣ".toList " ΣΑΛΑΤΑ".toList = lower "οδοΣ".toList := by
    decide +kernel
  refine ⟨⟨holds, free, literalFree, ?_⟩, ⟨split, equal, insideFree, partFree, ?_⟩,
    split', equal', alike, ?_⟩
  · exact ((equal_part_contained .lenient "ΣΑΛΑΤΑ" ":string:σαλατα" "" [] [] []).1 holds).2
      free literalFree
  · have contained := (equal_part_contained .lenient "ΟΔΟΣ ΣΑΛΑΤΑ" "" "σαλ" "ΟΔΟΣ ".toList
      "ΣΑΛ".toList "ΑΤΑ".toList).2 split (by rw [String.ofList_toList]; exact equal)
    exact contained.2.2 insideFree partFree
  · have contained := (equal_part_contained .lenient "ΟΔΟΣ ΣΑΛΑΤΑ" "" "οδοΣ" [] "ΟΔΟΣ".toList
      " ΣΑΛΑΤΑ".toList).2 split' (by rw [String.ofList_toList]; exact equal')
    exact contained.2.1 alike

/-- A text may be equal to an operand that it does not contain, and have a part that it does not
contain. -/
theorem equal_part_not_contained :
    (satisfies .lenient (.string (some "ΟΔΟΣ")) (.comparing .equal) ["οδοσ"] = .ok true ∧
      satisfies .lenient (.string (some "ΟΔΟΣ")) .containing ["οδοσ"] = .ok false) ∧
    "Σ".toList <:+: "ΟΔΟΣ".toList ∧ compareFolded "Σ" "Σ" = .eq ∧
      containsFolded "ΟΔΟΣ" "Σ" = false := by
  decide +kernel

end Listing
