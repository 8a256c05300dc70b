import Listing.Proofs.Containment
import Listing.Proofs.Tag

/-!
# `Listing/Proofs/Containment/Folded.lean` — what it means for a text to contain another

A text contains another one if, both lowered as a whole, the one is a part of the other. So
containing has the laws of being a part: a text contains itself and the empty text, and a part of a
part is a part. That is all that can be said of texts in general, because a capital sigma is lowered
by what stands around it.

Without capital sigmas a text may be lowered one character at a time, as it is for comparing, and
comparing and searching fit together. It makes no difference then when a text is replaced by an
equal one that has no capital sigma either, and what is found in a text is found in every text
around it (`containsFolded_append`). A part begins and ends at characters of the *lowered* text,
which may be within one of the text itself: `İ` contains the dot above.

**`folded_part_contained`** puts this together.
-/

set_option autoImplicit false

namespace Listing

namespace Text

variable {text part inner : String}

/-! ## Texts in general -/

theorem containsFolded_refl (text : String) : containsFolded text text = true := by
  exact containsFolded_iff.mpr List.infix_rfl

theorem containsFolded_trans (contained : containsFolded text part = true)
    (within : containsFolded part inner = true) : containsFolded text inner = true := by
  rw [containsFolded_iff] at *
  exact within.trans contained

theorem containsFolded_empty (text : String) : containsFolded text "" = true := by
  exact containsFolded_iff.mpr List.nil_infix

/-! ## Texts without capital sigmas -/

theorem HasFinalSigma.mem {before cs after : List Char} (ends : HasFinalSigma before cs after) :
    'Σ' ∈ cs := by
  obtain ⟨left, right, rfl, -⟩ := ends
  exact List.mem_append_right left List.mem_cons_self

theorem containsFolded_iff_fold (free : 'Σ' ∉ text.toList) (partFree : 'Σ' ∉ part.toList) :
    containsFolded text part = true ↔ fold part.toList <:+: fold text.toList := by
  rw [containsFolded_iff, lower_eq_fold free, lower_eq_fold partFree]

/-- Equal texts without capital sigmas contain the same, and are contained in the same. -/
theorem containsFolded_congr {text' part' : String} (free : 'Σ' ∉ text.toList)
    (partFree : 'Σ' ∉ part.toList) (free' : 'Σ' ∉ text'.toList) (partFree' : 'Σ' ∉ part'.toList)
    (equal : compareFolded text text' = .eq) (partEqual : compareFolded part part' = .eq) :
    containsFolded text' part' = containsFolded text part := by
  rw [Bool.eq_iff_iff, containsFolded_iff_fold free partFree,
    containsFolded_iff_fold free' partFree', compareFolded_eq_iff.mp equal,
    compareFolded_eq_iff.mp partEqual]

/-- Whatever a text contains is found in every text around it, as it is lowered there to the same.
The text around it and the part may have sigmas. -/
theorem containsFolded_append (free : 'Σ' ∉ text.toList) (before after : String)
    (contained : containsFolded text part = true) :
    containsFolded (before ++ text ++ after) part = true := by
  rw [containsFolded_iff] at *
  have inPlace :
      lowerBetween before.toList.reverse text.toList after.toList = lower text.toList := by
    rw [lower_eq_fold free, lowerBetween_eq_fold_iff]
    exact fun ends => free ends.mem
  rw [← inPlace] at contained
  rw [String.toList_append, String.toList_append]
  exact contained.trans (lowerBetween_infix_lower before.toList text.toList after.toList)

end Text

open Text

/-! ## Conditions -/

theorem satisfies_containing_of_untagged {reading : BooleanReading} {operand : String}
    (untagged : ∀ kind : Kind, ¬ kind.Begins operand) (text : String) (others : List String) :
    satisfies reading (.string (some text)) .containing (operand :: others) =
      .ok (containsFolded text operand) := by
  have present : (Value.string (some text)).isAbsent = false := rfl
  have readable : readOperand reading .string operand = .ok (.string (some operand)) := by
    rw [readOperand_of_untagged untagged, readWhole_string]
  exact satisfies_of_readable present (Kind.string_supports _) Operator.noConfusion readable others

/-- **What it means for a text to contain another.** A condition that asks for an operand in a text
is answered by whether the text contains it. A text contains itself, the empty text, and whatever is
contained in a text that it contains. Without capital sigmas a text contains another exactly if the
characters of the other one, each lowered on its own, stand one behind the other among those of the
text. Then either may be replaced by an equal text, as long as that has no capital sigma, too, and
the text still contains the other one when it is extended at both ends, by whichever texts. -/
theorem folded_part_contained (reading : BooleanReading) (others : List String) :
    (∀ text operand : String, (∀ kind : Kind, ¬ kind.Begins operand) →
      satisfies reading (.string (some text)) .containing (operand :: others) =
        .ok (containsFolded text operand)) ∧
    (∀ text, containsFolded text text = true) ∧
    (∀ text part inner, containsFolded text part = true → containsFolded part inner = true →
      containsFolded text inner = true) ∧
    (∀ text, containsFolded text "" = true) ∧
    ∀ text part : String, 'Σ' ∉ text.toList → 'Σ' ∉ part.toList →
      (containsFolded text part = true ↔ fold part.toList <:+: fold text.toList) ∧
      (∀ text' part' : String, 'Σ' ∉ text'.toList → 'Σ' ∉ part'.toList →
        compareFolded text text' = .eq → compareFolded part part' = .eq →
          containsFolded text' part' = containsFolded text part) ∧
      (∀ before after : String, containsFolded text part = true →
        containsFolded (before ++ text ++ after) part = true) := by
  refine ⟨?_, containsFolded_refl, ?_, containsFolded_empty, ?_⟩
  · intro text operand untagged
    exact satisfies_containing_of_untagged untagged text others
  · intro text part inner contained within
    exact containsFolded_trans contained within
  · intro text part free partFree
    refine ⟨containsFolded_iff_fold free partFree, ?_, ?_⟩
    · intro text' part' free' partFree' equal partEqual
      exact containsFolded_congr free partFree free' partFree' equal partEqual
    · intro before after contained
      exact containsFolded_append free before after contained

/-- A part may begin within a letter that is lowered to two characters, and an equal text may have
the two in place of the letter. -/
theorem folded_part_contained_dotted :
    ((∀ kind : Kind, ¬ kind.Begins "İST") ∧
      satisfies .lenient (.string (some "İstanbul")) .containing ["İST"] = .ok true) ∧
    (containsFolded "İstanbul" "İST" = true ∧ containsFolded "İST" "\u0307S" = true ∧
      containsFolded "İstanbul" "\u0307S" = true) ∧
    'Σ' ∉ "İstanbul".toList ∧ 'Σ' ∉ "İST".toList ∧
      fold "İST".toList <:+: fold "İstanbul".toList ∧
      ('Σ' ∉ "i\u0307STANBUL".toList ∧ 'Σ' ∉ "i\u0307st".toList ∧
        compareFolded "İstanbul" "i\u0307STANBUL" = .eq ∧ compareFolded "İST" "i\u0307st" = .eq ∧
        containsFolded "i\u0307STANBUL" "i\u0307st" = true) ∧
      containsFolded ("ΟΔΟΣ" ++ "İstanbul" ++ "Σ") "İST" = true := by
  obtain ⟨answers, -, transitive, -, sigmaless⟩ := folded_part_contained .lenient []
  have untagged : ∀ kind : Kind, ¬ kind.Begins "İST" := by
    intro kind
    cases kind <;> decide
  have contained : containsFolded "İstanbul" "İST" = true := by decide +kernel
  have within : containsFolded "İST" "\u0307S" = true := by decide +kernel
  have free : 'Σ' ∉ "İstanbul".toList := by decide
  have partFree : 'Σ' ∉ "İST".toList := by decide
  have free' : 'Σ' ∉ "i\u0307STANBUL".toList := by decide
  have partFree' : 'Σ' ∉ "i\u0307st".toList := by decide
  have equal : compareFolded "İstanbul" "i\u0307STANBUL" = .eq := by decide +kernel
  have partEqual : compareFolded "İST" "i\u0307st" = .eq := by decide +kernel
  obtain ⟨folded, replaced, extended⟩ := sigmaless _ _ free partFree
  refine ⟨⟨untagged, ?_⟩, ⟨contained, within, transitive _ _ _ contained within⟩, free, partFree,
    folded.mp contained, ⟨free', partFree', equal, partEqual, ?_⟩, extended _ _ contained⟩
  · rw [answers _ _ untagged, contained]
  · rw [replaced _ _ free' partFree' equal partEqual, contained]

end Listing
