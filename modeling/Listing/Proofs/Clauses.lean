import Listing.Condition.Parser
import Listing.Proofs.Outcome
import Listing.Proofs.Text
import Listing.SortKey

/-!
# `Listing/Proofs/Clauses.lean` — expressions are read clause by clause

A filter and a sort order are both written as clauses with semicolons between them, and both say
that blanks around a clause do not count, nor clauses without anything in them. But they take care
of blanks in different places. A filter trims its clauses before it reads them, so that conditions
never see a blank. A sort order only looks for clauses that are not blank and leaves the trimming to
the sort key, which reports the clause as it was written.

For all the rest the two are alike, and a filter has the clauses of a sort order, but trimmed
(`Condition.clauses_eq_map_trimmed`). So there is one thing to show: what is *visible* of an
expression, its trimmed clauses without the blank ones, does not change when blanks are put in
(`Spaced.visible`). A filter is read from just that. Of a sort order it decides whether it can be
read and as what, but the report of a bad clause may have other blanks (`SortKey.parse_sameResult`).

**`parse_clausewise`** puts this together.
-/

set_option autoImplicit false

namespace Listing

open Outcome Text

/-! ## Blanks between clauses -/

/-- A text with nothing to be seen in it. -/
def Blank (cs : List Char) : Prop :=
  ∀ c ∈ cs, isBlank c = true

theorem Blank.separator_notMem {cs : List Char} (blank : Blank cs) : ';' ∉ cs := by
  intro mem
  have isBlank := blank ';' mem
  revert isBlank
  decide

/-- The second list has the pieces of the first in their order, with blanks around them, and blank
pieces anywhere between. -/
inductive Spaced : List (List Char) → List (List Char) → Prop where
  | nil : Spaced [] []
  | piece {before piece after : List Char} {pieces spaced : List (List Char)}
      (blankBefore : Blank before) (blankAfter : Blank after) (rest : Spaced pieces spaced) :
      Spaced (piece :: pieces) ((before ++ piece ++ after) :: spaced)
  | blank {piece : List Char} {pieces spaced : List (List Char)}
      (blank : Blank piece) (rest : Spaced pieces spaced) : Spaced pieces (piece :: spaced)

/-- The second expression is the first one with blanks around its clauses and with blank clauses
between them. -/
def Respaces (text again : String) : Prop :=
  ∃ spaced, Spaced (split ';' text.toList) spaced ∧ again = String.ofList (join ';' spaced)

namespace Spaced

variable {pieces spaced : List (List Char)}

/-- Blanks change nothing of what is visible. -/
theorem visible (h : Spaced pieces spaced) :
    (spaced.map trim).filter (· ≠ []) = (pieces.map trim).filter (· ≠ []) := by
  induction h with
  | nil => rfl
  | piece blankBefore blankAfter _ ih =>
    rw [List.map_cons, List.map_cons, trim_append_of_blank _ blankBefore blankAfter,
      List.filter_cons, List.filter_cons, ih]
  | blank blank _ ih =>
    rw [List.map_cons, trim_eq_nil_iff.mpr blank, List.filter_cons_of_neg (by simp), ih]

theorem separator_notMem (h : Spaced pieces spaced) (absent : ∀ piece ∈ pieces, ';' ∉ piece) :
    ∀ piece ∈ spaced, ';' ∉ piece := by
  induction h with
  | nil => exact absent
  | piece blankBefore blankAfter _ ih =>
    obtain ⟨head, rest⟩ := List.forall_mem_cons.mp absent
    refine List.forall_mem_cons.mpr ⟨?_, ih rest⟩
    simp [head, blankBefore.separator_notMem, blankAfter.separator_notMem]
  | blank blank _ ih => exact List.forall_mem_cons.mpr ⟨blank.separator_notMem, ih absent⟩

theorem ne_nil (h : Spaced pieces spaced) (some : pieces ≠ []) : spaced ≠ [] := by
  cases h with
  | nil => exact some
  | piece _ _ _ => exact List.cons_ne_nil _ _
  | blank _ _ => exact List.cons_ne_nil _ _

end Spaced

/-- Blank pieces that are put in are pieces of the new expression, and no piece falls in two. -/
theorem Respaces.spaced {text again : String} (h : Respaces text again) :
    Spaced (split ';' text.toList) (split ';' again.toList) := by
  obtain ⟨spaced, isSpaced, rfl⟩ := h
  have absent := isSpaced.separator_notMem fun _ => separator_notMem_of_mem_split
  rwa [String.toList_ofList, split_join (isSpaced.ne_nil (split_ne_nil _)) absent]

/-- A semicolon parts the clauses before it from the clauses behind it. -/
theorem split_separated (left right : String) :
    split ';' (left ++ ";" ++ right).toList =
      split ';' left.toList ++ split ';' right.toList := by
  rw [String.append_assoc, String.toList_append, String.toList_append]
  exact split_append left.toList right.toList

theorem forall_mem_iff_forall_split {p : Char → Prop} {cs : List Char} :
    (∀ c ∈ cs, c = ';' ∨ p c) ↔ ∀ piece ∈ split ';' cs, ∀ c ∈ piece, p c := by
  have whole : join ';' (split ';' cs) = cs := join_split cs
  constructor
  · intro all piece isPiece c mem
    have inside : c ∈ cs := whole ▸ mem_join_of_mem isPiece mem
    rcases all c inside with rfl | holds
    · exact absurd mem (separator_notMem_of_mem_split isPiece)
    · exact holds
  · intro all c mem
    rw [← whole] at mem
    refine (mem_join mem).imp_right ?_
    intro ⟨piece, isPiece, inside⟩
    exact all piece isPiece c inside

/-! ## Clauses -/

namespace SortKey

theorem clauses_separated (left right : String) :
    clauses (left ++ ";" ++ right) = clauses left ++ clauses right := by
  simp only [clauses, split_separated, List.map_append, List.filter_append]

/-- A text without semicolons is one clause, if there is anything to be seen in it. -/
theorem clauses_of_notMem {text : String} (absent : ';' ∉ text.toList)
    (visible : ¬ Blank text.toList) : clauses text = [text] := by
  have kept : trim text.toList ≠ [] := fun none => visible (trim_eq_nil_iff.mp none)
  unfold clauses
  rw [split_of_notMem absent, List.filter_singleton, decide_eq_true kept, cond_true,
    List.map_singleton, String.ofList_toList]

/-- There are no clauses in an expression of nothing but semicolons and blanks. -/
theorem clauses_eq_nil_iff {text : String} :
    clauses text = [] ↔ ∀ c ∈ text.toList, c = ';' ∨ isBlank c = true := by
  unfold clauses
  rw [List.map_eq_nil_iff, List.filter_eq_nil_iff, forall_mem_iff_forall_split]
  refine forall₂_congr fun piece _ => ?_
  rw [decide_eq_true_iff, not_not, trim_eq_nil_iff]

end SortKey

namespace Condition

/-- A filter has the clauses that a sort order has, but trimmed. -/
theorem clauses_eq_map_trimmed (text : String) :
    clauses text = (SortKey.clauses text).map trimmed := by
  unfold clauses SortKey.clauses
  rw [List.map_map, List.filter_map, List.map_map]
  refine List.map_congr_left fun piece _ => ?_
  rw [Function.comp_apply, Function.comp_apply, trimmed, String.toList_ofList]

theorem clauses_of_respaces {text again : String} (h : Respaces text again) :
    clauses again = clauses text := by
  unfold clauses
  rw [h.spaced.visible]

end Condition

/-! ## Sort orders -/

namespace SortKey

/-- A sort key is read from what is visible of a text, but its report shows all of it. -/
theorem parse_sameResult {text other : String} (same : trimmed text = trimmed other) :
    SameResult (parse text) (parse other) := by
  have visible : trim text.toList = trim other.toList := String.ofList_injective same
  unfold parse read
  rw [visible]
  cases trim other.toList with
  | nil => exact .refl _
  | cons first rest =>
    simp only
    cases splitDirection (first :: rest) with
    | error word => exact .error _ _
    | ok key =>
      by_cases named : isIdentifier key.1 = true
      · simp only [if_pos named]
        exact .refl _
      · simp only [if_neg named]
        exact .error _ _

theorem parseOrder_of_respaces {order again : String} (h : Respaces order again) :
    SameResult (parseOrder again) (parseOrder order) := by
  have trimmedAlike := Condition.clauses_of_respaces h
  rw [Condition.clauses_eq_map_trimmed, Condition.clauses_eq_map_trimmed, ← List.forall₂_eq_eq_eq,
    List.forall₂_map_left_iff, List.forall₂_map_right_iff] at trimmedAlike
  exact .mapM (trimmedAlike.imp fun _ _ => parse_sameResult)

theorem exists_cause_of_parseOrder {order : String} {fault : Fault}
    (h : parseOrder order = .error fault) : ∃ cause, fault = .badSortKey cause := by
  obtain ⟨text, -, fails⟩ := mapM_eq_error_iff.mp h
  obtain ⟨cause, -, rfl⟩ := mapError_eq_error_iff.mp fails
  exact ⟨cause, rfl⟩

end SortKey

/-! ## Both -/

/-- **Expressions are read clause by clause.** Two expressions with a semicolon between them are
read one after the other: the first fault of the left one counts, then that of the right one, and
otherwise the two results are put together. A single clause, in which something is to be seen, is
one condition or one key. Blanks around clauses and blank clauses, as many as one likes, change
nothing in how a filter is read, in success or with a fault; with a sort order they do not change
whether it is read and as what, and its faults are bad sort keys in any case. Nothing is read from
semicolons and blanks, and from nothing else. -/
theorem parse_clausewise :
    (∀ left right, Condition.parseFilter (left ++ ";" ++ right) = do
      let conditions ← Condition.parseFilter left
      let more ← Condition.parseFilter right
      return conditions ++ more) ∧
    (∀ left right, SortKey.parseOrder (left ++ ";" ++ right) = do
      let keys ← SortKey.parseOrder left
      let more ← SortKey.parseOrder right
      return keys ++ more) ∧
    (∀ clause : String, ';' ∉ clause.toList → ¬ Blank clause.toList →
      Condition.parseFilter clause = List.singleton <$> Condition.parse (trimmed clause) ∧
      SortKey.parseOrder clause = List.singleton <$> SortKey.parse clause) ∧
    (∀ text again, Respaces text again →
      Condition.parseFilter again = Condition.parseFilter text ∧
      SameResult (SortKey.parseOrder again) (SortKey.parseOrder text)) ∧
    (∀ order fault, SortKey.parseOrder order = .error fault →
      ∃ cause, fault = .badSortKey cause) ∧
    ∀ text : String,
      (Condition.parseFilter text = .ok [] ↔ ∀ c ∈ text.toList, c = ';' ∨ isBlank c = true) ∧
      (SortKey.parseOrder text = .ok [] ↔ ∀ c ∈ text.toList, c = ';' ∨ isBlank c = true) := by
  refine ⟨?_, ?_, ?_, ?_, ?_, ?_⟩
  · intro left right
    unfold Condition.parseFilter
    rw [Condition.clauses_eq_map_trimmed, SortKey.clauses_separated, List.map_append,
      List.mapM_append, ← Condition.clauses_eq_map_trimmed, ← Condition.clauses_eq_map_trimmed]
  · intro left right
    unfold SortKey.parseOrder
    rw [SortKey.clauses_separated, List.mapM_append]
  · intro clause absent visible
    unfold Condition.parseFilter SortKey.parseOrder
    rw [Condition.clauses_eq_map_trimmed, SortKey.clauses_of_notMem absent visible]
    exact ⟨mapM_singleton _ _, mapM_singleton _ _⟩
  · intro text again respaces
    refine ⟨?_, SortKey.parseOrder_of_respaces respaces⟩
    unfold Condition.parseFilter
    rw [Condition.clauses_of_respaces respaces]
  · intro order fault fails
    exact SortKey.exists_cause_of_parseOrder fails
  · intro text
    unfold Condition.parseFilter SortKey.parseOrder
    rw [mapM_eq_ok_nil_iff, mapM_eq_ok_nil_iff, Condition.clauses_eq_map_trimmed,
      List.map_eq_nil_iff, SortKey.clauses_eq_nil_iff]
    exact ⟨Iff.rfl, Iff.rfl⟩

/-- A bad clause stays the one that is reported. As a condition it is reported trimmed, as a sort
key with the blank behind it. -/
theorem parse_clausewise_ideographic_blanks :
    let text := "-name;age:up"
    let again := "\u3000-name ;;age:up\u3000"
    Respaces text again ∧ Condition.parseFilter again = Condition.parseFilter text ∧
      SameResult (SortKey.parseOrder again) (SortKey.parseOrder text) ∧
      SortKey.parseOrder again =
        .error (.badSortKey (.directionUnknown "up" "age:up\u3000")) ∧
      (∃ cause, Fault.badSortKey (.directionUnknown "up" "age:up\u3000") = .badSortKey cause) ∧
      ';' ∉ "-name ".toList ∧ ¬ Blank "-name ".toList ∧
      Condition.parseFilter "-name " = List.singleton <$> Condition.parse (trimmed "-name ") ∧
      SortKey.parseOrder "-name " = List.singleton <$> SortKey.parse "-name " := by
  intro text again
  have ideographic : Blank ['\u3000'] := List.forall_mem_singleton.mpr (by decide)
  have ascii : Blank [' '] := List.forall_mem_singleton.mpr (by decide)
  have nothing : Blank [] := List.forall_mem_nil _
  have pieces : split ';' "-name;age:up".toList = ["-name".toList, "age:up".toList] := by rfl
  have spaced : Spaced ["-name".toList, "age:up".toList]
      [['\u3000'] ++ "-name".toList ++ [' '], [], [] ++ "age:up".toList ++ ['\u3000']] :=
    .piece ideographic ascii (.blank nothing (.piece nothing ideographic .nil))
  rw [← pieces] at spaced
  have respaces : Respaces text again := ⟨_, spaced, by rfl⟩
  have fails : SortKey.parseOrder "\u3000-name ;;age:up\u3000" =
      .error (.badSortKey (.directionUnknown "up" "age:up\u3000")) := by rfl
  have absent : ';' ∉ "-name ".toList := by decide
  have visible : ¬ Blank "-name ".toList := by
    intro blank
    have first : isBlank '-' = true := blank '-' (by decide)
    cases first
  obtain ⟨-, -, single, padded, faults, -⟩ := parse_clausewise
  obtain ⟨sameFilter, sameOrder⟩ := padded text again respaces
  exact ⟨respaces, sameFilter, sameOrder, fails, faults again _ fails, absent, visible,
    single "-name " absent visible⟩

end Listing
