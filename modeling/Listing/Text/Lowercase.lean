import Listing.Text.LetterCase

/-!
# `Listing/Text/Lowercase.lean` — comparing and searching text without regard to case

String fields are compared and searched on lower-cased text, by two rules that look alike:

* **Comparing** (`compareFolded`) lowers every character *on its own*. One character may become
  two (`İ` becomes `i` and a dot above), and a capital sigma always becomes `σ`.
* **Searching** (`containsFolded`) lowers each text *as a whole* (`lower`). That differs in one
  place: a capital sigma at the end of a word becomes the final sigma `ς`.

So two texts may compare equal while neither contains the other: `ΟΔΟΣ` and `οδοσ` do, because the
first ends in a final sigma once it is lowered as a whole. Away from the capital sigma the rules
are the same; that is `lower_eq_fold`.
-/

set_option autoImplicit false

namespace Listing.Text

/-! ## One character at a time -/

/-- The lower-case form of a character: of one character, except for the capital `İ`. -/
def foldChar (c : Char) : List Char :=
  if c = '\u0130' then ['i', '\u0307']
  else match lowerIn? lowerRuns c.toNat with
    | some n => [Char.ofNat n]
    | none => [c]

theorem foldChar_of_lt {c : Char} (h : c.toNat < 128) : foldChar c = [c.toLower] := by
  have all : ∀ n : Fin 128, foldChar (Char.ofNat n) = [(Char.ofNat n).toLower] := by
    decide +kernel
  simpa using all ⟨c.toNat, h⟩

/-- A text with every character lowered on its own. -/
def fold (cs : List Char) : List Char :=
  cs.flatMap foldChar

@[simp] theorem fold_nil : fold [] = [] := rfl

@[simp] theorem fold_cons (c : Char) (cs : List Char) : fold (c :: cs) = foldChar c ++ fold cs :=
  rfl

@[simp] theorem fold_append (left right : List Char) :
    fold (left ++ right) = fold left ++ fold right := by
  simp [fold]

/-- The order of two texts without regard to case: by the code points of the lowered texts, a
shorter text before its extensions. -/
def compareFolded (left right : String) : Ordering :=
  compare (fold left.toList) (fold right.toList)

theorem compareFolded_eq_iff {left right : String} :
    compareFolded left right = .eq ↔ fold left.toList = fold right.toList :=
  Std.LawfulEqOrd.compare_eq_iff_eq

/-! ## The text as a whole -/

/-- Whether the next letter, past characters that do not end a word, is cased. -/
def meetsCased (cs : List Char) : Bool :=
  match cs.dropWhile fun c => caseIgnorableRanges.covers c.toNat with
  | [] => false
  | c :: _ => casedRanges.covers c.toNat

/-- A sigma is final when a letter comes before it in the word and none after it. The text before
is given last character first. -/
def endsWord (before after : List Char) : Bool :=
  meetsCased before && !meetsCased after

/-- The lower-case form of a character between the text before it, last character first, and the
text after it. -/
def lowerChar (before : List Char) (c : Char) (after : List Char) : List Char :=
  if c = 'Σ' && endsWord before after then ['ς'] else foldChar c

/-- Lowers a text that stands after `before`, which is given last character first. -/
def lowerAfter (before : List Char) : List Char → List Char
  | [] => []
  | c :: after => lowerChar before c after ++ lowerAfter (c :: before) after

/-- A text lowered as a whole. -/
def lower (cs : List Char) : List Char :=
  lowerAfter [] cs

/-- Without a capital sigma it makes no difference whether characters are lowered one by one. -/
theorem lower_eq_fold {cs : List Char} (h : 'Σ' ∉ cs) : lower cs = fold cs := by
  have main : ∀ before, lowerAfter before cs = fold cs := by
    induction cs with
    | nil => exact fun _ => rfl
    | cons c cs ih =>
      intro before
      have ne : c ≠ 'Σ' := fun eq => h (eq ▸ List.mem_cons_self)
      rw [lowerAfter, ih (fun mem => h (List.mem_cons_of_mem _ mem)), fold_cons, lowerChar]
      simp [ne]
  exact main []

/-! ## Searching -/

/-- Whether `part` stands somewhere in `cs`. -/
def occursIn (part : List Char) : List Char → Bool
  | [] => part.isEmpty
  | c :: cs => part.isPrefixOf (c :: cs) || occursIn part cs

theorem occursIn_iff {part cs : List Char} : occursIn part cs = true ↔ part <:+: cs := by
  induction cs with
  | nil => simp [occursIn]
  | cons c cs ih =>
    rw [occursIn, Bool.or_eq_true, ih, List.isPrefixOf_iff_prefix, List.infix_cons_iff]

/-- Whether `text` contains `part` without regard to case, both lowered as a whole. Every text
contains the empty one. -/
def containsFolded (text part : String) : Bool :=
  occursIn (lower part.toList) (lower text.toList)

end Listing.Text
