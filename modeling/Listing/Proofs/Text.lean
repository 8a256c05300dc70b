import Listing.Text.Ascii
import Listing.Text.Blank
import Listing.Text.Pieces
import Mathlib.Data.List.TakeWhile

/-!
# `Listing/Proofs/Text.lean` — cutting undoes joining, and trimming finds nothing to do

The definitions of `Listing/Text/` come with the half of their laws that reading needs: joining
the pieces of a text gives the text back. Statements about *written* texts need the other half:
what was put together from pieces is cut into the same pieces again (`split_join`), and a text
that begins and ends with something visible is left alone by trimming (`trim_eq_self`).

Both come from one law about the front of a text each: `split_append` for cutting, and
`List.dropWhile` on a list whose first element stays.
-/

set_option autoImplicit false

namespace Listing.Text

variable {separator : Char}

/-! ## Pieces -/

/-- A separator parts the pieces before it from the pieces behind it. -/
theorem split_append (left right : List Char) :
    split separator (left ++ separator :: right) =
      split separator left ++ split separator right := by
  induction left with
  | nil => rw [List.nil_append, split_cons, if_pos rfl, split_nil, List.singleton_append]
  | cons c left ih =>
    rw [List.cons_append, split_cons, split_cons, ih]
    by_cases eq : c = separator
    · rw [if_pos eq, if_pos eq, List.cons_append]
    · rw [if_neg eq, if_neg eq]
      -- There is a first piece on the left, and the character goes in front of that one.
      cases pieces : Text.split separator left with
      | nil => exact absurd pieces (split_ne_nil left)
      | cons piece rest => rfl

theorem split_of_notMem {cs : List Char} (absent : separator ∉ cs) :
    split separator cs = [cs] := by
  induction cs with
  | nil => rfl
  | cons c cs ih =>
    obtain ⟨ne, absent⟩ := List.ne_and_not_mem_of_not_mem_cons absent
    rw [split_cons, if_neg (Ne.symm ne), ih absent, extendFirst]

/-- Where the first separator stands, a text falls into the same two parts however it is seen. -/
theorem append_separator_inj {before behind before' behind' : List Char}
    (h : before ++ separator :: behind = before' ++ separator :: behind')
    (absent : separator ∉ before) (absent' : separator ∉ before') :
    before = before' ∧ behind = behind' := by
  have cut := cut?_eq_some_iff.mpr ⟨h.symm, absent⟩
  rw [cut?_eq_some_iff.mpr ⟨rfl, absent'⟩, Option.some.injEq, Prod.mk.injEq] at cut
  exact ⟨cut.1.symm, cut.2.symm⟩

/-- A text that a word without separators begins has the word in front of its first separator. -/
theorem prefix_append_separator_iff {word before behind : List Char} (absent : separator ∉ word) :
    word <+: before ++ separator :: behind ↔ word <+: before := by
  constructor
  · intro h
    -- Two texts that begin the same one are in line: the word ends before the separator, or it
    -- goes beyond it and holds it.
    have front : before ++ [separator] <+: before ++ separator :: behind :=
      ⟨behind, by rw [List.append_assoc, List.singleton_append]⟩
    rcases List.prefix_or_prefix_of_prefix h front with short | long
    · rcases List.prefix_concat_iff.mp short with rfl | short
      · exact absurd (List.mem_append_right before List.mem_cons_self) absent
      · exact short
    · exact absurd (long.subset (List.mem_append_right before List.mem_cons_self)) absent
  · intro h
    exact h.trans (List.prefix_append before _)

/-- Joined pieces without separators are cut into the same pieces again. No pieces at all are the
exception: they join to the empty text, which is one piece. -/
theorem split_join {pieces : List (List Char)} (some : pieces ≠ [])
    (absent : ∀ piece ∈ pieces, separator ∉ piece) :
    split separator (join separator pieces) = pieces := by
  induction pieces with
  | nil => exact absurd rfl some
  | cons piece rest ih =>
    have first := split_of_notMem (absent piece List.mem_cons_self)
    cases rest with
    | nil => rw [join_singleton, first]
    | cons next rest =>
      have others := ih (List.cons_ne_nil next rest) fun piece mem =>
        absent piece (List.mem_cons_of_mem _ mem)
      rw [join_cons_cons, split_append, first, others, List.singleton_append]

theorem mem_join {pieces : List (List Char)} {c : Char} (mem : c ∈ join separator pieces) :
    c = separator ∨ ∃ piece ∈ pieces, c ∈ piece := by
  induction pieces with
  | nil => cases mem
  | cons piece rest ih =>
    cases rest with
    | nil =>
      rw [join_singleton] at mem
      exact .inr ⟨piece, List.mem_cons_self, mem⟩
    | cons next rest =>
      rw [join_cons_cons, List.mem_append, List.mem_cons] at mem
      rcases mem with inside | rfl | behind
      · exact .inr ⟨piece, List.mem_cons_self, inside⟩
      · exact .inl rfl
      · exact (ih behind).imp_right fun ⟨piece, mem, inside⟩ =>
          ⟨piece, List.mem_cons_of_mem _ mem, inside⟩

theorem mem_join_of_mem {piece : List Char} {pieces : List (List Char)} {c : Char}
    (mem : piece ∈ pieces) (inside : c ∈ piece) : c ∈ join separator pieces := by
  induction pieces with
  | nil => cases mem
  | cons first rest ih =>
    cases rest with
    | nil =>
      rw [join_singleton]
      rwa [← List.mem_singleton.mp mem]
    | cons next rest =>
      rw [join_cons_cons, List.mem_append]
      rcases List.mem_cons.mp mem with rfl | mem
      · exact .inl inside
      · exact .inr (List.mem_cons_of_mem _ (ih mem))

/-! ## Runs -/

/-- A run of characters ends where the first one comes that is not of its class. -/
theorem takeWhile_append_of_stops {p : Char → Bool} {cs ds : List Char}
    (inside : ∀ c ∈ cs, p c = true) (stops : ∀ c ∈ ds.head?, p c = false) :
    (cs ++ ds).takeWhile p = cs ∧ (cs ++ ds).dropWhile p = ds := by
  rw [List.takeWhile_append_of_pos inside, List.dropWhile_append_of_pos inside]
  cases ds with
  | nil => simp
  | cons d ds => simp_all

/-! ## Trimming -/

theorem mem_of_mem_trim {cs : List Char} {c : Char} (mem : c ∈ trim cs) : c ∈ cs := by
  unfold trim at mem
  rw [List.mem_reverse] at mem
  have mem := (List.dropWhile_sublist isBlank).subset mem
  rw [List.mem_reverse] at mem
  exact (List.dropWhile_sublist isBlank).subset mem

/-- A text with something visible at both ends is left alone. -/
theorem trim_eq_self {first last : Char} {cs inner : List Char} (front : cs = first :: inner)
    (back : cs.getLast? = some last) (firstVisible : isBlank first = false)
    (lastVisible : isBlank last = false) : trim cs = cs := by
  have kept : cs.dropWhile isBlank = cs := by
    rw [front, List.dropWhile_cons_of_neg (by rw [firstVisible]; exact Bool.false_ne_true)]
  have turned : cs.reverse.dropWhile isBlank = cs.reverse := by
    rw [← List.head?_reverse] at back
    obtain ⟨rest, eq⟩ := List.head?_eq_some_iff.mp back
    rw [eq, List.dropWhile_cons_of_neg (by rw [lastVisible]; exact Bool.false_ne_true)]
  rw [trim, kept, turned, List.reverse_reverse]

/-- Blanks around a text are trimmed with its own. -/
theorem trim_append_of_blank {before after : List Char} (cs : List Char)
    (blankBefore : ∀ c ∈ before, isBlank c = true) (blankAfter : ∀ c ∈ after, isBlank c = true) :
    trim (before ++ cs ++ after) = trim cs := by
  have front : (before ++ cs ++ after).dropWhile isBlank = (cs ++ after).dropWhile isBlank := by
    rw [List.append_assoc, List.dropWhile_append_of_pos blankBefore]
  by_cases blank : ∀ c ∈ cs, isBlank c = true
  · -- Nothing is visible, and the blanks behind are dropped from the front, too.
    have all : ∀ c ∈ cs ++ after, isBlank c = true := List.forall_mem_append.mpr ⟨blank, blankAfter⟩
    rw [trim_eq_nil_iff.mpr blank, trim, front, List.dropWhile_eq_nil_iff.mpr all]
    rfl
  · have visible : (cs.dropWhile isBlank).isEmpty = false := by
      rw [List.isEmpty_eq_false_iff]
      exact fun none => blank (List.dropWhile_eq_nil_iff.mp none)
    have blankTurned : ∀ c ∈ after.reverse, isBlank c = true :=
      fun c mem => blankAfter c (List.mem_reverse.mp mem)
    rw [trim, front, List.dropWhile_append, visible, if_neg Bool.false_ne_true,
      List.reverse_append, List.dropWhile_append_of_pos blankTurned, trim]

/-! ## Identifiers -/

theorem exists_cons_of_isIdentifier {cs : List Char} (h : isIdentifier cs = true) :
    ∃ first rest, cs = first :: rest ∧ isIdentifierChar first = true := by
  cases cs with
  | nil => cases h
  | cons first rest =>
    simp only [isIdentifier, List.all_cons, Bool.and_eq_true] at h
    exact ⟨first, rest, rfl, h.2.1⟩

theorem notMem_of_isIdentifier {cs : List Char} {c : Char} (h : isIdentifier cs = true)
    (other : isIdentifierChar c = false) : c ∉ cs := by
  intro mem
  simp only [isIdentifier, Bool.and_eq_true, List.all_eq_true] at h
  rw [h.2 c mem] at other
  cases other

/-- Identifiers are visible: their characters stand between `0` and `z`, and no blank does. -/
theorem isBlank_of_isIdentifierChar {c : Char} (h : isIdentifierChar c = true) :
    isBlank c = false := by
  have bounds : 0x30 ≤ c.toNat ∧ c.toNat ≤ 0x7A := by
    have ranges : (decide ('A'.val ≤ c.val ∧ c.val ≤ 'Z'.val) ||
        ('a'.val ≤ c.val && c.val ≤ 'z'.val) || ('0'.val ≤ c.val && c.val ≤ '9'.val) ||
        c == '_') = true := h
    simp only [UInt32.le_iff_toNat_le, Bool.or_eq_true, Bool.and_eq_true, decide_eq_true_eq,
      beq_iff_eq] at ranges
    rcases ranges with ((⟨low, high⟩ | ⟨low, high⟩) | ⟨low, high⟩) | rfl
    · exact ⟨Nat.le_trans (by decide) low, Nat.le_trans high (by decide)⟩
    · exact ⟨Nat.le_trans (by decide) low, Nat.le_trans high (by decide)⟩
    · exact ⟨Nat.le_trans (by decide) low, Nat.le_trans high (by decide)⟩
    · decide
  rw [isBlank, Bool.eq_false_iff, ne_eq, Ranges.covers_iff ascending_blankRanges]
  rintro ⟨range, mem, low, high⟩
  simp only [blankRanges, List.mem_cons, List.not_mem_nil, or_false] at mem
  rcases mem with rfl | rfl | rfl | rfl | rfl | rfl | rfl | rfl | rfl | rfl <;>
    simp only at low high <;> omega

end Listing.Text
