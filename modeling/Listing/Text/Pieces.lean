/-!
# `Listing/Text/Pieces.lean` — cutting a text at a separator

Filter and sort expressions are cut at `;` and operand lists at `,`. There is no way to write a
separator inside a piece, so cutting is simple: every separator ends a piece, and a text with
`n` separators has `n + 1` pieces, empty ones included. `join` puts the separators back, and
`join_split` says that nothing else was lost.

A single clause is taken apart from left to right instead, one separator at a time: `cut?` gives
what stands before the first occurrence of a character and what stands after it.
-/

set_option autoImplicit false

namespace Listing.Text

/-- Puts a character in front of the first of some pieces. -/
def extendFirst (c : Char) : List (List Char) → List (List Char)
  | [] => [[c]]
  | piece :: pieces => (c :: piece) :: pieces

/-- The pieces of a text between its separators. -/
def split (separator : Char) (cs : List Char) : List (List Char) :=
  cs.foldr (fun c pieces => if c = separator then [] :: pieces else extendFirst c pieces) [[]]

/-- Pieces written one after the other with a separator between each two. -/
def join (separator : Char) (pieces : List (List Char)) : List Char :=
  List.intercalate [separator] pieces

variable {separator : Char}

@[simp] theorem split_nil : split separator [] = [[]] := rfl

theorem split_cons (c : Char) (cs : List Char) :
    split separator (c :: cs) =
      if c = separator then [] :: split separator cs else extendFirst c (split separator cs) :=
  rfl

theorem split_ne_nil (cs : List Char) : split separator cs ≠ [] := by
  cases cs with
  | nil => simp
  | cons c cs =>
    rw [split_cons]
    split
    · simp
    · cases Text.split separator cs <;> simp [extendFirst]

@[simp] theorem join_nil : join separator [] = [] := rfl

@[simp] theorem join_singleton (piece : List Char) : join separator [piece] = piece := by
  simp [join, List.intercalate]

theorem join_cons_cons (piece next : List Char) (pieces : List (List Char)) :
    join separator (piece :: next :: pieces) =
      piece ++ separator :: join separator (next :: pieces) := by
  simp [join, List.intercalate]

theorem join_split (cs : List Char) : join separator (split separator cs) = cs := by
  induction cs with
  | nil => simp
  | cons c cs ih =>
    rw [split_cons]
    cases pieces : Text.split separator cs with
    | nil => exact absurd pieces (split_ne_nil cs)
    | cons piece rest =>
      rw [pieces] at ih
      split
      · next eq => rw [join_cons_cons, ih, eq, List.nil_append]
      · cases rest with
        | nil => simpa [extendFirst] using ih
        | cons next rest =>
          rw [extendFirst, join_cons_cons, List.cons_append, ← join_cons_cons, ih]

theorem separator_notMem_of_mem_split {cs piece : List Char} (mem : piece ∈ split separator cs) :
    separator ∉ piece := by
  induction cs generalizing piece with
  | nil => simp_all
  | cons c cs ih =>
    rw [split_cons] at mem
    split at mem
    · rcases List.mem_cons.mp mem with rfl | mem
      · simp
      · exact ih mem
    · next ne =>
      cases pieces : Text.split separator cs with
      | nil => exact absurd pieces (split_ne_nil cs)
      | cons first rest =>
        rw [pieces] at ih mem
        rcases List.mem_cons.mp mem with rfl | mem
        · intro inside
          rcases List.mem_cons.mp inside with eq | inside
          · exact ne eq.symm
          · exact ih List.mem_cons_self inside
        · exact ih (List.mem_cons_of_mem _ mem)

/-! ## The first occurrence -/

/-- The text before and the text after the first occurrence of a character, if it occurs. -/
def cut? (separator : Char) : List Char → Option (List Char × List Char)
  | [] => none
  | c :: cs =>
    if c = separator then some ([], cs)
    else (cut? separator cs).map fun (before, after) => (c :: before, after)

/-- A cut happens at the separator, and at no later one. -/
theorem cut?_eq_some_iff {cs before after : List Char} :
    cut? separator cs = some (before, after) ↔
      cs = before ++ separator :: after ∧ separator ∉ before := by
  induction cs generalizing before with
  | nil => simp [cut?]
  | cons c cs ih =>
    rw [cut?]
    split
    · next eq =>
      constructor
      · rintro ⟨⟩
        simp [eq]
      · rintro ⟨shape, absent⟩
        cases before with
        | nil => simp_all
        | cons b before => simp_all
    · next ne =>
      simp only [Option.map_eq_some_iff, Prod.exists, Prod.mk.injEq]
      constructor
      · rintro ⟨before', after', found, rfl, rfl⟩
        obtain ⟨rfl, absent⟩ := ih.mp found
        simp [absent, Ne.symm ne]
      · rintro ⟨shape, absent⟩
        cases before with
        | nil => simp_all
        | cons b before =>
          simp only [List.cons_append, List.cons.injEq] at shape
          exact ⟨before, after, ih.mpr ⟨shape.2, fun mem => absent (List.mem_cons_of_mem _ mem)⟩,
            by simp [shape.1], rfl⟩

/-- There is no cut exactly where there is no separator. -/
theorem cut?_eq_none_iff {cs : List Char} : cut? separator cs = none ↔ separator ∉ cs := by
  induction cs with
  | nil => simp [cut?]
  | cons c cs ih =>
    rw [cut?]
    split
    · next eq => simp [eq]
    · next ne => simp [ih, Ne.symm ne]

end Listing.Text
