import Mathlib.Data.List.Forall2

/-!
# `Listing/Proofs/Outcome.lean` — taking outcomes apart

Every operation of this library ends in a result or in a fault, and the operations are put
together with `do`, `mapM` and `mapError`. The lemmas here say once what the outcome of such a
composition tells about its parts, so that no later proof opens a `do` block: a composition
succeeds when all parts do (`bind_eq_ok_iff`, `mapM_eq_ok_iff`), and it fails with the fault of
the first part that fails (`bind_eq_error_iff`, `mapM_eq_error_iff`). Where the outcome of a step
is known, `simp` goes on behind it.

Much in this library stops at the first element of a list that does not do. `FirstNot` says which
one that is, and `exists_firstNot_cons_iff` is the step that every induction over such a search
takes.

Two outcomes may have the same result, where they have one, and yet different faults. If faults are
found side by side, it may be open which of them is reported; if a text is written in another way,
its fault shows it so. `SameResult` looks at everything but the fault. `Entails` is one direction of
it: the second outcome has at least the results of the first.
-/

set_option autoImplicit false

namespace Listing.Outcome

variable {α β ε ε' : Type}

@[simp] theorem ok_bind (a : α) (next : α → Except ε β) : (Except.ok a >>= next) = next a :=
  rfl

@[simp] theorem error_bind (fault : ε) (next : α → Except ε β) :
    (Except.error fault >>= next) = .error fault :=
  rfl

@[simp] theorem pure_eq_ok (a : α) : (pure a : Except ε α) = .ok a :=
  rfl

theorem bind_eq_ok_iff {first : Except ε α} {next : α → Except ε β} {b : β} :
    (first >>= next) = .ok b ↔ ∃ a, first = .ok a ∧ next a = .ok b := by
  cases first with
  | error fault => simp
  | ok a => simp

/-- Two steps fail when the first does, or else when the second does. -/
theorem bind_eq_error_iff {first : Except ε α} {next : α → Except ε β} {fault : ε} :
    (first >>= next) = .error fault ↔
      first = .error fault ∨ ∃ a, first = .ok a ∧ next a = .error fault := by
  cases first with
  | error found => simp
  | ok a => simp

/-- What follows on two outcomes is the same if it looks only at what the two have in common. -/
theorem bind_eq_of_map_eq {γ : Type} {first second : Except ε α} {view : α → γ}
    {next : α → Except ε β} (same : view <$> first = view <$> second)
    (blind : ∀ a b, view a = view b → next a = next b) : (first >>= next) = (second >>= next) := by
  cases first with
  | error fault =>
    cases second with
    | error found => cases same; rfl
    | ok b => cases same
  | ok a =>
    cases second with
    | error found => cases same
    | ok b => exact blind a b (Except.ok.inj same)

theorem exists_error_iff {outcome : Except ε α} :
    (∃ fault, outcome = .error fault) ↔ ¬ ∃ a, outcome = .ok a := by
  cases outcome with
  | error fault => simp
  | ok a => simp

theorem mapError_eq_ok_iff {rename : ε → ε'} {outcome : Except ε α} {a : α} :
    outcome.mapError rename = .ok a ↔ outcome = .ok a := by
  cases outcome with
  | error fault => simp [Except.mapError]
  | ok found => simp [Except.mapError]

theorem mapError_eq_error_iff {rename : ε → ε'} {outcome : Except ε α} {renamed : ε'} :
    outcome.mapError rename = .error renamed ↔
      ∃ fault, outcome = .error fault ∧ rename fault = renamed := by
  cases outcome with
  | error found => simp [Except.mapError]
  | ok a => simp [Except.mapError]

/-- A list of steps succeeds when each does; the results stand in the order of the steps. -/
theorem mapM_eq_ok_iff {f : α → Except ε β} {as : List α} {bs : List β} :
    as.mapM f = .ok bs ↔ List.Forall₂ (fun a b => f a = .ok b) as bs := by
  induction as generalizing bs with
  | nil =>
    rw [List.mapM_nil, List.forall₂_nil_left_iff]
    exact ⟨fun h => (Except.ok.inj h).symm, fun h => by rw [h]; rfl⟩
  | cons a as ih =>
    rw [List.mapM_cons, bind_eq_ok_iff]
    constructor
    · rintro ⟨b, head, tail⟩
      obtain ⟨rest, restRead, done⟩ := bind_eq_ok_iff.mp tail
      rw [← Except.ok.inj done]
      exact .cons head (ih.mp restRead)
    · intro all
      obtain ⟨b, rest, head, tail, rfl⟩ := List.forall₂_cons_left_iff.mp all
      exact ⟨b, head, bind_eq_ok_iff.mpr ⟨rest, ih.mpr tail, rfl⟩⟩

theorem exists_mem_of_mapM {f : α → Except ε β} {as : List α} {bs : List β} {b : β}
    (h : as.mapM f = .ok bs) (mem : b ∈ bs) : ∃ a ∈ as, f a = .ok b := by
  have all := mapM_eq_ok_iff.mp h
  clear h
  induction all with
  | nil => cases mem
  | cons head tail ih =>
    rcases List.mem_cons.mp mem with rfl | mem
    · exact ⟨_, List.mem_cons_self, head⟩
    · obtain ⟨a, isStep, result⟩ := ih mem
      exact ⟨a, List.mem_cons_of_mem _ isStep, result⟩

theorem exists_mapM_eq_ok_iff {f : α → Except ε β} {as : List α} :
    (∃ bs, as.mapM f = .ok bs) ↔ ∀ a ∈ as, ∃ b, f a = .ok b := by
  induction as with
  | nil => simp
  | cons a as ih =>
    rw [List.mapM_cons, List.forall_mem_cons, ← ih]
    cases f a with
    | error fault => simp
    | ok b => cases as.mapM f <;> simp

/-- Only a list of no steps has no results. -/
theorem mapM_eq_ok_nil_iff {f : α → Except ε β} {as : List α} :
    as.mapM f = .ok [] ↔ as = [] := by
  rw [mapM_eq_ok_iff, List.forall₂_nil_right_iff]

theorem mapM_singleton (f : α → Except ε β) (a : α) : [a].mapM f = List.singleton <$> f a := by
  rw [List.mapM_cons, List.mapM_nil]
  cases f a <;> rfl

theorem mapM_congr {f g : α → Except ε β} {as : List α} (same : ∀ a ∈ as, f a = g a) :
    as.mapM f = as.mapM g := by
  induction as with
  | nil => rfl
  | cons a as ih =>
    obtain ⟨head, rest⟩ := List.forall_mem_cons.mp same
    rw [List.mapM_cons, List.mapM_cons, head, ih rest]

theorem mapM_eq_of_forall₂ {γ : Type} {f : α → Except ε β} {g : γ → Except ε β} {as : List α}
    {cs : List γ} (same : List.Forall₂ (fun a c => f a = g c) as cs) : as.mapM f = cs.mapM g := by
  induction same with
  | nil => rfl
  | cons head _ ih => rw [List.mapM_cons, List.mapM_cons, head, ih]

/-- What is done to each result can as well be done to all results in the end. -/
theorem mapM_map_result {γ : Type} (f : α → Except ε β) (g : β → γ) (as : List α) :
    as.mapM (fun a => g <$> f a) = List.map g <$> as.mapM f := by
  induction as with
  | nil => rfl
  | cons a as ih =>
    rw [List.mapM_cons, List.mapM_cons, ih]
    simp only [map_bind, bind_map_left, map_pure, List.map_cons]

/-! ## The first that does not do -/

/-- An element of a list is the first that does not have a property: all before it have. -/
def FirstNot (p : α → Prop) (as : List α) (a : α) : Prop :=
  ∃ before after, as = before ++ a :: after ∧ (∀ b ∈ before, p b) ∧ ¬ p a

theorem FirstNot.mem {p : α → Prop} {as : List α} {a : α} (first : FirstNot p as a) :
    a ∈ as := by
  obtain ⟨before, after, rfl, -, -⟩ := first
  exact List.mem_append_right before List.mem_cons_self

theorem FirstNot.not {p : α → Prop} {as : List α} {a : α} (first : FirstNot p as a) : ¬ p a := by
  obtain ⟨before, after, -, -, fails⟩ := first
  exact fails

theorem not_firstNot_nil {p : α → Prop} {a : α} : ¬ FirstNot p [] a := by
  intro first
  cases first.mem

theorem firstNot_cons_iff {p : α → Prop} {b a : α} {as : List α} :
    FirstNot p (b :: as) a ↔ (¬ p b ∧ a = b) ∨ (p b ∧ FirstNot p as a) := by
  constructor
  · rintro ⟨before, after, split, all, fails⟩
    cases before with
    | nil =>
      obtain ⟨rfl, -⟩ := List.cons.inj split
      exact .inl ⟨fails, rfl⟩
    | cons c before =>
      obtain ⟨rfl, rest⟩ := List.cons.inj split
      obtain ⟨head, others⟩ := List.forall_mem_cons.mp all
      exact .inr ⟨head, before, after, rest, others, fails⟩
  · rintro (⟨fails, rfl⟩ | ⟨head, before, after, rfl, others, fails⟩)
    · exact ⟨[], as, rfl, fun _ mem => absurd mem List.not_mem_nil, fails⟩
    · exact ⟨b :: before, after, rfl, List.forall_mem_cons.mpr ⟨head, others⟩, fails⟩

/-- The search goes on in the second of two lists only if all of the first have the property. -/
theorem firstNot_append_iff {p : α → Prop} {as bs : List α} {a : α} :
    FirstNot p (as ++ bs) a ↔ FirstNot p as a ∨ (∀ b ∈ as, p b) ∧ FirstNot p bs a := by
  induction as with
  | nil => simp [not_firstNot_nil]
  | cons b as ih =>
    simp only [List.cons_append, firstNot_cons_iff, List.forall_mem_cons, ih]
    tauto

/-- The search goes on behind the head of a list only if the head has the property. -/
theorem exists_firstNot_cons_iff {p q : α → Prop} {b : α} {as : List α} :
    (∃ a, FirstNot p (b :: as) a ∧ q a) ↔
      (¬ p b ∧ q b) ∨ (p b ∧ ∃ a, FirstNot p as a ∧ q a) := by
  simp only [firstNot_cons_iff]
  constructor
  · rintro ⟨a, ⟨fails, rfl⟩ | ⟨head, first⟩, holds⟩
    · exact .inl ⟨fails, holds⟩
    · exact .inr ⟨head, a, first, holds⟩
  · rintro (⟨fails, holds⟩ | ⟨head, a, first, holds⟩)
    · exact ⟨b, .inl ⟨fails, rfl⟩, holds⟩
    · exact ⟨a, .inr ⟨head, first⟩, holds⟩

theorem exists_firstNot_iff {p : α → Prop} {as : List α} :
    (∃ a, FirstNot p as a) ↔ ∃ a ∈ as, ¬ p a := by
  constructor
  · rintro ⟨a, first⟩
    exact ⟨a, first.mem, first.not⟩
  · intro some
    induction as with
    | nil => simp at some
    | cons b as ih =>
      by_cases head : p b
      · obtain ⟨a, mem, fails⟩ := some
        rcases List.mem_cons.mp mem with rfl | mem
        · exact absurd head fails
        · obtain ⟨a, first⟩ := ih ⟨a, mem, fails⟩
          exact ⟨a, firstNot_cons_iff.mpr (.inr ⟨head, first⟩)⟩
      · exact ⟨b, firstNot_cons_iff.mpr (.inl ⟨head, rfl⟩)⟩

theorem mapM_eq_error_iff {f : α → Except ε β} {as : List α} {fault : ε} :
    as.mapM f = .error fault ↔
      ∃ a, FirstNot (fun a => ∃ b, f a = .ok b) as a ∧ f a = .error fault := by
  induction as with
  | nil => simp [not_firstNot_nil]
  | cons a as ih =>
    rw [List.mapM_cons, exists_firstNot_cons_iff, ← ih]
    cases f a with
    | error found => simp
    | ok b => cases as.mapM f <;> simp

/-! ## The same result -/

/-- Two outcomes have the same result, or neither has one. Their faults may differ. -/
inductive SameResult : Except ε α → Except ε α → Prop where
  | ok (a : α) : SameResult (.ok a) (.ok a)
  | error (fault other : ε) : SameResult (.error fault) (.error other)

namespace SameResult

theorem refl (outcome : Except ε α) : SameResult outcome outcome := by
  cases outcome with
  | ok a => exact .ok a
  | error fault => exact .error fault fault

theorem trans {left middle right : Except ε α} (same : SameResult left middle)
    (again : SameResult middle right) : SameResult left right := by
  cases same with
  | ok a => exact again
  | error fault other =>
    cases again with
    | error _ last => exact .error fault last

theorem of_eq_ok_iff {left right : Except ε α} (same : ∀ a, left = .ok a ↔ right = .ok a) :
    SameResult left right := by
  cases left with
  | ok a => exact (same a).mp rfl ▸ .ok a
  | error fault =>
    cases right with
    | ok a => cases (same a).mpr rfl
    | error other => exact .error fault other

theorem eq_ok_iff {left right : Except ε α} (same : SameResult left right) {a : α} :
    left = .ok a ↔ right = .ok a := by
  cases same with
  | ok found => exact Iff.rfl
  | error fault other => simp

theorem bind {left right : Except ε α} (same : SameResult left right)
    {next next' : α → Except ε β} (goesOn : ∀ a, SameResult (next a) (next' a)) :
    SameResult (left >>= next) (right >>= next') := by
  cases same with
  | ok a => exact goesOn a
  | error fault other => exact .error fault other

theorem mapM {γ : Type} {f : α → Except ε β} {g : γ → Except ε β} {as : List α} {cs : List γ}
    (same : List.Forall₂ (fun a c => SameResult (f a) (g c)) as cs) :
    SameResult (as.mapM f) (cs.mapM g) := by
  induction same with
  | nil => exact .refl _
  | cons head _ ih =>
    rw [List.mapM_cons, List.mapM_cons]
    exact head.bind fun b => ih.bind fun rest => .refl _

end SameResult

/-! ## At least the same results -/

/-- A result of the first outcome is a result of the second, too. Where the first has none, nothing
is said of the second. -/
def Entails (first second : Except ε α) : Prop :=
  ∀ a, first = .ok a → second = .ok a

namespace Entails

theorem refl (outcome : Except ε α) : Entails outcome outcome :=
  fun _ => id

theorem bind {first second : Except ε α} (entails : Entails first second)
    {next next' : α → Except ε β} (goesOn : ∀ a, Entails (next a) (next' a)) :
    Entails (first >>= next) (second >>= next') := by
  intro b done
  obtain ⟨a, isResult, done⟩ := bind_eq_ok_iff.mp done
  exact bind_eq_ok_iff.mpr ⟨a, entails a isResult, goesOn a b done⟩

/-- The other way round for faults, of which there may be others. -/
theorem exists_error {first second : Except ε α} (entails : Entails first second) {fault : ε}
    (fails : second = .error fault) : ∃ found, first = .error found := by
  cases first with
  | error found => exact ⟨found, rfl⟩
  | ok a => cases (entails a rfl).symm.trans fails

end Entails

end Listing.Outcome
