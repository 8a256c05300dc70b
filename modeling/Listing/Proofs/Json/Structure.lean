import Listing.Json.Reader
import Listing.Proofs.Json.Spelling

/-!
# `Listing/Proofs/Json/Structure.lean` — the texts of a JSON value

A value has its tokens (`Json.tokens`), and these can be spelled in many ways, which makes its texts
(`Json.Writes`). Reading is the inverse: `read?_eq_some_iff`.

The reader keeps a stack where the tokens have the shape of the value, so there is an induction for
each direction. From a value to its reading it is on the value: the tokens of each part take the
reader from where a part may begin to where this part is complete, whatever containers are open
(`foldlM_value`). From a reading to its value it is on the tokens: of every reading it is known
which tokens it has taken (`taken`), and a step takes one more (`taken_of_step?`).
-/

set_option autoImplicit false

namespace Listing.Json

/-! ## The tokens of a value -/

mutual

/-- The tokens of a value, with their commas and colons. -/
def tokens : Json → List Token
  | .null => [.null]
  | .boolean truth => [.boolean truth]
  | .number literal => [.number literal]
  | .string text => [.string text]
  | .array [] => [.openBracket, .closeBracket]
  | .array (item :: items) => .openBracket :: (item.tokens ++ laterItems items)
  | .object [] => [.openBrace, .closeBrace]
  | .object ((name, value) :: members) =>
    .openBrace :: .string name :: .colon :: (value.tokens ++ laterMembers members)

/-- The tokens of the items behind another, and the end of their array. -/
def laterItems : List Json → List Token
  | [] => [.closeBracket]
  | item :: items => .comma :: (item.tokens ++ laterItems items)

/-- The tokens of the members behind another, and the end of their object. -/
def laterMembers : List (Option String × Json) → List Token
  | [] => [.closeBrace]
  | (name, value) :: members =>
    .comma :: .string name :: .colon :: (value.tokens ++ laterMembers members)

end

/-- A text is one of those in which a value can be written. -/
def Writes (text : String) (json : Json) : Prop :=
  Spells json.tokens text.toList

variable {frames : List Frame} {rest : List Token}

/-! ## From a value to its reading -/

/-- A first item is read like any other: no value begins with a closing bracket. -/
theorem foldlM_firstItem (item : Json) :
    (item.tokens ++ rest).foldlM step? (frames, .firstItem) =
      (item.tokens ++ rest).foldlM step? (.array [] :: frames, .value) := by
  unfold tokens
  split <;> rfl

mutual

theorem foldlM_value : ∀ (json : Json) (frames : List Frame) (rest : List Token),
    (json.tokens ++ rest).foldlM step? (frames, .value) =
      rest.foldlM step? (frames, .complete json)
  | .null, _, _ | .boolean _, _, _ | .number _, _, _ | .string _, _, _ | .array [], _, _
  | .object [], _, _ => rfl
  | .array (item :: items), frames, rest => by
    show (item.tokens ++ laterItems items ++ rest).foldlM step? (frames, .firstItem) = _
    rw [List.append_assoc, foldlM_firstItem, foldlM_value, foldlM_laterItems]
    rfl
  | .object ((name, value) :: members), frames, rest => by
    show (value.tokens ++ laterMembers members ++ rest).foldlM step?
      (.object [] name :: frames, .value) = _
    rw [List.append_assoc, foldlM_value, foldlM_laterMembers]
    rfl

theorem foldlM_laterItems : ∀ (later items : List Json) (json : Json) (frames : List Frame)
    (rest : List Token),
    (laterItems later ++ rest).foldlM step? (.array items :: frames, .complete json) =
      rest.foldlM step? (frames, .complete (.array ((json :: items).reverse ++ later)))
  | [], items, json, frames, rest => by
    rw [List.append_nil]
    rfl
  | item :: later, items, json, frames, rest => by
    show (item.tokens ++ laterItems later ++ rest).foldlM step?
      (.array (json :: items) :: frames, .value) = _
    rw [List.append_assoc, foldlM_value, foldlM_laterItems, List.reverse_cons, List.append_assoc,
      List.singleton_append]

theorem foldlM_laterMembers : ∀ (later members : List (Option String × Json))
    (name : Option String) (json : Json) (frames : List Frame) (rest : List Token),
    (laterMembers later ++ rest).foldlM step? (.object members name :: frames, .complete json) =
      rest.foldlM step? (frames, .complete (.object (((name, json) :: members).reverse ++ later)))
  | [], members, name, json, frames, rest => by
    rw [List.append_nil]
    rfl
  | (next, value) :: later, members, name, json, frames, rest => by
    show (value.tokens ++ laterMembers later ++ rest).foldlM step?
      (.object ((name, json) :: members) next :: frames, .value) = _
    rw [List.append_assoc, foldlM_value, foldlM_laterMembers, List.reverse_cons,
      List.append_assoc, List.singleton_append]

end

/-! ## From a reading to its value -/

/-- The tokens from the beginning of an object up to the name of its next member. Like the members
that a reading keeps, they are given last first. -/
def tokensBefore (members : List (Option String × Json)) : List Token :=
  .openBrace :: members.reverse.flatMap fun member =>
    .string member.1 :: .colon :: (member.2.tokens ++ [.comma])

/-- The tokens from the beginning of a container up to the value that is being read in it. -/
@[simp] def Frame.taken : Frame → List Token
  | .array items => .openBracket :: items.reverse.flatMap fun item => item.tokens ++ [.comma]
  | .object members name => tokensBefore members ++ [.string name, .colon]

/-- The tokens of a state, apart from those that its open containers have taken. -/
@[simp] def State.taken : State → List Token
  | .value => []
  | .firstItem => [.openBracket]
  | .firstMember => [.openBrace]
  | .member members => tokensBefore members
  | .colon members name => tokensBefore members ++ [.string name]
  | .complete json => json.tokens

/-- All tokens that a reading has taken. -/
def taken (reading : List Frame × State) : List Token :=
  reading.1.reverse.flatMap Frame.taken ++ reading.2.taken

theorem laterItems_concat (items : List Json) (json : Json) :
    laterItems (items ++ [json]) =
      .comma :: ((items.flatMap fun item => item.tokens ++ [.comma]) ++
        (json.tokens ++ [.closeBracket])) := by
  induction items with
  | nil => rfl
  | cons item items ih => simp [laterItems, ih]

theorem tokens_array_concat (items : List Json) (json : Json) :
    (array (items.reverse ++ [json])).tokens =
      (Frame.array items).taken ++ (json.tokens ++ [.closeBracket]) := by
  rw [Frame.taken]
  cases items.reverse with
  | nil => rfl
  | cons first items => simp [tokens, laterItems_concat]

theorem laterMembers_concat (members : List (Option String × Json)) (name : Option String)
    (json : Json) :
    laterMembers (members ++ [(name, json)]) =
      .comma :: ((members.flatMap fun member =>
          .string member.1 :: .colon :: (member.2.tokens ++ [.comma])) ++
        (.string name :: .colon :: (json.tokens ++ [.closeBrace]))) := by
  induction members with
  | nil => rfl
  | cons member members ih => simp [laterMembers, ih]

theorem tokens_object_concat (members : List (Option String × Json)) (name : Option String)
    (json : Json) :
    (object (members.reverse ++ [(name, json)])).tokens =
      (Frame.object members name).taken ++ (json.tokens ++ [.closeBrace]) := by
  rw [Frame.taken, tokensBefore]
  cases members.reverse with
  | nil => rfl
  | cons first members => simp [tokens, laterMembers_concat]

variable {reading next : List Frame × State} {token : Token}

theorem taken_of_start? (starts : start? frames token = some next) :
    taken next = taken (frames, .value) ++ [token] := by
  unfold start? at starts
  split at starts
  · cases starts
    simp [taken]
  · cases starts
    simp [taken]
  · obtain ⟨json, scalar, rfl⟩ := Option.map_eq_some_iff.mp starts
    unfold Token.scalar? at scalar
    split at scalar <;> cases scalar <;> simp [taken, tokens]

/-- A step takes its token. -/
theorem taken_of_step? (steps : step? reading token = some next) :
    taken next = taken reading ++ [token] := by
  unfold step? at steps
  split at steps
  -- A value begins, in the second case as the first item of an array.
  case h_1 => exact taken_of_start? steps
  case h_3 =>
    rw [taken_of_start? steps]
    simp [taken]
  -- The others move between known states, or refuse the token.
  all_goals
    cases steps <;> simp [taken, tokens, tokensBefore, tokens_array_concat, tokens_object_concat]

/-- A reading has taken the tokens that it has gone through. -/
theorem taken_of_foldlM {tokens : List Token}
    (runs : tokens.foldlM step? reading = some next) : taken next = taken reading ++ tokens := by
  induction tokens generalizing reading with
  | nil =>
    cases runs
    exact (List.append_nil _).symm
  | cons token tokens ih =>
    obtain ⟨middle, steps, runs⟩ := Option.bind_eq_some_iff.mp runs
    rw [ih runs, taken_of_step? steps, List.append_assoc, List.singleton_append]

/-! ## Texts -/

variable {text : String} {json other : Json}

/-- **A text is read exactly if a value can be written so**, and as this value. -/
theorem read?_eq_some_iff : read? text = some json ↔ Writes text json := by
  refine ⟨fun reads => ?_, fun written => ?_⟩
  · obtain ⟨tokens, cuts, reads⟩ := Option.bind_eq_some_iff.mp reads
    obtain ⟨⟨frames, state⟩, runs, ends⟩ := Option.bind_eq_some_iff.mp reads
    unfold result? at ends
    split at ends
    · next json' same =>
      cases ends
      cases same
      have all : json.tokens = tokens := taken_of_foldlM runs
      exact tokens?_eq_some_iff.mp (all ▸ cuts)
    · cases ends
  · have runs := foldlM_value json [] []
    rw [List.append_nil] at runs
    rw [read?, tokens?_eq_some_iff.mpr written]
    show (json.tokens.foldlM step? ([], .value)).bind result? = some json
    rw [runs]
    rfl

/-- No text writes two values. -/
theorem Writes.unique (written : Writes text json) (again : Writes text other) : json = other :=
  Option.some.inj
    ((read?_eq_some_iff.mpr written).symm.trans (read?_eq_some_iff.mpr again))

end Listing.Json
