/-!
# `Listing/Proofs/Text/Slice.lean` — parts of a text, by offsets in bytes

A text is kept as its UTF-8 bytes, and an offset counts these. Between two offsets there is a part
of the text if both are between characters. An offset in the midst of a character has nothing before
it that could be a text, so asking for that part fails (`slice?`).

Offsets between characters are the sizes of beginnings. So a part can be described without bytes
(`slice?_eq_some_iff`): the text is put together of something before it, the part and something
after it, and the offsets are where these meet.
-/

set_option autoImplicit false

namespace Listing.Text

/-- The bytes of a text from one offset up to another. There is no such part unless both offsets are
between characters, and in order. -/
def slice? (text : String) (first last : Nat) : Option String :=
  if cuts : String.Pos.Raw.IsValid text ⟨first⟩ ∧ String.Pos.Raw.IsValid text ⟨last⟩ ∧
      first ≤ last then
    some (String.extract ⟨⟨first⟩, cuts.1⟩ ⟨⟨last⟩, cuts.2.1⟩)
  else none

variable {text part : String} {first last offset : Nat}

theorem toByteArray_front (front behind : String) :
    (front ++ behind).toByteArray.extract 0 front.utf8ByteSize = front.toByteArray := by
  rw [String.toByteArray_append]
  exact ByteArray.extract_append_eq_left rfl

theorem toByteArray_behind (front behind : String) :
    (front ++ behind).toByteArray.extract front.utf8ByteSize (front ++ behind).toByteArray.size =
      behind.toByteArray := by
  rw [String.toByteArray_append]
  exact ByteArray.extract_append_eq_right rfl ByteArray.size_append

/-- Texts with the same beginning in bytes have it in characters. -/
theorem append_inj_of_utf8ByteSize {front behind front' behind' : String}
    (same : front ++ behind = front' ++ behind')
    (size : front.utf8ByteSize = front'.utf8ByteSize) : front = front' ∧ behind = behind' := by
  have sameFront : front = front' := by
    rw [← String.toByteArray_inj, ← toByteArray_front front behind, same, size, toByteArray_front]
  rw [sameFront, String.append_right_inj] at same
  exact ⟨sameFront, same⟩

/-- Between characters is behind a beginning. -/
theorem isValid_iff :
    String.Pos.Raw.IsValid text ⟨offset⟩ ↔
      ∃ front behind, text = front ++ behind ∧ front.utf8ByteSize = offset := by
  rw [String.Pos.Raw.isValid_iff_exists_append]
  simp [String.Pos.Raw.ext_iff, eq_comm]

theorem exists_append_of_slice? (sliced : slice? text first last = some part) :
    ∃ before after, text = before ++ part ++ after ∧ before.utf8ByteSize = first ∧
      first + part.utf8ByteSize = last := by
  unfold slice? at sliced
  split at sliced
  · next cuts =>
    obtain ⟨before, behind, whole, rfl⟩ := isValid_iff.mp cuts.1
    obtain ⟨front, after, whole', rfl⟩ := isValid_iff.mp cuts.2.1
    -- The three parts have the bytes of the whole, one after the other.
    have joined : text = before ++ part ++ after := by
      have inside : front.utf8ByteSize ≤ text.toByteArray.size := by
        rw [whole', String.toByteArray_append, ByteArray.size_append]
        exact Nat.le_add_right _ _
      rw [← String.toByteArray_inj, String.toByteArray_append, String.toByteArray_append,
        ← Option.some.inj sliced, String.toByteArray_extract,
        ← toByteArray_front before behind, ← whole, ← toByteArray_behind front after, ← whole',
        ← ByteArray.extract_eq_extract_append_extract _ (Nat.zero_le _) cuts.2.2,
        ← ByteArray.extract_eq_extract_append_extract _ (Nat.zero_le _) inside,
        ByteArray.extract_zero_size]
    refine ⟨before, after, joined, rfl, ?_⟩
    have sizes := congrArg String.utf8ByteSize (joined.symm.trans whole')
    simp only [String.utf8ByteSize_append] at sizes
    omega
  · cases sliced

theorem slice?_eq_some_iff :
    slice? text first last = some part ↔
      ∃ before after, text = before ++ part ++ after ∧ before.utf8ByteSize = first ∧
        first + part.utf8ByteSize = last := by
  refine ⟨exists_append_of_slice?, ?_⟩
  intro ⟨before, after, whole, starts, ends⟩
  subst starts ends
  have cuts : String.Pos.Raw.IsValid text ⟨before.utf8ByteSize⟩ ∧
      String.Pos.Raw.IsValid text ⟨before.utf8ByteSize + part.utf8ByteSize⟩ ∧
      before.utf8ByteSize ≤ before.utf8ByteSize + part.utf8ByteSize := by
    refine ⟨isValid_iff.mpr ⟨before, part ++ after, ?_, rfl⟩,
      isValid_iff.mpr ⟨before ++ part, after, whole, ?_⟩, Nat.le_add_right _ _⟩
    · rw [whole, String.append_assoc]
    · rw [String.utf8ByteSize_append]
  -- There is a slice, and it has the size of the part.
  obtain ⟨found, sliced⟩ : ∃ found, slice? text before.utf8ByteSize
      (before.utf8ByteSize + part.utf8ByteSize) = some found := ⟨_, dif_pos cuts⟩
  obtain ⟨before', after', whole', starts, ends⟩ := exists_append_of_slice? sliced
  rw [whole, String.append_assoc, String.append_assoc] at whole'
  obtain ⟨-, behind⟩ := append_inj_of_utf8ByteSize whole' starts.symm
  obtain ⟨same, -⟩ := append_inj_of_utf8ByteSize behind (by omega)
  rwa [← same] at sliced

theorem slice?_front (front behind : String) :
    slice? (front ++ behind) 0 front.utf8ByteSize = some front :=
  slice?_eq_some_iff.mpr ⟨"", behind, by simp, rfl, by simp⟩

theorem slice?_middle (front middle behind : String) :
    slice? (front ++ middle ++ behind) front.utf8ByteSize
      (front.utf8ByteSize + middle.utf8ByteSize) = some middle :=
  slice?_eq_some_iff.mpr ⟨front, behind, rfl, rfl, rfl⟩

theorem slice?_behind (front behind : String) :
    slice? (front ++ behind) front.utf8ByteSize (front ++ behind).utf8ByteSize = some behind :=
  slice?_eq_some_iff.mpr ⟨front, "", by simp, rfl, by simp⟩

/-- What is cut off in front is a beginning of the text. -/
theorem exists_append_of_slice?_zero (sliced : slice? text 0 last = some part) :
    ∃ behind, text = part ++ behind ∧ part.utf8ByteSize = last := by
  obtain ⟨before, behind, whole, nothing, size⟩ := slice?_eq_some_iff.mp sliced
  obtain rfl : before = "" := String.utf8ByteSize_eq_zero_iff.mp nothing
  rw [String.empty_append] at whole
  exact ⟨behind, whole, by omega⟩

end Listing.Text
