import LoggerV2.Library.Split
import LoggerV2.Library.Text

/-!
# Where a text in UTF-8 may be cut

A byte sequence is valid when it is the encoding of some characters. A valid text that is
cut in two leaves a valid front exactly when the byte after the cut is the first of a
character, and then the back is valid as well.
-/

namespace Verification

/-- The encoding of some characters. -/
def ValidUtf8 (text : Text) : Prop :=
  ∃ characters : List Char, text = characters.flatMap String.utf8EncodeChar

/-- No encoding of a character starts another. -/
theorem utf8EncodeChar_append_inj {first second : Char} {front back : Text}
    (same : String.utf8EncodeChar first ++ front = String.utf8EncodeChar second ++ back) :
    first = second ∧ front = back := by
  have bytes : (String.utf8EncodeChar first).toByteArray ++ front.toByteArray =
      (String.utf8EncodeChar second).toByteArray ++ back.toByteArray := by
    rw [← List.toByteArray_append, ← List.toByteArray_append, same]
  have decoded := congrArg (ByteArray.utf8DecodeChar? · 0) bytes
  simp only [ByteArray.utf8DecodeChar?_utf8EncodeChar_append, Option.some.injEq] at decoded
  subst decoded
  exact ⟨rfl, List.append_cancel_left same⟩

namespace ValidUtf8

variable {front back rest : Text} {byte : UInt8}

theorem nil : ValidUtf8 [] := ⟨[], rfl⟩

/-- Well-formed texts join to one. -/
theorem append (first : ValidUtf8 front) (second : ValidUtf8 back) : ValidUtf8 (front ++ back) := by
  obtain ⟨characters, rfl⟩ := first
  obtain ⟨others, rfl⟩ := second
  exact ⟨characters ++ others, List.flatMap_append.symm⟩

theorem encodeChar (character : Char) : ValidUtf8 (String.utf8EncodeChar character) :=
  ⟨[character], by simp⟩

/-- What follows a character is well formed. -/
theorem of_encodeChar_append {character : Char}
    (valid : ValidUtf8 (String.utf8EncodeChar character ++ rest)) : ValidUtf8 rest := by
  obtain ⟨characters, encoded⟩ := valid
  cases characters with
  | nil =>
    have empty : String.utf8EncodeChar character = [] := (List.append_eq_nil_iff.mp encoded).1
    simp at empty
  | cons first others =>
    rw [List.flatMap_cons] at encoded
    exact ⟨others, (utf8EncodeChar_append_inj encoded).2⟩

/-- What follows valid text in a valid text is valid. -/
theorem of_append_left (valid : ValidUtf8 (front ++ back)) (first : ValidUtf8 front) :
    ValidUtf8 back := by
  obtain ⟨characters, rfl⟩ := first
  induction characters with
  | nil => exact valid
  | cons character others ih =>
    rw [List.flatMap_cons, List.append_assoc] at valid
    exact ih valid.of_encodeChar_append

/-- A valid text starts with the first byte of a character. -/
theorem head (valid : ValidUtf8 (byte :: rest)) : byte.IsUTF8FirstByte := by
  obtain ⟨characters, encoded⟩ := valid
  cases characters with
  | nil => cases encoded
  | cons character others =>
    rw [List.flatMap_cons] at encoded
    cases bytes : String.utf8EncodeChar character with
    | nil => simp at bytes
    | cons first more =>
      rw [bytes, List.cons_append] at encoded
      obtain ⟨rfl, -⟩ := List.cons.inj encoded
      have starts := @UInt8.isUTF8FirstByte_getElem_utf8EncodeChar character 0 (by simp [bytes])
      simpa [bytes] using starts

/-- Before the first byte of a character, a valid text may be cut. -/
theorem front_of_firstByte (valid : ValidUtf8 (front ++ byte :: rest))
    (first : byte.IsUTF8FirstByte) : ValidUtf8 front := by
  obtain ⟨characters, encoded⟩ := valid
  induction characters generalizing front with
  | nil => simp at encoded
  | cons character others ih =>
    rw [List.flatMap_cons] at encoded
    obtain ⟨more, bytes, later⟩ | ⟨inner, rfl, later⟩ := List.append_eq_append_iff.mp encoded
    · cases more with
      | nil =>
        rw [List.append_nil] at bytes
        exact bytes ▸ encodeChar character
      | cons next others =>
        -- Only the byte at index 0 of a character's encoding is a first byte.
        obtain ⟨rfl, -⟩ := List.cons.inj later
        have starts := @UInt8.isUTF8FirstByte_getElem_utf8EncodeChar character front.length
          (by simp [bytes])
        simp only [bytes, List.getElem_append_right (Nat.le_refl _), Nat.sub_self,
          List.getElem_cons_zero, first, true_iff] at starts
        exact List.eq_nil_of_length_eq_zero starts ▸ nil
    · exact (encodeChar character).append (ih later.symm)

/-- A valid text may be cut exactly before the first byte of a character. -/
theorem front_iff (valid : ValidUtf8 (front ++ byte :: rest)) :
    ValidUtf8 front ↔ byte.IsUTF8FirstByte :=
  ⟨fun first => (valid.of_append_left first).head, valid.front_of_firstByte⟩

/-- The segments of a valid text between ASCII separators are valid. -/
theorem segments {separator : UInt8} {text : Text} {parts : List Text}
    (valid : ValidUtf8 text) (ascii : ValidUtf8 [separator])
    (cut : Segments separator text parts) : ∀ part ∈ parts, ValidUtf8 part := by
  have starts : separator.IsUTF8FirstByte := ascii.head
  induction cut with
  | nil => simp
  | @skip text segments rest ih => exact ih (@of_append_left [separator] text valid ascii)
  | last nonempty free => simpa using valid
  | @segment part text segments nonempty free rest ih =>
    have front := valid.front_of_firstByte starts
    have back := @of_append_left [separator] text (valid.of_append_left front) ascii
    exact List.forall_mem_cons.mpr ⟨front, ih back⟩

/-- The pieces of a valid text are valid exactly when each but the first starts with the
first byte of a character. -/
theorem pieces_iff {width : Nat} {text : Text} {pieces : List Text}
    (cut : Pieces width text pieces) (valid : ValidUtf8 text) :
    (∀ piece ∈ pieces, ValidUtf8 piece) ↔
      ∀ count byte, 0 < count → text[width * count]? = some byte → byte.IsUTF8FirstByte := by
  induction cut with
  | nil => simp
  | @last piece nonempty fits =>
    have beyond : ∀ count, 0 < count → piece[width * count]? = none := by
      intro count positive
      have grows : width * 1 ≤ width * count := Nat.mul_le_mul_left width positive
      exact List.getElem?_eq_none (by omega)
    constructor
    · intro _ count byte positive found
      rw [beyond count positive] at found
      cases found
    · intro _
      simpa using valid
  | @full piece rest pieces wide more others ih =>
    obtain ⟨byte, after, rfl⟩ := List.exists_cons_of_ne_nil more
    have shifted : ∀ count, (piece ++ byte :: after)[width * (count + 1)]? =
        (byte :: after)[width * count]? := by
      intro count
      rw [Nat.mul_succ, List.getElem?_append_right (by omega), wide, Nat.add_sub_cancel]
    have front := valid.front_iff
    rw [List.forall_mem_cons]
    constructor
    · rintro ⟨here, later⟩ count found positive isByte
      obtain ⟨count, rfl⟩ := Nat.exists_eq_add_one_of_ne_zero positive.ne'
      rw [shifted] at isByte
      cases count with
      | zero =>
        obtain rfl : byte = found := by simpa using isByte
        exact front.mp here
      | succ count =>
        exact (ih (valid.of_append_left here)).mp later _ found (Nat.succ_pos count) isByte
    · intro starts
      have here : ValidUtf8 piece :=
        front.mpr (starts 1 byte Nat.one_pos (by rw [shifted 0]; rfl))
      refine ⟨here, (ih (valid.of_append_left here)).mpr fun count found positive isByte => ?_⟩
      exact starts (count + 1) found (Nat.succ_pos count) (by rw [shifted, isByte])

end ValidUtf8

end Verification
