import Mathlib.Data.List.Basic
import ScriptHost.Buffer
import ScriptHost.Proofs.Text.Decoding

/-!
# Texts in buffers

Offsets and lengths are words, but a buffer is in memory and so shorter than the number of words
there are.  Hence a transfer does what its numbers say when they are added without a limit: it
takes the bytes that there are and no others.  Text that fits is read back as it was, and bytes
that are no text are read with replacement.
-/

namespace ScriptHost.Buffer

variable {buffer bytes : Bytes} {text : String} {offset length : UInt64}

/-- A run of bytes that is in memory: its length is a word. -/
def Fits (bytes : Bytes) : Prop :=
  bytes.length < UInt64.size

instance (bytes : Bytes) : Decidable (Fits bytes) :=
  inferInstanceAs (Decidable (bytes.length < UInt64.size))

/-! ## Words as numbers -/

theorem toNat_size (fits : Fits buffer) : (size buffer).toNat = buffer.length := by
  rw [size, UInt64.toNat_ofNat_of_lt' fits]

theorem size_le_iff (fits : Fits buffer) : size buffer ≤ offset ↔ buffer.length ≤ offset.toNat := by
  rw [UInt64.le_iff_toNat_le, toNat_size fits]

/-- The room from an offset on. -/
theorem toNat_room (fits : Fits buffer) (inside : ¬size buffer ≤ offset) :
    (size buffer - offset).toNat = buffer.length - offset.toNat := by
  have before : offset ≤ size buffer := by
    rw [size_le_iff fits] at inside
    rw [UInt64.le_iff_toNat_le, toNat_size fits]
    omega
  rw [UInt64.toNat_sub_of_le _ _ before, toNat_size fits]

theorem toNat_saturatingAdd (first second : UInt64) :
    (saturatingAdd first second).toNat = min (first.toNat + second.toNat) (UInt64.size - 1) := by
  have first_lt : first.toNat < UInt64.size := first.toNat_lt_size
  have second_lt : second.toNat < UInt64.size := second.toNat_lt_size
  have sum : (first + second).toNat = (first.toNat + second.toNat) % UInt64.size :=
    UInt64.toNat_add first second
  have largest : (UInt64.ofNat (Nat.pow 2 64 - 1)).toNat = UInt64.size - 1 := by decide
  unfold saturatingAdd
  dsimp only
  by_cases wraps : UInt64.size ≤ first.toNat + second.toNat
  · have less : first.toNat + second.toNat - UInt64.size < UInt64.size := by omega
    rw [Nat.mod_eq_sub_mod wraps, Nat.mod_eq_of_lt less] at sum
    rw [if_pos (UInt64.lt_iff_toNat_lt.mpr (by omega)), largest]
    omega
  · rw [Nat.mod_eq_of_lt (by omega)] at sum
    rw [if_neg fun less => absurd (UInt64.lt_iff_toNat_lt.mp less) (by omega), sum]
    omega

/-! ## Bytes laid over others -/

theorem overlay_nil (buffer : Bytes) (offset : UInt64) : overlay buffer offset [] = buffer := by
  rw [overlay, List.append_nil, List.length_nil, Nat.add_zero, List.take_append_drop]

theorem length_overlay (room : bytes.length ≤ buffer.length - offset.toNat) :
    (overlay buffer offset bytes).length = buffer.length := by
  simp only [overlay, List.length_append, List.length_take, List.length_drop]
  omega

/-- Bytes are laid at their offset, and every other position keeps its byte. -/
theorem getElem?_overlay (room : bytes.length ≤ buffer.length - offset.toNat) (i : Nat) :
    (overlay buffer offset bytes)[i]? =
      if offset.toNat ≤ i ∧ i < offset.toNat + bytes.length then bytes[i - offset.toNat]?
      else buffer[i]? := by
  rcases Nat.eq_zero_or_pos bytes.length with none | some
  · rw [List.eq_nil_of_length_eq_zero none, overlay_nil, List.length_nil, if_neg (by omega)]
  · have front : (buffer.take offset.toNat).length = offset.toNat :=
      List.length_take_of_le (by omega)
    rw [overlay, List.append_assoc, List.getElem?_append, List.getElem?_append, front]
    by_cases before : i < offset.toNat
    · rw [if_pos before, if_neg (by omega), List.getElem?_take_of_lt before]
    · rw [if_neg before]
      by_cases within : i - offset.toNat < bytes.length
      · rw [if_pos within, if_pos (by omega)]
      · rw [if_neg within, if_neg (by omega), List.getElem?_drop]
        congr 1
        omega

/-- The bytes that were laid at an offset are there. -/
theorem drop_take_overlay (room : bytes.length ≤ buffer.length - offset.toNat) :
    ((overlay buffer offset bytes).take
      (min (offset.toNat + bytes.length) buffer.length)).drop offset.toNat = bytes := by
  rcases Nat.eq_zero_or_pos bytes.length with none | some
  · rw [List.eq_nil_of_length_eq_zero none, List.drop_eq_nil_iff]
    exact (List.length_take_le _ _).trans (min_le_left _ _)
  · have front : (buffer.take offset.toNat).length = offset.toNat :=
      List.length_take_of_le (by omega)
    have both : (buffer.take offset.toNat ++ bytes).length = offset.toNat + bytes.length := by
      rw [List.length_append, front]
    rw [min_eq_left (by omega), overlay, List.take_left' both, List.drop_left' front]

/-! ## Writing -/

theorem length_toUTF8 (text : String) : text.toUTF8.toList.length = text.utf8ByteSize := by
  rw [Text.Utf8.toList_eq]
  rfl

/-- As many bytes of a text are written as there is room for. -/
theorem writeString_eq (fits : Fits buffer) (short : Fits text.toUTF8.toList) (offset : UInt64) :
    (writeString buffer text offset).1.toNat =
        min text.utf8ByteSize (buffer.length - offset.toNat) ∧
      (writeString buffer text offset).2 = overlay buffer offset
        (text.toUTF8.toList.take (writeString buffer text offset).1.toNat) := by
  unfold writeString
  dsimp only
  split
  next past =>
    rw [size_le_iff fits] at past
    refine ⟨?_, (overlay_nil buffer offset).symm⟩
    rw [Nat.sub_eq_zero_of_le past, Nat.min_zero]
    rfl
  next inside =>
    refine ⟨?_, rfl⟩
    rw [UInt64.toNat_min, toNat_room fits inside, toNat_size short, length_toUTF8]

/-! ## Reading -/

/-- A text is read from the bytes that there are. -/
theorem readString_eq (fits : Fits buffer) (length offset : UInt64) :
    readString buffer length offset = String.ofList (Text.Utf8.decodeLossy
      ((buffer.take (min (offset.toNat + length.toNat) buffer.length)).drop offset.toNat)) := by
  unfold readString
  split
  next past =>
    rw [size_le_iff fits] at past
    rw [List.drop_eq_nil_of_le ((List.length_take_le' _ _).trans past), Text.Utf8.decodeLossy,
      String.ofList_nil]
  next inside =>
    have stop : (min (saturatingAdd offset length) (size buffer)).toNat =
        min (offset.toNat + length.toNat) buffer.length := by
      rw [UInt64.toNat_min, toNat_saturatingAdd, toNat_size fits, min_assoc,
        min_eq_right (Nat.le_sub_one_of_lt fits)]
    have after : offset ≤ min (saturatingAdd offset length) (size buffer) := by
      rw [size_le_iff fits] at inside
      rw [UInt64.le_iff_toNat_le, stop]
      omega
    rw [Text.Utf8.textLossy_eq, slice, UInt64.toNat_sub_of_le _ _ after, stop, List.drop_take]

/-- What was written whole is read back. -/
theorem readString_writeString (fits : Fits buffer) (short : Fits text.toUTF8.toList)
    (whole : (writeString buffer text offset).1.toNat = text.utf8ByteSize) :
    readString (writeString buffer text offset).2 (writeString buffer text offset).1 offset =
      text := by
  obtain ⟨count, written⟩ := writeString_eq fits short offset
  rw [whole] at count written
  rw [← length_toUTF8, List.take_length] at written
  have room : text.toUTF8.toList.length ≤ buffer.length - offset.toNat := by
    rw [length_toUTF8, count]
    exact min_le_right _ _
  have fits' : Fits (overlay buffer offset text.toUTF8.toList) := by
    rw [Fits, length_overlay room]
    exact fits
  rw [written, readString_eq fits', whole, length_overlay room, ← length_toUTF8,
    drop_take_overlay room, Text.Utf8.decodeLossy_toUTF8, String.ofList_toList]

/-- As many bytes of a text are written as there is room for, at the offset and nowhere else; the
buffer stays as long as it is.  A text that was written whole is read back, and reading decodes
the bytes from the offset on that there are, of which there may be fewer than asked for. -/
theorem strings_are_read_back (fits : Fits buffer) (short : Fits text.toUTF8.toList)
    (offset : UInt64) :
    (writeString buffer text offset).1.toNat =
      min text.utf8ByteSize (buffer.length - offset.toNat) ∧
    (writeString buffer text offset).2.length = buffer.length ∧
    (∀ i, (writeString buffer text offset).2[i]? =
      if offset.toNat ≤ i ∧ i < offset.toNat + (writeString buffer text offset).1.toNat then
        text.toUTF8.toList[i - offset.toNat]?
      else buffer[i]?) ∧
    ((writeString buffer text offset).1.toNat = text.utf8ByteSize →
      readString (writeString buffer text offset).2 (writeString buffer text offset).1 offset =
        text) ∧
    (∀ length, readString buffer length offset = String.ofList (Text.Utf8.decodeLossy
      ((buffer.take (min (offset.toNat + length.toNat) buffer.length)).drop offset.toNat))) ∧
    (buffer.length ≤ offset.toNat → ∀ length, readString buffer length offset = "") := by
  obtain ⟨count, written⟩ := writeString_eq fits short offset
  have taken : (text.toUTF8.toList.take (writeString buffer text offset).1.toNat).length =
      (writeString buffer text offset).1.toNat := by
    rw [List.length_take_of_le]
    rw [length_toUTF8, count]
    exact min_le_left _ _
  have room : (text.toUTF8.toList.take (writeString buffer text offset).1.toNat).length ≤
      buffer.length - offset.toNat := by
    rw [taken, count]
    exact min_le_right _ _
  refine ⟨count, ?_, fun i => ?_, readString_writeString fits short,
    fun length => readString_eq fits length offset, fun past length => ?_⟩
  · rw [written, length_overlay room]
  · rw [written, getElem?_overlay room, taken]
    refine ite_congr rfl (fun inside => ?_) fun _ => rfl
    rw [List.getElem?_take_of_lt (by omega)]
  · rw [readString, if_pos ((size_le_iff fits).mpr past)]

/-- A text of three bytes where there is room for it, where there is not, and past every end. -/
theorem short_buffer_is_read_back :
    Fits [0, 0, 0, 0] ∧ Fits "né".toUTF8.toList ∧
      (writeString [0, 0, 0, 0] "né" 1).1.toNat = "né".utf8ByteSize ∧
      readString (writeString [0, 0, 0, 0] "né" 1).2 (writeString [0, 0, 0, 0] "né" 1).1 1 = "né" ∧
      (writeString [0, 0, 0, 0] "né" 2).1.toNat = 2 ∧
      [0, 0, 0, 0].length ≤ (0xFFFFFFFFFFFFFFFF : UInt64).toNat ∧
      readString [0, 0, 0, 0] 0xFFFFFFFFFFFFFFFF 0xFFFFFFFFFFFFFFFF = "" := by
  have fits : Fits [0, 0, 0, 0] := by decide
  have short : Fits "né".toUTF8.toList := by
    rw [Fits, length_toUTF8]
    decide
  have size : "né".utf8ByteSize = 3 := by decide
  have whole := strings_are_read_back fits short 1
  have cut := strings_are_read_back fits short 2
  have past := strings_are_read_back fits short 0xFFFFFFFFFFFFFFFF
  rw [size] at whole cut
  have written : (writeString [0, 0, 0, 0] "né" 1).1.toNat = 3 := whole.1.trans (by decide)
  have far : [0, 0, 0, 0].length ≤ (0xFFFFFFFFFFFFFFFF : UInt64).toNat := by decide
  exact ⟨fits, short, written.trans size.symm, whole.2.2.2.1 written, cut.1.trans (by decide), far,
    past.2.2.2.2.2 far _⟩

end ScriptHost.Buffer
