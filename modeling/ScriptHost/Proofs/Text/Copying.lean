import ScriptHost.Proofs.Text.Buffers

/-!
# Copies stay in range

A copy is written out here a second time, with a check at every step: that a difference of words
is not negative, that a sum is a word, that both ends of a run of bytes lie in their buffer, and
that as many bytes are laid down as there is room for between the ends.  None of these checks ever
fails, whatever the words are, and what the checked steps leave behind is the copy.
-/

namespace ScriptHost.Buffer

variable {target source bytes buffer : Bytes} {first second start stop : UInt64}

/-! ## Checked steps -/

/-- The sum of two words, if it is a word. -/
def sum? (first second : UInt64) : Option UInt64 :=
  if first.toNat + second.toNat < UInt64.size then some (first + second) else none

/-- The difference of two words, if it is not negative. -/
def difference? (first second : UInt64) : Option UInt64 :=
  if second ≤ first then some (first - second) else none

/-- Whether two places are in order and in the buffer. -/
def Spans (buffer : Bytes) (start stop : UInt64) : Prop :=
  start ≤ stop ∧ stop.toNat ≤ buffer.length

instance : Decidable (Spans buffer start stop) :=
  inferInstanceAs (Decidable (_ ∧ _))

/-- The bytes between two places, if these are in range. -/
def between? (buffer : Bytes) (start stop : UInt64) : Option Bytes :=
  if Spans buffer start stop then some ((buffer.take stop.toNat).drop start.toNat) else none

/-- The buffer with other bytes between two places, if these are in range and as far apart as
there are bytes. -/
def replaced? (buffer : Bytes) (start stop : UInt64) (bytes : Bytes) : Option Bytes :=
  if Spans buffer start stop ∧ bytes.length = stop.toNat - start.toNat then
    some (buffer.take start.toNat ++ bytes ++ buffer.drop stop.toNat)
  else none

/-- The buffer that is copied to and the one that is copied from. -/
structure Pair where
  target : Bytes
  source : Bytes
deriving DecidableEq, Repr

/-- A copy with every step checked: the number of bytes copied and the buffers after that. -/
def copyChecked (offset length sourceOffset : UInt64) (pair : Pair) : Option (UInt64 × Pair) :=
  if size pair.target ≤ offset ∨ size pair.source ≤ sourceOffset then
    some (0, pair)
  else do
    let room ← difference? (size pair.target) offset
    let left ← difference? (size pair.source) sourceOffset
    let count := min length (min room left)
    let stop ← sum? offset count
    let sourceStop ← sum? sourceOffset count
    let piece ← between? pair.source sourceOffset sourceStop
    let target ← replaced? pair.target offset stop piece
    pure (count, { pair with target })

/-! ## No check fails -/

theorem difference?_of_le (le : second ≤ first) : difference? first second = some (first - second) :=
  if_pos le

/-- Words whose sum is no more than the length of a buffer. -/
theorem sum?_of_le (fits : Fits buffer) (le : first.toNat + second.toNat ≤ buffer.length) :
    sum? first second = some (first + second) ∧
      (first + second).toNat = first.toNat + second.toNat := by
  have small : first.toNat + second.toNat < UInt64.size := Nat.lt_of_le_of_lt le fits
  exact ⟨if_pos small, (UInt64.toNat_add first second).trans (Nat.mod_eq_of_lt small)⟩

theorem spans_of_toNat (le : start.toNat ≤ stop.toNat) (inside : stop.toNat ≤ buffer.length) :
    Spans buffer start stop :=
  ⟨UInt64.le_iff_toNat_le.mpr le, inside⟩

theorem between?_of_toNat {count : UInt64} (ends : stop.toNat = start.toNat + count.toNat)
    (inside : start.toNat + count.toNat ≤ buffer.length) :
    between? buffer start stop = some (slice buffer start count) := by
  have spans : Spans buffer start stop := spans_of_toNat (by omega) (by omega)
  rw [between?, if_pos spans, slice, List.drop_take, ends, Nat.add_sub_cancel_left]

theorem replaced?_of_toNat (ends : stop.toNat = start.toNat + bytes.length)
    (inside : start.toNat + bytes.length ≤ buffer.length) :
    replaced? buffer start stop bytes = some (overlay buffer start bytes) := by
  have spans : Spans buffer start stop := spans_of_toNat (by omega) (by omega)
  rw [replaced?, if_pos ⟨spans, by omega⟩, overlay, ends]

theorem length_slice {count : UInt64} (inside : start.toNat + count.toNat ≤ buffer.length) :
    (slice buffer start count).length = count.toNat := by
  rw [slice, List.length_take, List.length_drop]
  omega

/-! ## Copies -/

section Copies

variable {offset length sourceOffset : UInt64}

/-- As many bytes are copied as are asked for, fit and are there. -/
theorem count_copyFrom (fits : Fits target) (fits' : Fits source)
    (offset length sourceOffset : UInt64) :
    (copyFrom target source offset length sourceOffset).1.toNat =
      min length.toNat (min (target.length - offset.toNat) (source.length - sourceOffset.toNat)) := by
  unfold copyFrom
  split
  next outside =>
    rw [size_le_iff fits, size_le_iff fits'] at outside
    have nothing : min (target.length - offset.toNat) (source.length - sourceOffset.toNat) = 0 := by
      omega
    rw [nothing, Nat.min_zero]
    rfl
  next inside =>
    rcases not_or.mp inside with ⟨before, before'⟩
    rw [UInt64.toNat_min, UInt64.toNat_min, toNat_room fits before, toNat_room fits' before']

/-- What is copied is laid over the target. -/
theorem copyFrom_eq (target source : Bytes) (offset length sourceOffset : UInt64) :
    (copyFrom target source offset length sourceOffset).2 = overlay target offset
      (slice source sourceOffset (copyFrom target source offset length sourceOffset).1) := by
  unfold copyFrom
  split
  next =>
    have nothing : slice source sourceOffset 0 = [] := List.take_zero
    rw [nothing, overlay_nil]
  next => rfl

/-- Every step of a copy is in range. -/
theorem copyChecked_eq (fits : Fits target) (fits' : Fits source)
    (offset length sourceOffset : UInt64) :
    copyChecked offset length sourceOffset ⟨target, source⟩ =
      some ((copyFrom target source offset length sourceOffset).1,
        ⟨(copyFrom target source offset length sourceOffset).2, source⟩) := by
  by_cases outside : size target ≤ offset ∨ size source ≤ sourceOffset
  · rw [copyChecked, copyFrom, if_pos outside, if_pos outside]
  · have count := count_copyFrom fits fits' offset length sourceOffset
    rw [copyFrom, if_neg outside] at count ⊢
    rw [copyChecked, if_neg outside]
    dsimp only at count ⊢
    rw [size_le_iff fits, size_le_iff fits'] at outside
    have room : offset ≤ size target := by
      rw [UInt64.le_iff_toNat_le, toNat_size fits]
      omega
    have left : sourceOffset ≤ size source := by
      rw [UInt64.le_iff_toNat_le, toNat_size fits']
      omega
    rw [difference?_of_le room, difference?_of_le left]
    simp only [Option.bind_eq_bind, Option.bind_some]
    generalize min length (min (size target - offset) (size source - sourceOffset)) = copied
      at count ⊢
    have inside : offset.toNat + copied.toNat ≤ target.length := by omega
    have there : sourceOffset.toNat + copied.toNat ≤ source.length := by omega
    rcases sum?_of_le fits inside with ⟨stop, stop_eq⟩
    rcases sum?_of_le fits' there with ⟨sourceStop, sourceStop_eq⟩
    have taken := length_slice there
    rw [← taken] at inside stop_eq
    simp only [stop, sourceStop, between?_of_toNat sourceStop_eq there,
      replaced?_of_toNat stop_eq inside, Option.bind_some]
    rfl

/-- Whatever the words are, a copy never leaves the range of a word or of a buffer.  It copies as
many bytes as are asked for, unless there is room for fewer or fewer are left; they are laid at
the offset and nowhere else, and the buffer that they come from stays as it is. -/
theorem copies_stay_in_range (fits : Fits target) (fits' : Fits source)
    (offset length sourceOffset : UInt64) :
    copyChecked offset length sourceOffset ⟨target, source⟩ =
      some ((copyFrom target source offset length sourceOffset).1,
        ⟨(copyFrom target source offset length sourceOffset).2, source⟩) ∧
    (copyFrom target source offset length sourceOffset).1.toNat =
      min length.toNat (min (target.length - offset.toNat) (source.length - sourceOffset.toNat)) ∧
    (copyFrom target source offset length sourceOffset).2.length = target.length ∧
    ∀ i, (copyFrom target source offset length sourceOffset).2[i]? =
      if offset.toNat ≤ i ∧
          i < offset.toNat + (copyFrom target source offset length sourceOffset).1.toNat then
        source[sourceOffset.toNat + (i - offset.toNat)]?
      else target[i]? := by
  have count := count_copyFrom fits fits' offset length sourceOffset
  have laid := copyFrom_eq target source offset length sourceOffset
  refine ⟨copyChecked_eq fits fits' offset length sourceOffset, count, ?_⟩
  generalize copyFrom target source offset length sourceOffset = copied at count laid ⊢
  rcases copied with ⟨number, after⟩
  dsimp only at count laid ⊢
  subst laid
  have taken : (slice source sourceOffset number).length = number.toNat := by
    rw [slice, List.length_take, List.length_drop]
    omega
  have room : (slice source sourceOffset number).length ≤ target.length - offset.toNat := by
    omega
  refine ⟨length_overlay room, fun i => ?_⟩
  rw [getElem?_overlay room, taken]
  refine ite_congr rfl (fun within => ?_) fun _ => rfl
  rw [slice, List.getElem?_take_of_lt (by omega), List.getElem?_drop]

end Copies

/-- Five digits, of which there is room for four. -/
def digits : Pair := ⟨[0, 0, 0, 0, 0], [49, 50, 51, 52, 53]⟩

/-- Of the digits the last three are left, however many are asked for; at the very end there is
room for none. -/
theorem digits_are_copied :
    Fits digits.target ∧ Fits digits.source ∧
      copyChecked 1 0xFFFFFFFFFFFFFFFF 2 digits =
        some (3, { digits with target := [0, 51, 52, 53, 0] }) ∧
      (copyFrom digits.target digits.source 1 0xFFFFFFFFFFFFFFFF 2).1.toNat =
        min (0xFFFFFFFFFFFFFFFF : UInt64).toNat (min 4 3) ∧
      (copyFrom digits.target digits.source 1 0xFFFFFFFFFFFFFFFF 2).2[3]? = digits.source[4]? ∧
      copyChecked 5 1 0 digits = some (0, digits) := by
  have fits : Fits digits.target := by decide
  have fits' : Fits digits.source := by decide
  have copied := copies_stay_in_range fits fits' 1 0xFFFFFFFFFFFFFFFF 2
  have nothing := copies_stay_in_range fits fits' 5 1 0
  have three : copyFrom digits.target digits.source 1 0xFFFFFFFFFFFFFFFF 2 =
      (3, [0, 51, 52, 53, 0]) := by decide
  have none : copyFrom digits.target digits.source 5 1 0 = (0, digits.target) := by decide
  refine ⟨fits, fits', ?_, copied.2.1, ?_, ?_⟩
  · have checked := copied.1
    rw [three] at checked
    exact checked
  · rw [copied.2.2.2, three]
    rfl
  · have checked := nothing.1
    rw [none] at checked
    exact checked

end ScriptHost.Buffer
