import Mathlib.Data.String.Basic
import ScriptHost.Text.Utf8

/-!
# Decoding what was encoded

The encoding of a character is one first byte with the tail that it announces, and its second
byte is in the range that the first one leaves open.  So text that is encoded and decoded with
replacement comes back unchanged, and bytes that are the encoding of a text need no look at
whether they are: one decoder reads all bytes.
-/

namespace ScriptHost.Text.Utf8

variable {lead second : UInt8} {tail rest : List UInt8}

/-! ## Groups of bytes -/

theorem tailLength?_eq (lead : UInt8) :
    tailLength? lead =
      if lead.toNat < 0x80 then some 0
      else if lead.toNat < 0xC2 then none
      else if lead.toNat < 0xE0 then some 1
      else if lead.toNat < 0xF0 then some 2
      else if lead.toNat < 0xF5 then some 3
      else none := by
  simp only [tailLength?, UInt8.lt_iff_toNat_lt]
  rfl

/-- What the range of the second byte keeps out, in numbers. -/
theorem mem_secondRange :
    (secondRange lead).1 ≤ second ∧ second ≤ (secondRange lead).2 ↔
      (lead.toNat = 0xE0 → 0xA0 ≤ second.toNat) ∧ (lead.toNat = 0xED → second.toNat ≤ 0x9F) ∧
      (lead.toNat = 0xF0 → 0x90 ≤ second.toNat) ∧ (lead.toNat = 0xF4 → second.toNat ≤ 0x8F) ∧
      0x80 ≤ second.toNat ∧ second.toNat ≤ 0xBF := by
  simp only [secondRange, UInt8.le_iff_toNat_le, ← UInt8.toNat_inj, UInt8.reduceToNat]
  split_ifs <;> simp only [UInt8.reduceToNat] <;> omega

/-- A byte that goes on with a character. -/
def IsContinuation (b : UInt8) : Prop :=
  0x80 ≤ b.toNat ∧ b.toNat ≤ 0xBF

/-- A tail that may follow a first byte, as far as its second byte is concerned. -/
def Follows (lead : UInt8) : List UInt8 → Prop
  | [] => True
  | second :: rest =>
      ((secondRange lead).1 ≤ second ∧ second ≤ (secondRange lead).2) ∧
        ∀ b ∈ rest, IsContinuation b

theorem tailBytes_of_continuations (all : ∀ b ∈ tail, IsContinuation b) :
    tailBytes tail.length (0x80, 0xBF) (tail ++ rest) = tail := by
  induction tail with
  | nil => rfl
  | cons b tail ih =>
      have fits : 0x80 ≤ b ∧ b ≤ 0xBF := by
        rw [UInt8.le_iff_toNat_le, UInt8.le_iff_toNat_le]
        exact all b List.mem_cons_self
      rw [List.length_cons, List.cons_append, tailBytes, if_pos fits,
        ih fun other among => all other (List.mem_cons_of_mem _ among)]

theorem tailBytes_of_follows (follows : Follows lead tail) :
    tailBytes tail.length (secondRange lead) (tail ++ rest) = tail := by
  cases tail with
  | nil => rfl
  | cons second tail =>
      rw [List.length_cons, List.cons_append, ← Prod.mk.eta (p := secondRange lead), tailBytes,
        if_pos follows.1, tailBytes_of_continuations follows.2]

/-- A whole group is read as its character. -/
theorem decodeLossy_group (length : tailLength? lead = some tail.length)
    (follows : Follows lead tail) (rest : List UInt8) :
    decodeLossy (lead :: tail ++ rest) = assemble lead tail :: decodeLossy rest := by
  have first : firstChar lead (tail ++ rest) = (assemble lead tail, tail.length) := by
    unfold firstChar
    simp only [length, tailBytes_of_follows follows, if_true]
  rw [List.cons_append, decodeLossy, first]
  exact congrArg (assemble lead tail :: decodeLossy ·) List.drop_left

/-! ## Encoded characters -/

/-- The bound in numbers, as `omega` reads it. -/
theorem toNat_ofNat_of_lt {n : Nat} (small : n < 256) : (UInt8.ofNat n).toNat = n :=
  UInt8.toNat_ofNat_of_lt' small

/-- A byte that carries six bits of a number. -/
theorem toNat_continuation (n : Nat) : (UInt8.ofNat (n % 0x40 + 0x80)).toNat = n % 0x40 + 0x80 :=
  toNat_ofNat_of_lt (by omega)

theorem isContinuation_ofNat (n : Nat) : IsContinuation (UInt8.ofNat (n % 0x40 + 0x80)) := by
  rw [IsContinuation, toNat_continuation]
  omega

/-- The encoding of a character is a group that spells it. -/
theorem utf8EncodeChar_group (c : Char) :
    ∃ lead tail, String.utf8EncodeChar c = lead :: tail ∧
      tailLength? lead = some tail.length ∧ Follows lead tail ∧ assemble lead tail = c := by
  have valid : c.val.toNat < 0xD800 ∨ 0xDFFF < c.val.toNat ∧ c.val.toNat < 0x110000 := c.valid
  have spells : ∀ lead tail, tail.foldl (fun bits b => bits * 0x40 + b.toNat % 0x40)
      (leadBits lead tail.length) = c.val.toNat → assemble lead tail = c := by
    intro lead tail number
    rw [assemble, number]
    exact Char.ofNat_toNat c
  unfold String.utf8EncodeChar
  generalize c.val.toNat = v at valid spells
  dsimp only
  split_ifs with one two three
  · have first : (UInt8.ofNat v).toNat = v := toNat_ofNat_of_lt (by omega)
    refine ⟨_, [], rfl, ?_, trivial, spells _ _ first⟩
    rw [tailLength?_eq, first, if_pos (by omega)]
    rfl
  · have first : (UInt8.ofNat (v / 64 % 0x20 + 0xC0)).toNat = v / 64 + 0xC0 := by
      rw [toNat_ofNat_of_lt (by omega)]
      omega
    refine ⟨_, [_], rfl, ?_, ⟨mem_secondRange.mpr ?_, List.forall_mem_nil _⟩, spells _ _ ?_⟩
    · rw [tailLength?_eq, first, if_neg (by omega), if_neg (by omega), if_pos (by omega)]
      rfl
    · rw [first, toNat_continuation]
      omega
    · simp only [List.foldl_cons, List.foldl_nil, List.length_singleton, leadBits, first,
        toNat_continuation]
      omega
  · have first : (UInt8.ofNat (v / 4096 % 0x10 + 0xE0)).toNat = v / 4096 + 0xE0 := by
      rw [toNat_ofNat_of_lt (by omega)]
      omega
    refine ⟨_, [_, _], rfl, ?_, ⟨mem_secondRange.mpr ?_,
      List.forall_mem_singleton.mpr (isContinuation_ofNat v)⟩, spells _ _ ?_⟩
    · rw [tailLength?_eq, first, if_neg (by omega), if_neg (by omega), if_neg (by omega),
        if_pos (by omega)]
      rfl
    · rw [first, toNat_continuation]
      omega
    · simp only [List.foldl_cons, List.foldl_nil, List.length_cons, List.length_nil, leadBits,
        first, toNat_continuation]
      omega
  · have first : (UInt8.ofNat (v / 262144 % 0x08 + 0xF0)).toNat = v / 262144 + 0xF0 := by
      rw [toNat_ofNat_of_lt (by omega)]
      omega
    refine ⟨_, [_, _, _], rfl, ?_, ⟨mem_secondRange.mpr ?_, List.forall_mem_cons.mpr
      ⟨isContinuation_ofNat _, List.forall_mem_singleton.mpr (isContinuation_ofNat v)⟩⟩,
      spells _ _ ?_⟩
    · rw [tailLength?_eq, first, if_neg (by omega), if_neg (by omega), if_neg (by omega),
        if_neg (by omega), if_pos (by omega)]
      rfl
    · rw [first, toNat_continuation]
      omega
    · simp only [List.foldl_cons, List.foldl_nil, List.length_cons, List.length_nil, leadBits,
        first, toNat_continuation]
      omega

/-- An encoded character is read as that character. -/
theorem decodeLossy_utf8EncodeChar (c : Char) (rest : List UInt8) :
    decodeLossy (String.utf8EncodeChar c ++ rest) = c :: decodeLossy rest := by
  obtain ⟨lead, tail, encoded, length, follows, spelled⟩ := utf8EncodeChar_group c
  rw [encoded, decodeLossy_group length follows, spelled]

theorem decodeLossy_flatMap (characters : List Char) :
    decodeLossy (characters.flatMap String.utf8EncodeChar) = characters := by
  induction characters with
  | nil => rw [List.flatMap_nil, decodeLossy]
  | cons c characters ih => rw [List.flatMap_cons, decodeLossy_utf8EncodeChar, ih]

/-! ## Encoded texts -/

theorem toList_loop (bytes : ByteArray) (start : Nat) (reversed : List UInt8) :
    ByteArray.toList.loop bytes start reversed =
      reversed.reverse ++ bytes.data.toList.drop start := by
  fun_induction ByteArray.toList.loop bytes start reversed with
  | case1 start reversed inside ih =>
      have inside' : start < bytes.data.toList.length := inside
      have same : bytes.get! start = bytes.data.toList[start] := getElem!_pos bytes.data start inside
      rw [ih, List.drop_eq_getElem_cons inside', List.reverse_cons, List.append_assoc, same,
        List.singleton_append]
  | case2 start reversed outside =>
      have past : bytes.data.toList.length ≤ start := Nat.le_of_not_lt outside
      rw [List.drop_eq_nil_of_le past, List.append_nil]

theorem toList_eq (bytes : ByteArray) : bytes.toList = bytes.data.toList :=
  toList_loop bytes 0 []

/-- The bytes of a text. -/
theorem toList_toUTF8 (text : String) :
    text.toUTF8.toList = text.toList.flatMap String.utf8EncodeChar := by
  rw [toList_eq, String.toUTF8_eq_toByteArray, ← String.utf8Encode_toList]
  exact List.toList_data_toByteArray

/-- Text is read back as it was. -/
theorem decodeLossy_toUTF8 (text : String) : decodeLossy text.toUTF8.toList = text.toList := by
  rw [toList_toUTF8, decodeLossy_flatMap]

theorem fromUTF8?_toUTF8 (text : String) :
    String.fromUTF8? ⟨text.toUTF8.toList.toArray⟩ = some text := by
  rw [toList_eq]
  exact dif_pos text.isValidUTF8

/-- One decoder reads all bytes, also those that are the encoding of a text. -/
theorem textLossy_eq (bytes : List UInt8) :
    textLossy ⟨bytes.toArray⟩ = String.ofList (decodeLossy bytes) := by
  unfold textLossy String.fromUTF8?
  split
  next text valid =>
    split at valid
    next isText =>
      have back : text.toUTF8.toList = bytes := by
        rw [toList_eq, ← Option.some.inj valid]
        rfl
      rw [← back, decodeLossy_toUTF8, String.ofList_toList]
    next => cases valid
  next => rw [toList_eq]

end ScriptHost.Text.Utf8
