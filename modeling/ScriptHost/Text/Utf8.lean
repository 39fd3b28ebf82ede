/-!
# Reading bytes as UTF-8

`decodeLossy` reads any bytes: each maximal part that begins a character but
does not complete it, and each byte that can begin none, becomes one
replacement character.  Valid text is read unchanged.
-/

namespace ScriptHost.Text.Utf8

/-- The character that stands for bytes that are not text. -/
def replacement : Char := '\uFFFD'

/-- How many bytes follow this first byte of a character, if it can be one. -/
def tailLength? (lead : UInt8) : Option Nat :=
  if lead < 0x80 then some 0
  else if lead < 0xC2 then none
  else if lead < 0xE0 then some 1
  else if lead < 0xF0 then some 2
  else if lead < 0xF5 then some 3
  else none

/-- The range of the second byte.  It keeps out longer spellings of shorter
characters, surrogates, and numbers above the last character. -/
def secondRange (lead : UInt8) : UInt8 × UInt8 :=
  if lead = 0xE0 then (0xA0, 0xBF)
  else if lead = 0xED then (0x80, 0x9F)
  else if lead = 0xF0 then (0x90, 0xBF)
  else if lead = 0xF4 then (0x80, 0x8F)
  else (0x80, 0xBF)

/-- The longest run of at most `count` bytes that may continue a character. -/
def tailBytes : Nat → UInt8 × UInt8 → List UInt8 → List UInt8
  | 0, _, _ => []
  | _ + 1, _, [] => []
  | count + 1, (low, high), b :: rest =>
      if low ≤ b ∧ b ≤ high then b :: tailBytes count (0x80, 0xBF) rest else []

/-- The bits a first byte contributes when `count` bytes follow it. -/
def leadBits (lead : UInt8) : Nat → Nat
  | 0 => lead.toNat
  | 1 => lead.toNat % 0x20
  | 2 => lead.toNat % 0x10
  | _ => lead.toNat % 0x08

/-- The character of a first byte and its complete tail. -/
def assemble (lead : UInt8) (tail : List UInt8) : Char :=
  Char.ofNat (tail.foldl (fun bits b => bits * 0x40 + b.toNat % 0x40) (leadBits lead tail.length))

/-- The first character and the number of bytes after `lead` that it takes. -/
def firstChar (lead : UInt8) (rest : List UInt8) : Char × Nat :=
  match tailLength? lead with
  | none => (replacement, 0)
  | some count =>
      let tail := tailBytes count (secondRange lead) rest
      if tail.length = count then (assemble lead tail, count) else (replacement, tail.length)

/-- The characters of any bytes. -/
def decodeLossy : List UInt8 → List Char
  | [] => []
  | lead :: rest =>
      let (first, taken) := firstChar lead rest
      first :: decodeLossy (rest.drop taken)
termination_by bytes => bytes.length
decreasing_by simp only [List.length_drop, List.length_cons]; omega

/-- The text of any bytes. -/
def textLossy (bytes : ByteArray) : String :=
  match String.fromUTF8? bytes with
  | some text => text
  | none => String.ofList (decodeLossy bytes.toList)

end ScriptHost.Text.Utf8
