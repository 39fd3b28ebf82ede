import ScriptHost.Kernel.Basic
import ScriptHost.Text.Utf8

/-!
# Byte buffers

Reading, writing and copying text and bytes at offsets.  Offsets and lengths are
machine words; whatever they are, a transfer is cut to the bytes that are there,
and no sum or difference of words leaves its range.
-/

namespace ScriptHost.Buffer

/-- The number of bytes, as a word. -/
def size (buffer : Bytes) : UInt64 :=
  UInt64.ofNat buffer.length

/-- The sum of two words, or the largest word where the sum is past it. -/
def saturatingAdd (first second : UInt64) : UInt64 :=
  let sum := first + second
  if sum < first then UInt64.ofNat (Nat.pow 2 64 - 1) else sum

/-- Some bytes from an offset on. -/
def slice (buffer : Bytes) (offset count : UInt64) : Bytes :=
  (buffer.drop offset.toNat).take count.toNat

/-- The buffer with some bytes laid over it at an offset. -/
def overlay (buffer : Bytes) (offset : UInt64) (bytes : Bytes) : Bytes :=
  buffer.take offset.toNat ++ bytes ++ buffer.drop (offset.toNat + bytes.length)

/-- Copy from one buffer into another: the number of bytes copied and the buffer
after that. -/
def copyFrom (target source : Bytes) (offset length sourceOffset : UInt64) :
    UInt64 × Bytes :=
  if size target ≤ offset ∨ size source ≤ sourceOffset then
    (0, target)
  else
    let count := min length (min (size target - offset) (size source - sourceOffset))
    (count, overlay target offset (slice source sourceOffset count))

/-- Write a text: the number of bytes written and the buffer after that. -/
def writeString (target : Bytes) (text : String) (offset : UInt64) : UInt64 × Bytes :=
  let source := text.toUTF8.toList
  if size target ≤ offset then
    (0, target)
  else
    let count := min (size source) (size target - offset)
    (count, overlay target offset (slice source 0 count))

/-- Read a text.  Bytes that are not text become replacement characters. -/
def readString (buffer : Bytes) (length offset : UInt64) : String :=
  if size buffer ≤ offset then
    ""
  else
    let stop := min (saturatingAdd offset length) (size buffer)
    Text.Utf8.textLossy ⟨(slice buffer offset (stop - offset)).toArray⟩

end ScriptHost.Buffer
