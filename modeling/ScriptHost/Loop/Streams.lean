import ScriptHost.Loop.Poller

/-!
# Reading and writing descriptors

The calls that scripts use on descriptors, under the names of their system
calls.  Reading to the end goes on after interruptions and gathers the pieces,
so how the reads cut the stream does not show in the result.
-/

namespace ScriptHost.Streams

/-- Take at most `length` bytes. -/
def read (fd : Descriptor) (length : Nat) : SystemCall Bytes :=
  Kernel.named "read" (Kernel.read fd length)

/-- Put bytes in; the number taken. -/
def write (fd : Descriptor) (bytes : Bytes) : SystemCall Nat :=
  Kernel.named "write" (Kernel.write fd bytes)

/-- Make reads and writes fail where they would have to wait. -/
def setNonblocking (fd : Descriptor) : SystemCall Unit := do
  let _ ← Kernel.named "fcntl" (Kernel.isNonblocking fd)
  Kernel.named "fcntl" (Kernel.setNonblocking fd)

/-- Gather the pieces of a source until it gives an empty one.  An interruption
is no piece; any other failure ends the reading.  `pieces` holds those already
read, the latest first, and at most `fuel` reads are made. -/
def gather {σ : Type} (read : σ → Except Int Bytes × σ) :
    Nat → List Bytes → σ → Except Int Bytes × σ
  | 0, _, source => (.error Errno.deadlock, source)
  | fuel + 1, pieces, source =>
      match read source with
      | (.ok [], source) => (.ok pieces.reverse.flatten, source)
      | (.ok piece, source) => gather read fuel (piece :: pieces) source
      | (.error errno, source) =>
          if errno = Errno.interrupted then gather read fuel pieces source
          else (.error errno, source)

/-- A number of reads after which a descriptor has nothing left to give: each
takes a byte or uses up a planned fault, until one finds the end. -/
def readsLeft (kernel : Kernel) (fd : Descriptor) : Nat :=
  let buffered :=
    match kernel.resource? fd with
    | some (.reader pipe) => ((kernel.pipes.get? pipe).map fun p => p.content.length).getD 0
    | some (.file rest) => rest.length
    | some (.timer _) => 1
    | _ => 0
  buffered + kernel.faults.length + 1

/-- Everything up to the end of input, read in pieces of at most `chunk` bytes. -/
def readToEnd (fd : Descriptor) (chunk : Nat) : SystemCall Bytes :=
  Kernel.named "read" fun kernel =>
    gather (Kernel.read fd (max chunk 1)) (readsLeft kernel fd) [] kernel

end ScriptHost.Streams
