import ScriptHost.Errno
import ScriptHost.Interest
import ScriptHost.Table

/-!
# Descriptors, pipes and timers

The part of an operating system that a readiness loop talks to: numbered
descriptors for the ends of pipes, for timers, for opened files and for
readiness lists, all on a clock that moves only when told to.

A call that fails names its error number and may still have changed the state,
since a planned fault is used up by the call that meets it.
-/

namespace ScriptHost

/-- A run of bytes. -/
abbrev Bytes := List UInt8

/-- The number of a descriptor; negative numbers are never open. -/
abbrev Descriptor := Int32

/-- What a registration asks for, and the token that comes back with its events. -/
structure Watch where
  /-- The registrant's own name for the registration. -/
  token : UInt64
  /-- The readiness asked for. -/
  interest : Interest
deriving DecidableEq, Repr

/-- A reported readiness. -/
structure Readiness where
  /-- The token of the registration. -/
  token : UInt64
  /-- What the descriptor is ready for. -/
  ready : Interest
deriving DecidableEq, Repr

/-- When an armed timer will expire next.  Timers that expire together do so in
the order in which they were armed. -/
structure Alarm where
  /-- The time, in nanoseconds. -/
  expiry : Nat
  /-- The place in the order of arming. -/
  serial : Nat
deriving DecidableEq, Repr

/-- Whether one alarm goes off before another. -/
def Alarm.before (first second : Alarm) : Bool :=
  first.expiry < second.expiry
    || (first.expiry = second.expiry && first.serial < second.serial)

namespace Kernel

/-- A timer behind a descriptor. -/
structure Timer where
  /-- The next expiry, while armed. -/
  alarm : Option Alarm
  /-- The nanoseconds between expiries; a timer without interval expires once. -/
  interval : Nat
  /-- The expiries since the last read. -/
  count : Nat
deriving Repr

/-- A set of registrations and the queue of those that may be ready. -/
structure ReadyList where
  /-- The registrations. -/
  watches : Table Descriptor Watch
  /-- The descriptors to look at, in order. -/
  queue : List Descriptor
deriving Repr

/-- What a descriptor refers to. -/
inductive Resource where
  /-- The end of a pipe that is read. -/
  | reader (pipe : Nat)
  /-- The end of a pipe that is written. -/
  | writer (pipe : Nat)
  /-- A timer. -/
  | timer (state : Timer)
  /-- A regular file and the bytes not read yet. -/
  | file (rest : Bytes)
  /-- A readiness list. -/
  | readyList (state : ReadyList)
deriving Repr

/-- An open descriptor. -/
structure Opened where
  /-- What it refers to. -/
  resource : Resource
  /-- Whether calls fail where they would have to wait. -/
  nonblocking : Bool
  /-- Which opening it comes from; the number of a descriptor may be used again,
  this one never is. -/
  opening : Nat
deriving Repr

/-- A pipe. -/
structure Pipe where
  /-- The bytes written and not read yet. -/
  content : Bytes
  /-- Whether the end that is read is open. -/
  hasReader : Bool
  /-- Whether the end that is written is open. -/
  hasWriter : Bool
deriving Repr

/-- How many bytes a pipe holds. -/
def Pipe.capacity : Nat := 65536

/-- A pipe with no room left. -/
def Pipe.isFull (pipe : Pipe) : Bool :=
  Pipe.capacity ≤ pipe.content.length

/-- A fault that a later call will meet. -/
structure PlannedFault where
  /-- The name of the call. -/
  call : String
  /-- How many calls of that name are let through first. -/
  skip : Nat
  /-- The error number given. -/
  errno : Int
deriving Repr

end Kernel

/-- The state of the operating system. -/
structure Kernel where
  /-- The time, in nanoseconds. -/
  now : Nat
  /-- The open descriptors. -/
  opened : Table Descriptor Kernel.Opened
  /-- The pipes ever made. -/
  pipes : Table Nat Kernel.Pipe
  /-- The number of alarms ever set. -/
  alarms : Nat
  /-- The waits done so far. -/
  waits : Nat
  /-- The number of waits that are allowed, if there is a limit. -/
  waitLimit : Option Nat
  /-- The faults still to come. -/
  faults : List Kernel.PlannedFault
  /-- The openings done so far. -/
  openings : Nat
  /-- The numbers that the next descriptors take, where they are free. -/
  offers : List Descriptor
deriving Repr, Inhabited

/-- A call that gives a result or an error number. -/
abbrev KernelCall (α : Type) := ExceptT Int (StateM Kernel) α

namespace Kernel

/-- The number of standard input. -/
def stdin : Descriptor := 0

/-- A kernel whose standard input holds some bytes and ends after them. -/
def start (input : Bytes) (waitLimit : Option Nat) : Kernel :=
  { now := 0
    opened := Table.ofList [(stdin, ⟨.reader 0, false, 0⟩)]
    pipes := Table.ofList [(0, ⟨input, true, false⟩)]
    alarms := 0
    waits := 0
    waitLimit
    faults := []
    openings := 1
    offers := [] }

/-- What a descriptor refers to. -/
def resource? (kernel : Kernel) (fd : Descriptor) : Option Resource :=
  (kernel.opened.get? fd).map Opened.resource

/-- Change what a descriptor refers to. -/
def setResource (kernel : Kernel) (fd : Descriptor) (resource : Resource) : Kernel :=
  { kernel with opened := kernel.opened.modify fd fun opened => { opened with resource } }

/-! ## Faults -/

/-- The first planned fault of a call decides: it strikes now, or comes one call
nearer. -/
def strike (call : String) : List PlannedFault → Option Int × List PlannedFault
  | [] => (none, [])
  | fault :: rest =>
      if fault.call = call then
        match fault.skip with
        | 0 => (some fault.errno, rest)
        | skip + 1 => (none, { fault with skip } :: rest)
      else
        let (struck, rest) := strike call rest
        (struck, fault :: rest)

/-- Fail if a fault is planned for this call. -/
def meetFault (call : String) : KernelCall Unit := do
  let kernel ← get
  let (struck, faults) := strike call kernel.faults
  set { kernel with faults }
  match struck with
  | some errno => throw errno
  | none => pure ()

/-- Plan a fault after those already planned. -/
def plan (kernel : Kernel) (fault : PlannedFault) : Kernel :=
  { kernel with faults := kernel.faults ++ [fault] }

/-! ## Readiness -/

/-- What a descriptor is ready for. -/
def readiness (kernel : Kernel) (fd : Descriptor) : Interest :=
  match kernel.resource? fd with
  | some (.reader pipe) =>
      match kernel.pipes.get? pipe with
      | some pipe =>
          .ofConditions [(!pipe.content.isEmpty, .readable), (!pipe.hasWriter, .hangUp)]
      | none => .nothing
  | some (.writer pipe) =>
      match kernel.pipes.get? pipe with
      | some pipe => .ofConditions [(!pipe.isFull, .writable), (!pipe.hasReader, .error)]
      | none => .nothing
  | some (.timer timer) => .ofConditions [(0 < timer.count, .readable)]
  | _ => .nothing

/-- What a registration hears of: what it asked for, errors and hang-ups. -/
def heard (kernel : Kernel) (fd : Descriptor) (watch : Watch) : Interest :=
  let asked := (watch.interest.union .error).union .hangUp
  ⟨(kernel.readiness fd).bits &&& asked.bits⟩

/-- Put a descriptor at the end of a queue it is not in. -/
def enqueue (queue : List Descriptor) (fd : Descriptor) : List Descriptor :=
  if queue.contains fd then queue else queue ++ [fd]

/-- Queue a descriptor in every readiness list where its registration passes a test. -/
def wakeIf (kernel : Kernel) (fd : Descriptor) (concerns : Watch → Bool) : Kernel :=
  { kernel with
    opened := kernel.opened.mapValues fun _ opened =>
      match opened.resource with
      | .readyList list =>
          match list.watches.get? fd with
          | some watch =>
              if concerns watch then
                { opened with resource := .readyList { list with queue := enqueue list.queue fd } }
              else opened
          | none => opened
      | _ => opened }

/-- Queue a descriptor wherever it is registered. -/
def wake (kernel : Kernel) (fd : Descriptor) : Kernel :=
  kernel.wakeIf fd fun _ => true

/-- The open descriptor of an end of a pipe. -/
def endOf? (kernel : Kernel) (isEnd : Resource → Bool) : Option Descriptor :=
  (kernel.opened.entries.find? fun entry => isEnd entry.2.resource).map Prod.fst

/-- The end of a pipe that is read. -/
def readerOf? (kernel : Kernel) (pipe : Nat) : Option Descriptor :=
  kernel.endOf? fun resource =>
    match resource with
    | .reader other => other = pipe
    | _ => false

/-- The end of a pipe that is written. -/
def writerOf? (kernel : Kernel) (pipe : Nat) : Option Descriptor :=
  kernel.endOf? fun resource =>
    match resource with
    | .writer other => other = pipe
    | _ => false

/-! ## Opening and closing -/

/-- The least number from `candidate` on that is not open, trying at most `fuel`. -/
def freeFrom (kernel : Kernel) : Nat → Nat → Nat
  | 0, candidate => candidate
  | fuel + 1, candidate =>
      if kernel.opened.contains (Int32.ofNat candidate) then
        freeFrom kernel fuel (candidate + 1)
      else
        candidate

/-- The least number that a new descriptor may take, if there is one.  The standard
ones are taken. -/
def leastDescriptor? (kernel : Kernel) : Option Descriptor :=
  let candidate := kernel.freeFrom (kernel.opened.size + 1) 3
  let fd := Int32.ofNat candidate
  if candidate < Nat.pow 2 31 ∧ kernel.opened.contains fd = false then some fd else none

/-- The number of the next descriptor: the one on offer where it is free, else the
least. -/
def freeDescriptor? (kernel : Kernel) : Option Descriptor :=
  match kernel.offers with
  | fd :: _ =>
      if 0 ≤ fd ∧ kernel.opened.contains fd = false then some fd else kernel.leastDescriptor?
  | [] => kernel.leastDescriptor?

/-- Open a descriptor for a resource, unless every number is taken. -/
def openResource (kernel : Kernel) (resource : Resource) (nonblocking : Bool) :
    Option Descriptor × Kernel :=
  match kernel.freeDescriptor? with
  | some fd =>
      (some fd,
        { kernel with
          opened := kernel.opened.insert fd ⟨resource, nonblocking, kernel.openings⟩
          openings := kernel.openings + 1
          offers := kernel.offers.tail })
  | none => (none, kernel)

/-- The number that stands for a descriptor that could not be opened. -/
def notOpened : Descriptor := -1

/-- A new pipe: the end that is read and the end that is written. -/
def openPipe (kernel : Kernel) : (Descriptor × Descriptor) × Kernel :=
  let pipe := kernel.pipes.size
  let kernel := { kernel with pipes := kernel.pipes.insert pipe ⟨[], true, true⟩ }
  let (reader, kernel) := kernel.openResource (.reader pipe) false
  let (writer, kernel) := kernel.openResource (.writer pipe) false
  ((reader.getD notOpened, writer.getD notOpened), kernel)

/-- Which opening a descriptor comes from. -/
def opening? (kernel : Kernel) (fd : Descriptor) : Option Nat :=
  (kernel.opened.get? fd).map Opened.opening

/-- Forget a descriptor in every readiness list. -/
def unwatch (kernel : Kernel) (fd : Descriptor) : Kernel :=
  { kernel with
    opened := kernel.opened.mapValues fun _ opened =>
      match opened.resource with
      | .readyList list =>
          { opened with
            resource := .readyList
              { watches := list.watches.erase fd, queue := list.queue.filter (· ≠ fd) } }
      | _ => opened }

/-- Mark an end of a pipe as gone and wake the other. -/
def hangUp (kernel : Kernel) : Resource → Kernel
  | .reader pipe =>
      let kernel :=
        { kernel with pipes := kernel.pipes.modify pipe fun p => { p with hasReader := false } }
      match kernel.writerOf? pipe with
      | some other => kernel.wake other
      | none => kernel
  | .writer pipe =>
      let kernel :=
        { kernel with pipes := kernel.pipes.modify pipe fun p => { p with hasWriter := false } }
      match kernel.readerOf? pipe with
      | some other => kernel.wake other
      | none => kernel
  | _ => kernel

/-- Close a descriptor; closing one that is not open does nothing. -/
def close (kernel : Kernel) (fd : Descriptor) : Kernel :=
  match kernel.resource? fd with
  | none => kernel
  | some resource =>
      let kernel := { kernel with opened := kernel.opened.erase fd }
      (kernel.unwatch fd).hangUp resource

/-! ## Reading and writing -/

/-- The eight bytes of a number, lowest first. -/
def littleEndian (n : Nat) : Bytes :=
  (List.range 8).map fun place => UInt8.ofNat (n / Nat.pow 256 place)

/-- Faults planned for reads and writes do not concern regular files. -/
def meetTransferFault (call : String) (fd : Descriptor) : KernelCall Unit := do
  match (← get).resource? fd with
  | some (.file _) => pure ()
  | _ => meetFault call

/-- Take at most `length` bytes from a pipe.  A call that may wait does so while
the pipe is empty, even for nothing.  Taking from a full pipe wakes the writer. -/
def readPipe (fd : Descriptor) (pipe : Nat) (length : Nat) : KernelCall Bytes := do
  let kernel ← get
  match kernel.pipes.get? pipe, kernel.opened.get? fd with
  | some state, some opened =>
      if state.content.isEmpty then
        if !state.hasWriter then pure []
        else if !opened.nonblocking then throw Errno.deadlock
        else if length = 0 then pure []
        else throw Errno.wouldBlock
      else if length = 0 then
        pure []
      else
        let taken := state.content.take length
        let frees := state.hasWriter && state.isFull
        let kernel :=
          { kernel with
            pipes := kernel.pipes.insert pipe
              { state with content := state.content.drop length } }
        match frees, kernel.writerOf? pipe with
        | true, some writer => set (kernel.wakeIf writer fun watch => watch.interest.meets .writable)
        | _, _ => set kernel
        pure taken
  | _, _ => throw Errno.badDescriptor

/-- Take at most `length` bytes from a descriptor. -/
def read (fd : Descriptor) (length : Nat) : KernelCall Bytes := do
  meetTransferFault "read" fd
  let kernel ← get
  match kernel.resource? fd with
  | some (.reader pipe) => readPipe fd pipe length
  | some (.timer timer) =>
      if length < 8 then throw Errno.invalid
      else if timer.count = 0 then throw Errno.wouldBlock
      else
        set (kernel.setResource fd (.timer { timer with count := 0 }))
        pure (littleEndian timer.count)
  | some (.file rest) =>
      set (kernel.setResource fd (.file (rest.drop length)))
      pure (rest.take length)
  | some (.readyList _) => throw Errno.invalid
  | some (.writer _) | none => throw Errno.badDescriptor

/-- Put bytes into a pipe as far as they fit and wake the reader.  Putting in
nothing succeeds, unless the call may wait and the pipe is full. -/
def writePipe (fd : Descriptor) (pipe : Nat) (bytes : Bytes) : KernelCall Nat := do
  let kernel ← get
  match kernel.pipes.get? pipe, kernel.opened.get? fd with
  | some state, some opened =>
      if state.hasReader && state.isFull && !opened.nonblocking then throw Errno.deadlock
      else if bytes.isEmpty then pure 0
      else if !state.hasReader then throw Errno.brokenPipe
      else if state.isFull then throw Errno.wouldBlock
      else
        let written := bytes.take (Pipe.capacity - state.content.length)
        let kernel :=
          { kernel with
            pipes := kernel.pipes.insert pipe { state with content := state.content ++ written } }
        match kernel.readerOf? pipe with
        | some reader => set (kernel.wakeIf reader fun watch => watch.interest.meets .readable)
        | none => set kernel
        pure written.length
  | _, _ => throw Errno.badDescriptor

/-- Put bytes into a descriptor; the number that were taken. -/
def write (fd : Descriptor) (bytes : Bytes) : KernelCall Nat := do
  meetTransferFault "write" fd
  let kernel ← get
  match kernel.resource? fd with
  | some (.writer pipe) => writePipe fd pipe bytes
  | some (.timer _) | some (.readyList _) => throw Errno.invalid
  | some (.reader _) | some (.file _) | none => throw Errno.badDescriptor

/-- Whether calls on a descriptor fail where they would have to wait. -/
def isNonblocking (fd : Descriptor) : KernelCall Bool := do
  meetFault "fcntl"
  match (← get).opened.get? fd with
  | some opened => pure opened.nonblocking
  | none => throw Errno.badDescriptor

/-- Make calls on a descriptor fail where they would have to wait. -/
def setNonblocking (fd : Descriptor) : KernelCall Unit := do
  meetFault "fcntl"
  let kernel ← get
  if kernel.opened.contains fd then
    set { kernel with
          opened := kernel.opened.modify fd fun opened => { opened with nonblocking := true } }
  else
    throw Errno.badDescriptor

end Kernel

end ScriptHost
