import ScriptHost.Kernel.Clock

/-!
# Waiting for readiness

Each readiness list keeps a queue of descriptors that may be ready.  A wait
walks the queue from its head: what is ready is reported and goes back to the
end, so that it is reported again until it has been served; what is not ready
leaves the queue; what the walk does not reach keeps its place.

When nothing is ready the clock jumps to the next expiry, if that comes in time.
-/

namespace ScriptHost.Kernel

/-- A new readiness list. -/
def createReadyList : KernelCall Descriptor := do
  meetFault "epoll_create1"
  match (← get).openResource (.readyList ⟨Table.empty, []⟩) false with
  | (some fd, kernel) =>
      set kernel
      pure fd
  | (none, _) => throw Errno.tooManyOpened

/-- The registrations behind a descriptor. -/
def readyList? (kernel : Kernel) (list : Descriptor) : Option ReadyList :=
  match kernel.resource? list with
  | some (.readyList state) => some state
  | _ => none

/-- Queue a descriptor if its registration hears of something. -/
def queueIfReady (kernel : Kernel) (list fd : Descriptor) : Kernel :=
  match kernel.readyList? list with
  | some state =>
      match state.watches.get? fd with
      | some watch =>
          if (kernel.heard fd watch).bits ≠ 0 then
            kernel.setResource list (.readyList { state with queue := enqueue state.queue fd })
          else kernel
      | none => kernel
  | none => kernel

/-- The checks that every change of a registration starts with. -/
def registrations (list fd : Descriptor) : KernelCall ReadyList := do
  meetFault "epoll_ctl"
  let kernel ← get
  match kernel.resource? fd, kernel.readyList? list with
  | none, _ | _, none => throw Errno.badDescriptor
  | some (.file _), _ => throw Errno.notPermitted
  | some _, some state => pure state

/-- Register a descriptor that is not registered. -/
def watch (list fd : Descriptor) (token : UInt64) (interest : Interest) : KernelCall Unit := do
  let state ← registrations list fd
  if state.watches.contains fd then throw Errno.alreadyExists
  let watches := state.watches.insert fd ⟨token, interest.requested⟩
  modify fun kernel =>
    (kernel.setResource list (.readyList { state with watches })).queueIfReady list fd

/-- Change what a registered descriptor asks for. -/
def rewatch (list fd : Descriptor) (token : UInt64) (interest : Interest) : KernelCall Unit := do
  let state ← registrations list fd
  if !state.watches.contains fd then throw Errno.noEntry
  let watches := state.watches.insert fd ⟨token, interest.requested⟩
  modify fun kernel =>
    (kernel.setResource list (.readyList { state with watches })).queueIfReady list fd

/-- Remove a registration. -/
def forget (list fd : Descriptor) : KernelCall Unit := do
  let state ← registrations list fd
  if !state.watches.contains fd then throw Errno.noEntry
  modify fun kernel =>
    kernel.setResource list
      (.readyList ⟨state.watches.erase fd, state.queue.filter (· ≠ fd)⟩)

/-- What a walk over a queue has found. -/
structure Walk where
  /-- The events, in order. -/
  events : List Readiness
  /-- The descriptors reported, in order. -/
  reported : List Descriptor
  /-- The descriptors not reached. -/
  unreached : List Descriptor

/-- Walk over a queue until `room` events have been found. -/
def walk (kernel : Kernel) (watches : Table Descriptor Watch) : Nat → List Descriptor → Walk
  | 0, queue => ⟨[], [], queue⟩
  | _ + 1, [] => ⟨[], [], []⟩
  | room + 1, fd :: rest =>
      match watches.get? fd with
      | some watch =>
          let ready := kernel.heard fd watch
          if ready.bits ≠ 0 then
            let found := kernel.walk watches room rest
            { found with
              events := ⟨watch.token, ready⟩ :: found.events
              reported := fd :: found.reported }
          else kernel.walk watches (room + 1) rest
      | none => kernel.walk watches (room + 1) rest

/-- Report at most `room` ready registrations. -/
def collect (kernel : Kernel) (list : Descriptor) (room : Nat) : List Readiness × Kernel :=
  match kernel.readyList? list with
  | some state =>
      let found := kernel.walk state.watches room state.queue
      (found.events,
        kernel.setResource list
          (.readyList { state with queue := found.unreached ++ found.reported }))
  | none => ([], kernel)

/-- How often the clock may jump inside one wait. -/
def maxJumps : Nat := 1000000

/-- Collect events, jumping to the next expiry while there are none and it comes
no later than the deadline. -/
def collectBy (list : Descriptor) (room : Nat) (deadline : Option Nat) :
    Nat → KernelCall (List Readiness)
  | 0 => throw Errno.deadlock
  | jumps + 1 => do
      let (events, kernel) := (← get).collect list room
      set kernel
      if !events.isEmpty then
        pure events
      else
        match kernel.nextAlarm?, deadline with
        | none, none => throw Errno.deadlock
        | none, some deadline =>
            set (kernel.moveTo deadline)
            pure []
        | some (_, alarm), none =>
            set (kernel.moveTo alarm.expiry).fire
            collectBy list room deadline jumps
        | some (_, alarm), some deadline =>
            if alarm.expiry ≤ deadline then
              set (kernel.moveTo alarm.expiry).fire
              collectBy list room (some deadline) jumps
            else
              set (kernel.moveTo deadline)
              pure []

/-- Wait until a registration is ready, for at most `timeout` milliseconds if one
is given, and report at most `room` of them. -/
def wait (list : Descriptor) (room : Nat) (timeout : Option Nat) :
    KernelCall (List Readiness) := do
  meetFault "epoll_wait"
  let kernel ← get
  let kernel := { kernel with waits := kernel.waits + 1 }
  set kernel
  match kernel.waitLimit with
  | some limit => if limit < kernel.waits then throw Errno.canceled
  | none => pure ()
  collectBy list room (timeout.map fun millis => kernel.now + millis * nanosPerMilli) maxJumps

end ScriptHost.Kernel
