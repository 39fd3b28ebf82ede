import ScriptHost.Loop.Poller

/-!
# Event loops

A loop keeps one handler for each registered descriptor.  Every registration
gets a token of its own, made of the descriptor and a generation, and an event
is for a handler only while the registration with its token is in force; so an
event that was collected for one owner of a descriptor number never reaches the
next.

The loop is generic in its handlers.  Running them is left to those who know
what a handler does.
-/

namespace ScriptHost

/-- The tokens of registrations: a generation above a descriptor. -/
abbrev Token := UInt64

namespace Token

/-- The token of a registration. -/
def make (fd : Descriptor) (generation : UInt32) : Token :=
  (generation.toUInt64 <<< 32) ||| fd.toUInt32.toUInt64

/-- The descriptor of a token. -/
def descriptor (token : Token) : Descriptor :=
  token.toUInt32.toInt32

end Token

/-- What to do with an error that a handler gave. -/
inductive ErrorHook where
  /-- Write it to the log. -/
  | log
  /-- Give it to a listener. -/
  | listener (id : Nat)
deriving DecidableEq, Repr

/-- A handler and the registration that it was given with. -/
structure Registration (η : Type) where
  /-- The token of its events. -/
  token : Token
  /-- How many registrations were asked for before it; never used again. -/
  serial : Nat
  /-- From which opening its descriptor came when it was asked for. -/
  opening : Option Nat
  /-- What to run. -/
  handler : η

/-- The state of an event loop. -/
structure EventLoop (η : Type) where
  /-- What the loop waits on. -/
  poller : Poller
  /-- The handlers, by descriptor. -/
  registrations : Table Descriptor (Registration η)
  /-- The generation of the next registration. -/
  generation : UInt32
  /-- How many registrations were asked for so far. -/
  serial : Nat
  /-- The registrations whose handlers are being run, innermost first. -/
  running : List Nat
  /-- What to do with errors of handlers. -/
  hook : ErrorHook
  /-- The removed descriptors that the kernel refused to forget. -/
  refused : List Descriptor

/-- A call on a loop and the kernel below it. -/
abbrev LoopCall (η α : Type) := ExceptT Error (StateM (Kernel × EventLoop η)) α

namespace EventLoop

variable {η : Type}

/-- Run a system call below a loop. -/
def below {α : Type} (call : SystemCall α) : LoopCall η α :=
  fun (kernel, loop) =>
    match call kernel with
    | (.ok value, kernel) => (.ok value, (kernel, loop))
    | (.error cause, kernel) => (.error (.system cause), (kernel, loop))

/-- Change the state of the loop. -/
def change (f : EventLoop η → EventLoop η) : LoopCall η Unit :=
  modify fun (kernel, loop) => (kernel, f loop)

/-- The state of the loop. -/
def current : LoopCall η (EventLoop η) :=
  return (← get).2

/-- A loop with nothing registered. -/
def create (capacity : Nat) : SystemCall (EventLoop η) := do
  let poller ← Poller.create capacity
  pure
    { poller
      registrations := .empty
      generation := 1
      serial := 0
      running := []
      hook := .log
      refused := [] }

/-- Register a descriptor with a handler.  A generation is used up even if the
kernel refuses. -/
def add (fd : Descriptor) (interest : Interest) (handler : η) : LoopCall η Unit := do
  let (kernel, loop) ← get
  let registration : Registration η :=
    ⟨Token.make fd loop.generation, loop.serial, kernel.opening? fd, handler⟩
  change fun loop =>
    { loop with generation := loop.generation + 1, serial := loop.serial + 1 }
  below (loop.poller.register fd registration.token interest)
  change fun loop => { loop with registrations := loop.registrations.insert fd registration }

/-- Change what a registered descriptor asks for. -/
def modify (fd : Descriptor) (interest : Interest) : LoopCall η Unit := do
  let loop ← current
  match loop.registrations.get? fd with
  | none => throw (.ofSystem "epoll_ctl" Errno.noEntry)
  | some registration => below (loop.poller.modify fd registration.token interest)

/-- Have the kernel forget a descriptor.  It is noted if the kernel refuses. -/
def forget (fd : Descriptor) : LoopCall η Unit :=
  fun (kernel, loop) =>
    match loop.poller.deregister fd kernel with
    | (.ok (), kernel) => (.ok (), (kernel, loop))
    | (.error cause, kernel) =>
        (.error (.system cause), (kernel, { loop with refused := fd :: loop.refused }))

/-- Remove the registration of a descriptor; whether there was one.  The handler
is gone even if the kernel refuses. -/
def remove (fd : Descriptor) : LoopCall η Bool := do
  let loop ← current
  if loop.registrations.contains fd then
    change fun loop => { loop with registrations := loop.registrations.erase fd }
    forget fd
    pure true
  else
    pure false

/-- Whether a descriptor is registered. -/
def contains (loop : EventLoop η) (fd : Descriptor) : Bool :=
  loop.registrations.contains fd

/-- The number of registered descriptors. -/
def size (loop : EventLoop η) : Nat :=
  loop.registrations.size

/-- Whether nothing is registered. -/
def isEmpty (loop : EventLoop η) : Bool :=
  loop.size = 0

/-- The registration that an event is for: the one in force for its descriptor,
if it has the event's token and its handler is not being run already. -/
def addressee? (loop : EventLoop η) (event : Readiness) : Option (Registration η) :=
  match loop.registrations.get? (Token.descriptor event.token) with
  | some registration =>
      if registration.token = event.token ∧ registration.serial ∉ loop.running then
        some registration
      else none
  | none => none

/-- The number of the registration in force for a descriptor. -/
def inForce? (loop : EventLoop η) (fd : Descriptor) : Option Nat :=
  (loop.registrations.get? fd).map Registration.serial

/-- How a loop with so many registrations is shown to a developer. -/
def debugTextOf (registered : Nat) : String :=
  "EventLoop \x7b registered: " ++ toString registered ++ " \x7d"

/-- How a loop is shown to a developer. -/
def debugText (loop : EventLoop η) : String :=
  debugTextOf loop.size

end EventLoop

end ScriptHost
