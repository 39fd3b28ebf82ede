import ScriptHost.Journal
import ScriptHost.Loop.EventLoop
import ScriptHost.Loop.Streams

/-!
# Timers

A timer is a descriptor of its own that is registered with the loop for
reading.  The live timers are kept by descriptor with the number that tells
them from earlier owners of that descriptor.  When a timer has rung, its count
of expiries is read, so that the registration falls silent, and a timer that
rings once is released: taken out of the table, out of the loop, and closed.
-/

namespace ScriptHost

/-- A live timer. -/
structure LiveTimer where
  /-- Its number. -/
  id : Nat
  /-- Whether it rings again and again. -/
  isRepeating : Bool
deriving DecidableEq, Repr

/-- The live timers of a loop. -/
structure Timers where
  /-- The live timers, by descriptor. -/
  live : Table Descriptor LiveTimer
  /-- The number of the next timer. -/
  nextId : Nat

/-- A loop with its timers. -/
structure Reactor (η : Type) where
  /-- The loop. -/
  loop : EventLoop η
  /-- Its timers. -/
  timers : Timers

/-- A call on a reactor and the kernel below it. -/
abbrev ReactorCall (η α : Type) := ExceptT Error (StateM (Kernel × Reactor η)) α

namespace Reactor

variable {η : Type}

/-- A reactor with nothing registered. -/
def create (capacity : Nat) : SystemCall (Reactor η) := do
  let loop ← EventLoop.create capacity
  pure ⟨loop, ⟨.empty, 1⟩⟩

/-- Run a system call below a reactor. -/
def below {α : Type} (call : SystemCall α) : ReactorCall η α :=
  fun (kernel, reactor) =>
    match call kernel with
    | (.ok value, kernel) => (.ok value, (kernel, reactor))
    | (.error cause, kernel) => (.error (.system cause), (kernel, reactor))

/-- Run a call on the loop of a reactor. -/
def onLoop {α : Type} (call : LoopCall η α) : ReactorCall η α :=
  fun (kernel, reactor) =>
    match call (kernel, reactor.loop) with
    | (answer, (kernel, loop)) => (answer, (kernel, { reactor with loop }))

/-- The timers of a reactor. -/
def timersNow : ReactorCall η Timers :=
  return (← get).2.timers

/-- Change the timers of a reactor. -/
def changeTimers (f : Timers → Timers) : ReactorCall η Unit :=
  modify fun (kernel, reactor) => (kernel, { reactor with timers := f reactor.timers })

/-- Close a descriptor. -/
def closeDescriptor (fd : Descriptor) : ReactorCall η Unit :=
  modify fun (kernel, reactor) => (kernel.close fd, reactor)

/-- Run something after a call that may fail, and pass the call's answer on. -/
def afterwards {α : Type} (call : ReactorCall η α) (after : Except Error α → ReactorCall η Unit) :
    ReactorCall η α :=
  fun state =>
    match call state with
    | (answer, state) =>
        match after answer state with
        | (.ok (), state) => (answer, state)
        | (.error cause, state) => (.error cause, state)

/-- Run something if a call fails. -/
def onFailure {α : Type} (call : ReactorCall η α) (undo : ReactorCall η Unit) :
    ReactorCall η α :=
  afterwards call fun answer =>
    match answer with
    | .ok _ => pure ()
    | .error _ => undo

/-! ## Timers -/

/-- A delay that arms a timer: no delay at all would disarm it. -/
def armingDelay (delay : Kernel.Span) : Kernel.Span :=
  if delay = Kernel.Span.zero then ⟨0, 1⟩ else delay

/-- Arm the descriptor of a timer. -/
def arm (fd : Descriptor) (delay : Kernel.Span) (isRepeating : Bool) : SystemCall Unit :=
  let value := armingDelay delay
  Kernel.named "timerfd_settime"
    (Kernel.setTimer fd value (if isRepeating then value else .zero))

/-- Whether a timer is live. -/
def isLive (timers : Timers) (timer : TimerHandle) : Bool :=
  match timers.live.get? timer.fd with
  | some entry => entry.id = timer.id
  | none => false

/-- Whether a live timer rings again and again. -/
def isRepeating? (timers : Timers) (timer : TimerHandle) : Option Bool :=
  match timers.live.get? timer.fd with
  | some entry => if entry.id = timer.id then some entry.isRepeating else none
  | none => none

/-- Start a timer whose handler is made from its handle.  If any step fails,
nothing of it is left. -/
def schedule (handlerFor : TimerHandle → η) (delay : Kernel.Span) (isRepeating : Bool) :
    ReactorCall η TimerHandle := do
  let fd ← below (Kernel.named "timerfd_create" Kernel.createTimer)
  onFailure (below (arm fd delay isRepeating)) (closeDescriptor fd)
  let id := (← timersNow).nextId
  let timer : TimerHandle := ⟨fd, id⟩
  changeTimers fun timers => ⟨timers.live.insert fd ⟨id, isRepeating⟩, id + 1⟩
  onFailure (onLoop (EventLoop.add fd .readable (handlerFor timer))) do
    changeTimers fun timers => { timers with live := timers.live.erase fd }
    closeDescriptor fd
  pure timer

/-- Release a timer; whether it was live.  Its descriptor is closed even if it
cannot be taken out of the loop. -/
def release (timer : TimerHandle) : ReactorCall η Bool := do
  if isLive (← timersNow) timer then
    changeTimers fun timers => { timers with live := timers.live.erase timer.fd }
    afterwards (do let _ ← onLoop (EventLoop.remove timer.fd)) fun _ => closeDescriptor timer.fd
    pure true
  else
    pure false

/-- Read the count of expiries of a timer.  One that has not expired since the
last read has none. -/
def drain (fd : Descriptor) : ReactorCall η Unit :=
  fun (kernel, reactor) =>
    match Streams.read fd 8 kernel with
    | (.ok _, kernel) => (.ok (), (kernel, reactor))
    | (.error cause, kernel) =>
        if cause.wouldBlock then (.ok (), (kernel, reactor))
        else (.error (.system cause), (kernel, reactor))

/-- The first failure of two answers. -/
def firstFailure (first second : Except Error Unit) : Except Error Unit :=
  match first with
  | .ok () => second
  | .error cause => .error cause

/-- What follows the callback of a timer that is still live: its expiries are
read, and a timer that rings once is released.  Of several failures the
callback's comes first, then that of the reading. -/
def settle (timer : TimerHandle) (isRepeating : Bool) (outcome : Except Error Unit) :
    ReactorCall η Unit :=
  fun state =>
    let (drained, state) := drain timer.fd state
    let (released, state) :=
      if isRepeating then (.ok (), state)
      else
        match release timer state with
        | (.ok _, state) => (.ok (), state)
        | (.error cause, state) => (.error cause, state)
    (firstFailure outcome (firstFailure drained released), state)

/-- Whether a descriptor is that of a live timer. -/
def times (reactor : Reactor η) (fd : Descriptor) : Bool :=
  reactor.timers.live.contains fd

/-- Whether a descriptor is the loop's own or that of a live timer. -/
def owns (reactor : Reactor η) (fd : Descriptor) : Bool :=
  reactor.loop.poller.list = fd || reactor.times fd

/-- Close everything that a reactor has open. -/
def dismantle (kernel : Kernel) (reactor : Reactor η) : Kernel :=
  reactor.timers.live.keys.foldl Kernel.close (kernel.close reactor.loop.poller.list)

end Reactor

end ScriptHost
