import ScriptHost.World

/-!
# Running handlers

A poll waits once and then takes the events of that wait in order.  Each is
given to the handler of its registration if that registration is in force at
its turn and its handler is not being run already.  An error of a handler goes
to the hook that is installed when the handler comes back; it stops nothing.

A handler may make others let go of the loop that runs it.  Whoever polls a loop
holds it, so it goes only after the poll.

An event is reported with the registration that it is for.  The journal is told
of it when a handler is started, so that who was meant can be compared with who
was called.
-/

namespace ScriptHost.Dispatch

variable {σ : Type}

open World

/-! ## Timers -/

/-- Start a timer with a script for its callback. -/
def schedule (reactor : Nat) (delay : Kernel.Span) (isRepeating : Bool) (callback : Script σ) :
    Action σ TimerHandle := do
  let start := (← get).kernel.now
  let timer ← onReactor reactor
    (Reactor.schedule (fun timer => .timer timer isRepeating callback) delay isRepeating)
  tell (.scheduled reactor timer isRepeating ((← get).kernel.opening? timer.fd))
  tell (.armed reactor timer isRepeating start delay)
  pure timer

/-- Start a timer that rings once, after so many milliseconds. -/
def setTimeout (reactor : Nat) (millis : UInt64) (callback : Script σ) : Action σ TimerHandle :=
  schedule reactor (.ofMillis millis.toNat) false callback

/-- Start a timer that rings again and again, every so many milliseconds. -/
def setInterval (reactor : Nat) (millis : UInt64) (callback : Script σ) : Action σ TimerHandle :=
  schedule reactor (.ofMillis millis.toNat) true callback

/-- Release a timer before its time; whether it was live. -/
def cancel (reactor : Nat) (timer : TimerHandle) : Action σ Bool := do
  if ((← get).reactor? reactor).any fun state => Reactor.isLive state.timers timer then
    tell (.cancelled reactor timer)
  onReactor reactor (Reactor.release timer)

/-- Settle a timer whose callback has come back, unless it has been released since. -/
def settle (reactor : Nat) (timer : TimerHandle) (isRepeating : Bool)
    (outcome : Except Error Unit) : Action σ Unit := do
  match (← get).reactor? reactor with
  | some state =>
      if Reactor.isLive state.timers timer then
        onReactor reactor (Reactor.settle timer isRepeating outcome)
      else ofExcept outcome
  | none => ofExcept outcome

/-- Run the callback of a timer and settle the timer. -/
def ring (run : Script σ → Action σ Value) (reactor : Nat) (timer : TimerHandle)
    (isRepeating : Bool) (callback : Script σ) : Action σ Unit := do
  tell (.ringing reactor timer (← get).kernel.now)
  let outcome ← attempt (do let _ ← run callback)
  let settled ← attempt (settle reactor timer isRepeating outcome)
  tell (.rang reactor timer)
  ofExcept settled

/-- Tell the journal if no expiry of a timer is unread. -/
def noticeHollow (reactor : Nat) (timer : TimerHandle) : Action σ Unit := do
  if (← get).kernel.unread timer.fd = 0 then tell (.hollow reactor timer)

/-- Tell the journal if a timer is live and has expiries unread. -/
def noticeUnread (reactor : Nat) (timer : TimerHandle) : Action σ Unit := do
  let world ← get
  let isLive := (world.reactor? reactor).any fun state => Reactor.isLive state.timers timer
  if isLive ∧ world.kernel.unread timer.fd ≠ 0 then tell (.unread reactor timer)

/-- What a timer does with an event.  The journal is told where callbacks and expiries
are out of step. -/
def alarm (run : Script σ → Action σ Value) (reactor : Nat) (timer : TimerHandle)
    (isRepeating : Bool) (callback : Script σ) : Action σ Unit := do
  noticeHollow reactor timer
  let outcome ← attempt (ring run reactor timer isRepeating callback)
  noticeUnread reactor timer
  ofExcept outcome

/-! ## Events -/

/-- Run a handler for an event. -/
def handle (run : Script σ → Action σ Value) (reactor : Nat) (fd : Descriptor)
    (ready : Interest) : Handler σ → Action σ Unit
  | .script body => do let _ ← run (body fd ready)
  | .timer timer isRepeating callback => alarm run reactor timer isRepeating callback

/-- The log record for an error of a handler. -/
def uncaughtRecord (error : Error) : LogRecord :=
  { severity := .error
    message := "uncaught error in event handler"
    fields := [("error", error.message?.getD "")] }

/-- Give an error of a handler to the hook of the loop. -/
def report (reactor : Nat) (error : Error) : Action σ Unit := do
  match ((← get).loop? reactor).map EventLoop.hook with
  | some (.listener id) => tell (.uncaught id error)
  | some .log => tell (.log (uncaughtRecord error))
  | none => pure ()

/-- An event, and the registration in force for its descriptor when it was reported. -/
structure Report where
  /-- The event. -/
  event : Readiness
  /-- The number of the registration. -/
  registration : Option Nat

/-- The report of an event by a loop. -/
def Report.by (loop : EventLoop (Handler σ)) (event : Readiness) : Report :=
  ⟨event, loop.inForce? (Token.descriptor event.token)⟩

/-- What the journal is told when a registration's handler is started. -/
def deliveryOf (world : World σ) (reactor : Nat) (report : Report)
    (registration : Registration (Handler σ)) : Delivery :=
  let loop := world.loop? reactor
  { reactor
    serial := registration.serial
    reported := report.registration
    current := loop.bind fun loop => loop.inForce? (Token.descriptor report.event.token)
    asked := (loop.map EventLoop.serial).getD 0
    token := report.event.token
    time := world.kernel.now }

/-- Give an event to its handler; whether one was run. -/
def deliver (run : Script σ → Action σ Value) (reactor : Nat) (report : Report) :
    Action σ Bool := do
  let event := report.event
  let world ← get
  match (world.loop? reactor).bind fun loop => loop.addressee? event with
  | none => pure false
  | some registration =>
      changeLoop reactor fun loop => { loop with running := registration.serial :: loop.running }
      tell (.handling (deliveryOf world reactor report registration))
      let outcome ← attempt
        (handle run reactor (Token.descriptor event.token) event.ready registration.handler)
      changeLoop reactor fun loop => { loop with running := loop.running.erase registration.serial }
      match outcome with
      | .ok () => pure ()
      | .error error => Dispatch.report reactor error
      pure true

/-- Give the events of a batch to their handlers, in order; how many were run. -/
def deliverAll (run : Script σ → Action σ Value) (reactor : Nat) :
    List Report → Action σ Nat
  | [] => pure 0
  | report :: rest => do
      let handled ← deliver run reactor report
      let more ← deliverAll run reactor rest
      pure (if handled then more + 1 else more)

/-- Wait once and run the handlers of what is ready; how many were run. -/
def poll (run : Script σ → Action σ Value) (reactor : Nat) (timeout : Option Kernel.Span) :
    Action σ Nat :=
  withReactor reactor do
    match (← get).loop? reactor with
    | none => raise (.config "the loop is gone")
    | some loop =>
        let events ← system (loop.poller.poll timeout)
        deliverAll run reactor (events.map (Report.by loop))

/-- Poll until nothing is registered, at most `turns` times. -/
def turn (run : Script σ → Action σ Value) (reactor : Nat) : Nat → Action σ Unit
  | 0 => throw .exhausted
  | turns + 1 => do
      match (← get).loop? reactor with
      | none => raise (.config "the loop is gone")
      | some loop =>
          if loop.isEmpty then
            tell (.drained reactor)
          else
            let _ ← poll run reactor none
            turn run reactor turns

/-- Poll until nothing is registered, at most `turns` times.  The loop stays
until then. -/
def drive (run : Script σ → Action σ Value) (reactor turns : Nat) : Action σ Unit :=
  withReactor reactor (turn run reactor turns)

end ScriptHost.Dispatch
