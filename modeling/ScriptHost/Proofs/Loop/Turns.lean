import ScriptHost.Proofs.Loop.Serving

/-!
# The turns of a batch

What a poll is to do can be said without its loop.  Each event of a batch has one turn,
in the order of the batch.  At its turn an event is either for nobody, and nothing
happens, or the handler of one registration is invoked and comes back, and its error goes
to the hook that is installed then.  The world may be another one at every turn, since
handlers change registrations and hooks and poll again.
-/

namespace ScriptHost

open World Kernel

variable {σ α : Type}

/-- How a hook tells of an error. -/
def ErrorHook.told (error : Error) : ErrorHook → Event
  | log => .log (Dispatch.uncaughtRecord error)
  | listener id => .uncaught id error

/-! ## Waits -/

namespace Poller

variable {poller : Poller} {timeout : Option Span} {kernel after : Kernel}

theorem poll_eq_ok_iff {events : List Readiness} :
    poller.poll timeout kernel = (.ok events, after) ↔
      wait poller.list poller.capacity (timeout.map Span.toMillis) kernel = (.ok events, after) ∨
      events = [] ∧ wait poller.list poller.capacity (timeout.map Span.toMillis) kernel =
        (.error Errno.interrupted, after) := by
  unfold poll
  rcases waited : wait poller.list poller.capacity (timeout.map Span.toMillis) kernel with
    ⟨errno | found, later⟩
  · by_cases interrupted : errno = Errno.interrupted
    · subst interrupted
      constructor
      · rintro ⟨⟩
        exact .inr ⟨rfl, rfl⟩
      · rintro (⟨⟨⟩⟩ | ⟨rfl, ⟨⟩⟩)
        rfl
    · dsimp only
      rw [if_neg interrupted]
      constructor
      · rintro ⟨⟩
      · rintro (⟨⟨⟩⟩ | ⟨-, same⟩)
        cases same
        exact absurd rfl interrupted
  · constructor
    · rintro ⟨⟩
      exact .inl rfl
    · rintro (⟨⟨⟩⟩ | ⟨-, ⟨⟩⟩)
      rfl

theorem poll_eq_error_iff {cause : SystemError} :
    poller.poll timeout kernel = (.error cause, after) ↔
      ∃ errno, wait poller.list poller.capacity (timeout.map Span.toMillis) kernel =
          (.error errno, after) ∧
        errno ≠ Errno.interrupted ∧ cause = ⟨"epoll_wait", errno⟩ := by
  unfold poll
  rcases waited : wait poller.list poller.capacity (timeout.map Span.toMillis) kernel with
    ⟨errno | found, later⟩
  · by_cases interrupted : errno = Errno.interrupted
    · subst interrupted
      constructor
      · rintro ⟨⟩
      · rintro ⟨_, ⟨⟩, uninterrupted, -⟩
        exact absurd rfl uninterrupted
    · dsimp only
      rw [if_neg interrupted]
      constructor
      · rintro ⟨⟩
        exact ⟨errno, rfl, interrupted, rfl⟩
      · rintro ⟨_, ⟨⟩, -, rfl⟩
        rfl
  · constructor
    · rintro ⟨⟩
    · rintro ⟨_, ⟨⟩, -⟩

end Poller

theorem World.loop?_holdReactor (world : World σ) (id other : Nat) :
    (holdReactor id world).2.loop? other = world.loop? other := by
  have view : (holdReactor id world).2.reactor? other = world.reactor? other :=
    Shared.value?_hold world.reactors id other
  rw [loop?, loop?, view]

/-! ## What is to be done with a batch -/

namespace Dispatch

/-- A registration whose handler is to be invoked for an event at its turn. -/
structure Due (world : World σ) (id : Nat) (event : Readiness)
    (registration : Registration (Handler σ)) : Prop where
  /-- It is in force for the descriptor of the event, and its handler is not being run. -/
  inForce : ∃ loop, world.loop? id = some loop ∧
    loop.registrations.get? (Token.descriptor event.token) = some registration ∧
    registration.serial ∉ loop.running
  /-- It has the token of the event. -/
  token : registration.token = event.token

/-- What is done with the outcome of a handler that came back. -/
inductive HandedOver (id : Nat) (world : World σ) : Except Error Unit → World σ → Prop where
  /-- There is nothing to be done. -/
  | well : HandedOver id world (.ok ()) world
  /-- The hook that is installed now is told of the error, once. -/
  | failed {error : Error} {loop : EventLoop (Handler σ)} (present : world.loop? id = some loop) :
      HandedOver id world (.error error) (tell (loop.hook.told error) world).2
  /-- Others have let go of the loop and its hook. -/
  | gone {error : Error} (absent : world.loop? id = none) :
      HandedOver id world (.error error) world

/-- The handler of a registration was started with the registration among the running ones,
came back, and its outcome was handed over when the registration had been taken off. -/
def Served (run : Script σ → Action σ Value) (id : Nat) (report : Report)
    (registration : Registration (Handler σ)) (before after : World σ) : Prop :=
  ∃ outcome returned,
    attempt (handle run id (Token.descriptor report.event.token) report.event.ready
      registration.handler) (begun before id report registration) = (.ok outcome, returned) ∧
    HandedOver id (changeLoop id (idle registration.serial) returned).2 outcome after

/-- The turn of one event: a handler is invoked if one is due, and else nothing happens. -/
structure Turn (run : Script σ → Action σ Value) (id : Nat) (report : Report)
    (before : World σ) (invoked : Bool) (after : World σ) : Prop where
  invoked_iff : invoked = true ↔ ∃ registration, Due before id report.event registration
  skipped : invoked = false → after = before
  served : ∀ registration, Due before id report.event registration →
    Served run id report registration before after

/-- The events of a batch have their turns one after another, however each of them ends. -/
inductive Batch (run : Script σ → Action σ Value) (id : Nat) :
    List Report → World σ → List Bool → World σ → Prop where
  | done (world : World σ) : Batch run id [] world [] world
  | next {report : Report} {rest : List Report} {before middle after : World σ} {invoked : Bool}
      {others : List Bool} (turn : Turn run id report before invoked middle)
      (more : Batch run id rest middle others after) :
      Batch run id (report :: rest) before (invoked :: others) after

/-- After some turns the handler of one event is invoked and does not come back. -/
inductive CutOff (run : Script σ → Action σ Value) (id : Nat) : List Report → World σ → Prop where
  | here {report : Report} {rest : List Report} {before after : World σ}
      {registration : Registration (Handler σ)} {failure : Failure}
      (due : Due before id report.event registration)
      (stuck : attempt (handle run id (Token.descriptor report.event.token) report.event.ready
        registration.handler) (begun before id report registration) = (.error failure, after)) :
      CutOff run id (report :: rest) before
  | later {report : Report} {rest : List Report} {before middle : World σ} {invoked : Bool}
      (turn : Turn run id report before invoked middle) (more : CutOff run id rest middle) :
      CutOff run id (report :: rest) before

/-- What a poll of a loop comes to: it holds the loop meanwhile. -/
inductive Polled (run : Script σ → Action σ Value) (id : Nat) (timeout : Option Span)
    (loop : EventLoop (Handler σ)) (world : World σ) : Except Error Nat → World σ → Prop where
  /-- The wait failed, and that is all. -/
  | failed {errno : Int} {kernel : Kernel}
      (waited : wait loop.poller.list loop.poller.capacity (timeout.map Span.toMillis)
        world.kernel = (.error errno, kernel))
      (uninterrupted : errno ≠ Errno.interrupted) :
      Polled run id timeout loop world (.error (.ofSystem "epoll_wait" errno))
        (releaseReactor id { (holdReactor id world).2 with kernel }).2
  /-- The events of one wait have had their turns, and the invocations are counted. -/
  | dispatched {events : List Readiness} {kernel : Kernel} {invoked : List Bool} {late : World σ}
      (waited : wait loop.poller.list loop.poller.capacity (timeout.map Span.toMillis)
          world.kernel = (.ok events, kernel) ∨
        events = [] ∧ wait loop.poller.list loop.poller.capacity (timeout.map Span.toMillis)
          world.kernel = (.error Errno.interrupted, kernel))
      (batch : Batch run id (events.map (Report.by loop)) { (holdReactor id world).2 with kernel }
        invoked late) :
      Polled run id timeout loop world (.ok (invoked.count true)) (releaseReactor id late).2

variable {run : Script σ → Action σ Value} {id : Nat} {report : Report} {reports : List Report}
  {before after world : World σ} {registration : Registration (Handler σ)}

/-! ## One turn -/

theorem addressee?_eq_some_iff {loop : EventLoop (Handler σ)} {event : Readiness} :
    loop.addressee? event = some registration ↔
      loop.registrations.get? (Token.descriptor event.token) = some registration ∧
        registration.token = event.token ∧ registration.serial ∉ loop.running := by
  constructor
  · exact EventLoop.addressee?_eq_some
  · rintro ⟨present, fits⟩
    simp [EventLoop.addressee?, present, fits]

theorem due_iff {event : Readiness} :
    ((world.loop? id).bind fun loop => loop.addressee? event) = some registration ↔
      Due world id event registration := by
  rw [Option.bind_eq_some_iff]
  simp only [addressee?_eq_some_iff]
  constructor
  · rintro ⟨loop, present, inForce, token, idle⟩
    exact ⟨⟨loop, present, inForce, idle⟩, token⟩
  · rintro ⟨⟨loop, present, inForce, idle⟩, token⟩
    exact ⟨loop, present, inForce, token, idle⟩

theorem report_of_some {loop : EventLoop (Handler σ)} (error : Error)
    (present : world.loop? id = some loop) :
    Dispatch.report id error world = tell (loop.hook.told error) world := by
  unfold Dispatch.report
  rw [get_bind_eq, present, Option.map_some]
  cases loop.hook <;> rfl

theorem report_of_none (error : Error) (absent : world.loop? id = none) :
    Dispatch.report id error world = (.ok (), world) := by
  unfold Dispatch.report
  rw [get_bind_eq, absent]
  rfl

theorem handedOver_iff {outcome : Except Error Unit} :
    HandedOver id world outcome after ↔ conclude id outcome world = (.ok true, after) := by
  cases outcome with
  | ok value =>
      constructor
      · rintro ⟨⟩
        rfl
      · rintro ⟨⟩
        exact .well
  | error error =>
      cases found : world.loop? id with
      | some loop =>
          have told : (conclude id (.error error) : Action σ Bool) world =
              (.ok true, (tell (loop.hook.told error) world).2) :=
            bind_of_ok (report_of_some error found)
          rw [told]
          constructor
          · rintro (_ | ⟨present⟩ | ⟨absent⟩)
            · cases found.symm.trans present
              rfl
            · cases found.symm.trans absent
          · rintro ⟨⟩
            exact .failed found
      | none =>
          have quiet : (conclude id (.error error) : Action σ Bool) world = (.ok true, world) :=
            bind_of_ok (report_of_none error found)
          rw [quiet]
          constructor
          · rintro (_ | ⟨present⟩ | ⟨absent⟩)
            · cases found.symm.trans present
            · rfl
          · rintro ⟨⟩
            exact .gone found

/-- Handing over an outcome does not fail. -/
theorem conclude_eq (id : Nat) (outcome : Except Error Unit) (world : World σ) :
    ∃ after, (conclude id outcome : Action σ Bool) world = (.ok true, after) := by
  cases outcome with
  | ok value => exact ⟨world, rfl⟩
  | error error =>
      cases found : world.loop? id with
      | some loop => exact ⟨_, bind_of_ok (report_of_some error found)⟩
      | none => exact ⟨_, bind_of_ok (report_of_none error found)⟩

theorem deliver_of_due (due : Due before id report.event registration) :
    deliver run id report before =
      (do
        let outcome ← attempt (handle run id (Token.descriptor report.event.token)
          report.event.ready registration.handler)
        changeLoop id (idle registration.serial)
        conclude id outcome : Action σ Bool) (begun before id report registration) :=
  deliver_of_some (due_iff.mpr due)

theorem served_iff (due : Due before id report.event registration) :
    Served run id report registration before after ↔
      deliver run id report before = (.ok true, after) := by
  rw [deliver_of_due due]
  constructor
  · rintro ⟨outcome, returned, ran, handed⟩
    rw [bind_of_ok ran, changeLoop_bind_eq]
    exact handedOver_iff.mp handed
  · intro ended
    rcases bind_eq_ok_iff.mp ended with ⟨outcome, returned, ran, rest⟩
    rw [changeLoop_bind_eq] at rest
    exact ⟨outcome, returned, ran, handedOver_iff.mpr rest⟩

/-- A delivery that has come back says truly whether somebody was invoked. -/
theorem due_of_deliver {invoked : Bool}
    (ended : deliver run id report before = (.ok invoked, after)) :
    invoked = true ↔ ∃ registration, Due before id report.event registration := by
  cases found : (before.loop? id).bind fun loop => loop.addressee? report.event with
  | none =>
      rw [deliver_of_none found] at ended
      cases ended
      simp [← due_iff, found]
  | some registration =>
      have due := due_iff.mp found
      rw [deliver_of_due due] at ended
      rcases bind_eq_ok_iff.mp ended with ⟨outcome, returned, _, rest⟩
      rw [changeLoop_bind_eq] at rest
      rcases conclude_eq id outcome (changeLoop id (idle registration.serial) returned).2 with
        ⟨last, handed⟩
      cases handed.symm.trans rest
      simp only [true_iff]
      exact ⟨registration, due⟩

/-- A delivery is one turn. -/
theorem deliver_eq_ok_iff {invoked : Bool} :
    deliver run id report before = (.ok invoked, after) ↔
      Turn run id report before invoked after := by
  constructor
  · intro ended
    have truly := due_of_deliver ended
    constructor
    case invoked_iff => exact truly
    case skipped =>
        rintro rfl
        have nobody : ((before.loop? id).bind fun loop => loop.addressee? report.event) = none := by
          apply Option.eq_none_iff_forall_ne_some.mpr
          intro registration found
          cases truly.mpr ⟨registration, due_iff.mp found⟩
        rw [deliver_of_none nobody] at ended
        cases ended
        rfl
    case served =>
        intro registration due
        rw [truly.mpr ⟨registration, due⟩] at ended
        exact (served_iff due).mpr ended
  · intro turn
    cases invoked with
    | true =>
        rcases turn.invoked_iff.mp rfl with ⟨registration, due⟩
        exact (served_iff due).mp (turn.served registration due)
    | false =>
        rw [turn.skipped rfl]
        apply deliver_of_none
        apply Option.eq_none_iff_forall_ne_some.mpr
        intro registration found
        cases turn.invoked_iff.mpr ⟨registration, due_iff.mp found⟩

/-! ## Batches -/

/-- A delivery raises no error: it fails only if its handler does not come back. -/
theorem stuck_of_deliver {failure : Failure}
    (ended : deliver run id report before = (.error failure, after)) :
    failure = .exhausted ∧ ∃ registration, Due before id report.event registration ∧
      attempt (handle run id (Token.descriptor report.event.token) report.event.ready
        registration.handler) (begun before id report registration) = (.error failure, after) := by
  cases found : (before.loop? id).bind fun loop => loop.addressee? report.event with
  | none =>
      rw [deliver_of_none found] at ended
      cases ended
  | some registration =>
      have due := due_iff.mp found
      rw [deliver_of_due due] at ended
      rcases bind_eq_error_iff.mp ended with ran | ⟨outcome, returned, _, rest⟩
      · exact ⟨(attempt_eq_error_iff.mp ran).1, registration, due, ran⟩
      · rw [changeLoop_bind_eq] at rest
        rcases conclude_eq id outcome (changeLoop id (idle registration.serial) returned).2 with
          ⟨last, handed⟩
        cases handed.symm.trans rest

theorem cutOff_of_deliverAll {failure : Failure}
    (ended : deliverAll run id reports before = (.error failure, after)) :
    failure = .exhausted ∧ CutOff run id reports before := by
  induction reports generalizing before with
  | nil => cases ended
  | cons report rest ih =>
      unfold deliverAll at ended
      rcases bind_eq_error_iff.mp ended with first | ⟨_, _, first, ended⟩
      · rcases stuck_of_deliver first with ⟨cut, registration, due, stuck⟩
        exact ⟨cut, .here due stuck⟩
      · rcases bind_eq_error_iff.mp ended with others | ⟨_, _, _, counted⟩
        · rcases ih others with ⟨cut, more⟩
          exact ⟨cut, .later (deliver_eq_ok_iff.mp first) more⟩
        · cases counted

/-- Batches are delivered turn by turn, and the invocations are counted. -/
theorem deliverAll_eq_ok_iff {count : Nat} :
    deliverAll run id reports before = (.ok count, after) ↔
      ∃ invoked, Batch run id reports before invoked after ∧ count = invoked.count true := by
  induction reports generalizing before count with
  | nil =>
      constructor
      · rintro ⟨⟩
        exact ⟨[], .done _, rfl⟩
      · rintro ⟨invoked, ⟨⟩, rfl⟩
        rfl
  | cons report rest ih =>
      unfold deliverAll
      constructor
      · intro ended
        rcases bind_eq_ok_iff.mp ended with ⟨handled, _, first, ended⟩
        rcases bind_eq_ok_iff.mp ended with ⟨more, _, others, counted⟩
        cases counted
        rcases ih.mp others with ⟨invoked, batch, rfl⟩
        refine ⟨handled :: invoked, .next (deliver_eq_ok_iff.mp first) batch, ?_⟩
        cases handled <;> simp
      · rintro ⟨invoked, batch, rfl⟩
        cases batch with
        | @next _ _ _ middle _ handled others turn more =>
            rw [bind_of_ok (deliver_eq_ok_iff.mpr turn), bind_of_ok (ih.mpr ⟨others, more, rfl⟩)]
            cases handled <;> simp <;> rfl

/-! ## Polls -/

variable {timeout : Option Span} {outcome : Except Error Nat} {loop : EventLoop (Handler σ)}

/-- What a poll does while it holds its loop. -/
def pollHeld (run : Script σ → Action σ Value) (id : Nat) (timeout : Option Span)
    (loop : EventLoop (Handler σ)) : Action σ Nat := do
  let events ← system (loop.poller.poll timeout)
  deliverAll run id (events.map (Report.by loop))

theorem poll_eq (present : world.loop? id = some loop) :
    poll run id timeout world =
      (do
        let outcome ← attempt (pollHeld run id timeout loop)
        releaseReactor id
        ofExcept outcome : Action σ Nat) (holdReactor id world).2 := by
  have held : holdReactor id world = (.ok (), (holdReactor id world).2) := rfl
  have present' := (loop?_holdReactor world id id).trans present
  have inside (action : Action σ Nat) (same : action (holdReactor id world).2 =
      pollHeld run id timeout loop (holdReactor id world).2) :
      attempt action (holdReactor id world).2 =
        attempt (pollHeld run id timeout loop) (holdReactor id world).2 := by
    unfold attempt
    rw [same]
  unfold poll withReactor
  rw [bind_of_ok held]
  rcases ended : attempt (pollHeld run id timeout loop) (holdReactor id world).2 with
    ⟨failure | outcome, late⟩
  · rw [bind_of_error ended, bind_of_error ((inside _ ?_).trans ended)]
    rw [get_bind_eq, present']
    rfl
  · rw [bind_of_ok ended, bind_of_ok ((inside _ ?_).trans ended)]
    rw [get_bind_eq, present']
    rfl

/-- What a poll does while it holds its loop is a wait and a batch. -/
theorem pollHeld_iff {late : World σ} :
    attempt (pollHeld run id timeout loop) world = (.ok outcome, late) ↔
      (∃ cause kernel, loop.poller.poll timeout world.kernel = (.error cause, kernel) ∧
        outcome = .error (.system cause) ∧ late = { world with kernel }) ∨
      ∃ events kernel invoked, loop.poller.poll timeout world.kernel = (.ok events, kernel) ∧
        Batch run id (events.map (Report.by loop)) { world with kernel } invoked late ∧
        outcome = .ok (invoked.count true) := by
  rw [attempt_eq_ok_iff]
  unfold pollHeld
  rcases waited : loop.poller.poll timeout world.kernel with ⟨cause | events, kernel⟩
  · rw [bind_of_error (system_of_error waited)]
    constructor
    · intro ended
      refine .inl ⟨cause, kernel, rfl, ?_⟩
      cases outcome <;> cases ended
      exact ⟨rfl, rfl⟩
    · rintro (⟨_, _, same, rfl, rfl⟩ | ⟨_, _, _, other, _⟩)
      · cases same
        rfl
      · cases other
  · rw [bind_of_ok (system_of_ok waited)]
    constructor
    · intro ended
      right
      rcases outcome with error | count
      · cases (cutOff_of_deliverAll ended).1
      · rcases deliverAll_eq_ok_iff.mp ended with ⟨invoked, batch, rfl⟩
        exact ⟨events, kernel, invoked, rfl, batch, rfl⟩
    · rintro (⟨_, _, other, _⟩ | ⟨_, _, invoked, same, batch, rfl⟩)
      · cases other
      · cases same
        exact deliverAll_eq_ok_iff.mpr ⟨invoked, batch, rfl⟩

/-- A poll comes to what its wait and the turns of its events say. -/
theorem poll_iff (present : world.loop? id = some loop) :
    attempt (poll run id timeout) world = (.ok outcome, after) ↔
      Polled run id timeout loop world outcome after := by
  rw [attempt_eq_ok_iff, poll_eq present]
  constructor
  · intro ended
    rcases inside : attempt (pollHeld run id timeout loop) (holdReactor id world).2 with
      ⟨failure | inner, late⟩
    · -- What the poll raises is caught, so only a handler that does not come back ends it so.
      rw [bind_of_error inside] at ended
      cases (attempt_eq_error_iff.mp inside).1
      cases outcome <;> cases ended
    · rw [bind_of_ok inside] at ended
      have same : inner = outcome ∧ (releaseReactor id late).2 = after := by
        cases inner <;> cases outcome <;> cases ended <;> exact ⟨rfl, rfl⟩
      rcases same with ⟨rfl, rfl⟩
      rcases pollHeld_iff.mp inside with ⟨cause, kernel, waited, rfl, rfl⟩ |
        ⟨events, kernel, invoked, waited, batch, rfl⟩
      · rcases Poller.poll_eq_error_iff.mp waited with ⟨errno, failed, uninterrupted, rfl⟩
        exact .failed failed uninterrupted
      · exact .dispatched (Poller.poll_eq_ok_iff.mp waited) batch
  · rintro (⟨waited, uninterrupted⟩ | ⟨waited, batch⟩)
    · have inside : attempt (pollHeld run id timeout loop) (holdReactor id world).2 = _ :=
        pollHeld_iff.mpr
          (.inl ⟨_, _, Poller.poll_eq_error_iff.mpr ⟨_, waited, uninterrupted, rfl⟩, rfl, rfl⟩)
      rw [bind_of_ok inside]
      rfl
    · have inside : attempt (pollHeld run id timeout loop) (holdReactor id world).2 = _ :=
        pollHeld_iff.mpr (.inr ⟨_, _, _, Poller.poll_eq_ok_iff.mpr waited, batch, rfl⟩)
      rw [bind_of_ok inside]
      rfl

/-- A poll comes back unless a handler that it invokes does not. -/
theorem cutOff_of_poll {failure : Failure} (present : world.loop? id = some loop)
    (ended : attempt (poll run id timeout) world = (.error failure, after)) :
    ∃ events kernel, loop.poller.poll timeout world.kernel = (.ok events, kernel) ∧
      CutOff run id (events.map (Report.by loop)) { (holdReactor id world).2 with kernel } := by
  have cut := (attempt_eq_error_iff.mp ended).2
  rw [poll_eq present] at cut
  rcases inside : attempt (pollHeld run id timeout loop) (holdReactor id world).2 with
    ⟨failure | inner, late⟩
  · have stuck := (attempt_eq_error_iff.mp inside).2
    unfold pollHeld at stuck
    rcases waited : loop.poller.poll timeout (holdReactor id world).2.kernel with
      ⟨cause | events, kernel⟩
    · cases (bind_of_error (system_of_error waited)).symm.trans stuck
    · rw [bind_of_ok (system_of_ok waited)] at stuck
      exact ⟨events, kernel, waited, (cutOff_of_deliverAll stuck).2⟩
  · rw [bind_of_ok inside] at cut
    cases inner <;> cases cut

end Dispatch

end ScriptHost
