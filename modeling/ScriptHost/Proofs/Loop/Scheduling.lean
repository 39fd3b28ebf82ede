import ScriptHost.Proofs.Loop.Isolation
import ScriptHost.Proofs.Loop.Joining
import ScriptHost.Proofs.Loop.Tables
import ScriptHost.Proofs.Loop.Watchfulness

/-!
# Starts are all or nothing

A timer is started by three calls on the kernel, each of which may fail: its descriptor is made,
armed and registered.  When the last of them is made the timer has been entered in its table
already.  Whichever fails, with whatever error, what was done before is taken back: nothing is
open, watched, live or registered that was not so before, and the callback is not kept, so no
run that follows can invoke it.  Only numbers are used up.

If none of them fails, the timer has a number that was never given, it is live, registered for
reading and armed for its whole delay, and no timer that was live before has been touched.
-/

namespace ScriptHost

open World Kernel

variable {σ η : Type}

/-! ## Kernels -/

namespace Kernel

variable {kernel middle after : Kernel} {fd : Descriptor}

/-- The clock, the descriptors that are open, what lists watch and all timers are as they were. -/
structure Restored (before after : Kernel) : Prop where
  now : after.now = before.now
  opening : ∀ fd, after.opening? fd = before.opening? fd
  watch : ∀ list fd, after.watch? list fd = before.watch? list fd
  timers : ∀ fd state, before.resource? fd = some (.timer state) →
    after.resource? fd = some (.timer state)

theorem restored_refl (kernel : Kernel) : Restored kernel kernel :=
  ⟨rfl, fun _ => rfl, fun _ _ => rfl, fun _ _ found => found⟩

theorem restored_meetFault (call : String) (kernel : Kernel) :
    Restored kernel (meetFault call kernel).2 := by
  have standing := (still_meetFault call kernel).standing
  refine ⟨meetFault_now call kernel, fun fd => ?_, fun list => watch?_congr (standing list),
    fun fd state found => ?_⟩
  · rw [opening?_eq, standing, ← opening?_eq]
  · rw [← found]
    exact resource?_congr (congrArg (fun opened => opened.get? fd) (meetFault_opened call kernel))

/-- What was done to a descriptor that was opened for it is undone when that is closed. -/
theorem restored_close (watchful : kernel.Watchful) (opens : Opens kernel middle fd)
    (freezes : Freezes fd kernel middle) : Restored kernel (middle.close fd) := by
  have frozen := trans_of (Freezes fd) freezes (freezes_close middle fd)
  refine ⟨frozen.now, opening?_close_of_opens watchful opens,
    watch?_close_of_opens watchful opens, fun other state found => ?_⟩
  refine frozen.timers other state ?_ found
  rintro rfl
  exact opening?_of_resource found opens.free

/-- A descriptor that is opened for a timer is watched by none and watches nothing, and what
others watch is what they watched. -/
theorem watch?_of_opens {state : Timer} (opens : Opens kernel middle fd)
    (timed : middle.resource? fd = some (.timer state)) (list other : Descriptor) :
    middle.watch? list other = kernel.watch? list other := by
  by_cases same : fd = list
  · rw [← same, watch?_of_free opens.free, Kernel.watch?, readyList?, timed]
    rfl
  · exact watch?_congr (opens.others list same) other

/-- No timer is armed for longer than the kernel can count. -/
theorem setTimer_in_range {delay interval : Span}
    (ended : setTimer fd delay interval kernel = (.ok (), after)) : delay.isNegative = false := by
  unfold setTimer at ended
  rcases bind_eq_ok_iff.mp ended with ⟨_, _, _, rest⟩
  split at rest
  next => cases rest
  next counted => exact (Bool.or_eq_false_iff.mp (Bool.eq_false_iff.mpr counted)).1

end Kernel

/-! ## Reactors -/

namespace Reactor

variable {kernel after : Kernel} {reactor later : Reactor η} {error : Error}
  {handlerFor : TimerHandle → η} {delay : Span} {isRepeating : Bool} {timer : TimerHandle}
  {fd : Descriptor}

/-- The reactor with other numbers to be given next; what is live and what is registered is the
same. -/
def skipped (reactor : Reactor η) (generation : UInt32) (serial nextId : Nat) : Reactor η :=
  { reactor with
    loop := { reactor.loop with generation, serial }
    timers := { reactor.timers with nextId } }

/-- A registration that was refused. -/
theorem onLoop_add_refused {interest : Interest} {handler : η} {state : Kernel × Reactor η}
    (refused : onLoop (EventLoop.add fd interest handler) (kernel, reactor) =
      (.error error, state)) :
    ∃ cause, error = .system cause ∧
      reactor.loop.poller.register fd (Token.make fd reactor.loop.generation) interest kernel =
        (.error cause, state.1) := by
  rcases onLoop_eq_iff.mp refused with ⟨_, refused, _⟩
  rcases EventLoop.add_eq_error_iff.mp refused with ⟨cause, same, registered, _⟩
  exact ⟨cause, same, registered⟩

/-- It would have been refused with any other handler. -/
theorem onLoop_add_refused_congr {interest : Interest} {handler : η} {state : Kernel × Reactor η}
    (refused : onLoop (EventLoop.add fd interest handler) (kernel, reactor) =
      (.error error, state)) (handler' : η) :
    onLoop (EventLoop.add fd interest handler') (kernel, reactor) = (.error error, state) := by
  rcases onLoop_add_refused refused with ⟨cause, rfl, registered⟩
  rcases state with ⟨after, later⟩
  rw [onLoop_add_of_error refused]
  unfold onLoop
  dsimp only
  rw [EventLoop.add_of_error registered]

/-- What was entered on a free descriptor and struck again has only used up a number. -/
theorem struck_entered (dead : reactor.timers.live.get? fd = none) (isRepeating : Bool) :
    { reactor.entered fd isRepeating with loop := reactor.loop.asked }.struck fd =
      reactor.skipped (reactor.loop.generation + 1) (reactor.loop.serial + 1)
        (reactor.timers.nextId + 1) := by
  have live : (reactor.timers.live.insert fd ⟨reactor.timers.nextId, isRepeating⟩).erase fd =
      reactor.timers.live := Table.erase_insert_of_absent dead _
  unfold struck entered skipped EventLoop.asked
  dsimp only
  rw [live]

/-- A start that fails leaves the kernel as it was, and of the reactor all but its numbers. -/
theorem restored_of_schedule (sound : reactor.Sound kernel) (watchful : kernel.Watchful)
    (ended : schedule handlerFor delay isRepeating (kernel, reactor) =
      (.error error, (after, later))) :
    Restored kernel after ∧
      ∃ generation serial nextId, later = reactor.skipped generation serial nextId := by
  have calls := started_schedule handlerFor delay isRepeating kernel reactor
  rw [ended] at calls
  have away {fd : Descriptor} {created : Kernel} (made : createTimer kernel = (.ok fd, created)) :=
    sound.ne_list_of_free (createTimer_of_ok made).1.free
  have asideArmed {fd : Descriptor} {created : Kernel}
      (made : createTimer kernel = (.ok fd, created)) :
      Aside reactor.loop.poller.list fd kernel (arm fd delay isRepeating created).2 :=
    trans_of (Aside _ _) (aside_createTimer made (away made))
      (keeps_named _ (aside_setTimer _ _ (away made)) created)
  cases calls with
  | unmade failed =>
      refine ⟨?_, _, _, _, rfl⟩
      rcases createTimer_cases kernel with ⟨errno, met⟩ | ⟨_, _, _, made⟩
      · cases met.symm.trans failed
        exact restored_meetFault "timerfd_create" kernel
      · cases made.symm.trans failed
  | @unarmed fd cause _ created armed made failed =>
      refine ⟨?_, _, _, _, rfl⟩
      have aside := asideArmed made
      have opens := (createTimer_of_ok made).1
      rcases arm_outcome fd delay isRepeating created with ⟨_, _, ended', still⟩ | ⟨_, ended', _⟩
      · cases ended'.symm.trans failed
        rw [failed] at aside
        exact restored_close watchful (opens.andThen still.toStands still.ticks.beside)
          aside.toFreezes
      · cases ended'.symm.trans failed
  | @unregistered fd _ created armed failed loop made set refused =>
      have opens := (opens_of_arm made set).1
      have first := asideArmed made
      rw [set] at first
      have second : Aside reactor.loop.poller.list fd armed (onLoop (EventLoop.add fd .readable
          (handlerFor (reactor.nextTimer fd))) (armed, reactor.entered fd isRepeating)).2.1 :=
        aside_add .readable _ armed (away made)
      rcases onLoop_add_refused refused with ⟨cause, _, registered⟩
      have still := (registers_watch ..).of_named_error registered
      rw [refused] at second
      rw [onLoop_add_of_error refused]
      exact ⟨restored_close watchful (opens.andThen still.toStands still.ticks.beside)
        (trans_of (Aside _ _) first second).toFreezes,
        _, _, _, struck_entered (sound.dead_of_free opens.free) isRepeating⟩

/-- A start that fails would have failed in the same way with any other callback. -/
theorem schedule_error_congr {state : Kernel × Reactor η}
    (ended : schedule handlerFor delay isRepeating (kernel, reactor) = (.error error, state))
    (handlerFor' : TimerHandle → η) :
    schedule handlerFor' delay isRepeating (kernel, reactor) = (.error error, state) := by
  rcases made : createTimer kernel with ⟨errno | fd, created⟩
  · rw [schedule_of_unmade made] at ended ⊢
    exact ended
  · rcases set : arm fd delay isRepeating created with ⟨cause | _, armed⟩
    · rw [schedule_of_unarmed made set] at ended ⊢
      exact ended
    · rcases added : onLoop (EventLoop.add fd .readable (handlerFor (reactor.nextTimer fd)))
        (armed, reactor.entered fd isRepeating) with ⟨error' | _, failed, later⟩
      · rw [schedule_of_refused made set added] at ended
        rw [schedule_of_refused made set (onLoop_add_refused_congr added _)]
        exact ended
      · rw [schedule_of_added made set added] at ended
        cases ended

/-- The time between the expiries of a timer, if there is to be more than one. -/
theorem interval_toNanos (delay : Span) (isRepeating : Bool) :
    (if isRepeating then armingDelay delay else .zero).toNanos =
      if isRepeating then max delay.toNanos 1 else 0 := by
  cases isRepeating with
  | true =>
      rw [if_pos rfl, if_pos rfl]
      exact armingDelay_toNanos delay
  | false =>
      rw [if_neg Bool.false_ne_true, if_neg Bool.false_ne_true]
      exact toNanos_zero

/-- A timer has been started: it is entered and registered, its descriptor is new, it is watched
for reading, and it is armed for its whole delay.  Nothing else has changed. -/
structure Launched (delay : Span) (isRepeating : Bool) (callback : Script σ) (timer : TimerHandle)
    (before after : Kernel × Reactor (Handler σ)) : Prop where
  number : timer.id = before.2.timers.nextId
  enrolled : ∃ armed, Enrolled armed timer.fd isRepeating callback before.2 after.2
  poller : after.2.loop.poller = before.2.loop.poller
  inRange : delay.isNegative = false
  free : before.1.opening? timer.fd = none
  opening : ∀ fd, timer.fd ≠ fd → after.1.opening? fd = before.1.opening? fd
  freezes : Freezes timer.fd before.1 after.1
  armed : ∃ serial, after.1.resource? timer.fd = some (.timer
    ⟨some ⟨before.1.now + max delay.toNanos 1, serial⟩,
      if isRepeating then max delay.toNanos 1 else 0, 0⟩)
  watched : after.1.watch? before.2.loop.poller.list timer.fd =
    some ⟨Token.make timer.fd before.2.loop.generation, Interest.readable.requested⟩
  watch : ∀ list fd, timer.fd ≠ fd → after.1.watch? list fd = before.1.watch? list fd

theorem launched_of_schedule {reactor later : Reactor (Handler σ)} {callback : Script σ}
    (sound : reactor.Sound kernel)
    (ended : schedule (fun timer => .timer timer isRepeating callback) delay isRepeating
      (kernel, reactor) = (.ok timer, (after, later))) :
    Launched delay isRepeating callback timer (kernel, reactor) (after, later) := by
  have calls := started_schedule (fun timer => Handler.timer timer isRepeating callback) delay
    isRepeating kernel reactor
  rw [ended] at calls
  cases calls with
  | @started fd created armed _ _ made set added =>
      have opens := (opens_of_arm made set).1
      have listed : Kernel.watch reactor.loop.poller.list fd
          (Token.make fd reactor.loop.generation) .readable armed = (.ok (), after) := by
        have watched := watch_of_add added
        exact watched
      rcases @setTimer_of_ok _ _ reactor.loop.poller.list _ _ _ (ok_of_named set) with ⟨timed, _⟩
      have registers := registers_watch reactor.loop.poller.list fd
        (Token.make fd reactor.loop.generation) .readable armed
      rw [listed] at registers
      have some_delay : (armingDelay delay).toNanos ≠ 0 := by
        rw [armingDelay_toNanos]
        exact Nat.ne_of_gt (Nat.lt_of_lt_of_le Nat.one_pos (Nat.le_max_right _ _))
      rcases joins_of_calls (sound.ne_list_of_free opens.free) some_delay made (ok_of_named set)
          listed with
        ⟨aside, watched, -, serial, -, -, armed_at⟩
      cases registers with
      | accepted _ _ sets =>
          constructor
          case number => rfl
          case enrolled => exact ⟨armed, enrolled_of_add added⟩
          case poller => rw [onLoop_add_of_ok added]; rfl
          case inRange =>
              have counted := setTimer_in_range (ok_of_named set)
              unfold armingDelay at counted
              split at counted
              next none =>
                  rw [none]
                  decide
              next => exact counted
          case free => exact opens.free
          case opening =>
              intro other different
              rw [sets.opening?, opening?_eq, opens.others other different, ← opening?_eq]
          case freezes => exact aside.toFreezes
          case armed =>
              rw [armingDelay_toNanos, interval_toNanos] at armed_at
              exact ⟨serial, armed_at⟩
          case watched => exact watched
          case watch =>
              intro list other different
              rw [sets.watch?_of_ne list different]
              exact watch?_of_opens opens timed list other

end Reactor

/-! ## Worlds -/

namespace World

variable {before after world : World σ} {id id' : Nat} {timer other : TimerHandle}
  {delay : Span} {isRepeating : Bool} {callback : Script σ}

/-- A timer was not started in a reactor.  The kernel is as it was, and so is everything else but
the numbers that the reactor gives next. -/
structure Unstarted (id : Nat) (before after : World σ) : Prop where
  kernel : Restored before.kernel after.kernel
  rest : ∃ generation serial nextId, after = { before with
    kernel := after.kernel
    reactors := before.reactors.modify id
      (Shared.map fun reactor => reactor.skipped generation serial nextId) }

/-- The tables of all reactors are as they were. -/
theorem Unstarted.tables (unstarted : Unstarted id before after) {later : Reactor (Handler σ)}
    (found : after.reactor? id' = some later) :
    ∃ reactor, before.reactor? id' = some reactor ∧
      later.timers.live = reactor.timers.live ∧
      later.loop.registrations = reactor.loop.registrations := by
  rcases unstarted.rest with ⟨generation, serial, nextId, same⟩
  rw [same] at found
  have view := reactor?_modify before id id' fun reactor =>
    reactor.skipped generation serial nextId
  rw [reactor?, view] at found
  split at found
  next =>
      rcases Option.map_eq_some_iff.mp found with ⟨reactor, there, rfl⟩
      exact ⟨reactor, there, rfl, rfl⟩
  next => exact ⟨later, found, rfl, rfl⟩

/-- Whatever is done after a start that failed, a timer is registered only if it was registered
before, or if it has been started since. -/
theorem Unstarted.registered_or_issued (unstarted : Unstarted id before after)
    (reaches : Reaches after world) {reactor : Reactor (Handler σ)} {fd : Descriptor}
    {registration : Registration (Handler σ)} (found : world.reactor? id' = some reactor)
    (registered : reactor.loop.registrations.get? fd = some registration)
    (handles : registration.handler = .timer timer isRepeating callback) :
    (∃ earlier, before.reactor? id' = some earlier ∧
      earlier.loop.registrations.get? fd = some registration) ∨
    ∃ last, Issues after world id' timer isRepeating callback last := by
  rcases World.registered_or_issued reaches found registered handles with ⟨later, there, old⟩ | new
  · rcases unstarted.tables there with ⟨earlier, there', _, same⟩
    rw [same] at old
    exact .inl ⟨earlier, there', old⟩
  · exact .inr new

/-- A timer has been started in a reactor. -/
structure Launched (id : Nat) (delay : Span) (isRepeating : Bool) (callback : Script σ)
    (timer : TimerHandle) (before after : World σ) : Prop where
  /-- It is live, and registered for reading with its callback. -/
  own : ∃ reactor registration, after.reactor? id = some reactor ∧
    Reactor.isLive reactor.timers timer = true ∧
    Reactor.isRepeating? reactor.timers timer = some isRepeating ∧
    reactor.loop.registrations.get? timer.fd = some registration ∧
    registration.handler = .timer timer isRepeating callback ∧
    after.kernel.watch? reactor.loop.poller.list timer.fd =
      some ⟨registration.token, Interest.readable.requested⟩
  /-- The kernel can count its delay. -/
  inRange : delay.isNegative = false
  /-- It expires after its whole delay, and again after each further one if it is to. -/
  armed : ∃ serial, after.kernel.resource? timer.fd = some (.timer
    ⟨some ⟨before.kernel.now + max delay.toNanos 1, serial⟩,
      if isRepeating then max delay.toNanos 1 else 0, 0⟩)
  /-- Its descriptor was free. -/
  free : before.kernel.opening? timer.fd = none
  /-- No other has been opened or closed. -/
  opening : ∀ fd, timer.fd ≠ fd → after.kernel.opening? fd = before.kernel.opening? fd
  /-- No list watches anything else for something else. -/
  watch : ∀ list fd, timer.fd ≠ fd → after.kernel.watch? list fd = before.kernel.watch? list fd
  /-- Nothing has happened to any timer that was live. -/
  others : ∀ id' other, before.Live id' other → Unmoved id' other before after

/-- What is done to a reactor whose new timer has a descriptor that was free moves no timer. -/
theorem unmoved_launched {reactor : Reactor (Handler σ)} {state : Kernel × Reactor (Handler σ)}
    (sound : before.Sound) (found : before.reactor? id = some reactor)
    (launched : Reactor.Launched delay isRepeating callback timer (before.kernel, reactor) state)
    (alive : before.Live id' other) : Unmoved id' other before (before.settled id state) := by
  rcases launched.enrolled with ⟨_, enrolled⟩
  rcases alive with ⟨reactor', found', live'⟩
  rcases Reactor.isLive_iff.mp live' with ⟨_, entry'⟩
  have apart : timer.fd ≠ other.fd := by
    intro same
    have free := launched.free
    rw [same] at free
    exact (sound.reactors id' reactor' found').opened other.fd _ entry' free
  constructor
  case reactor =>
      intro first there
      rw [reactor?_settled found]
      by_cases same : id = id'
      · subst same
        cases found.symm.trans there
        exact ⟨state.2, if_pos rfl, (enrolled.live _).trans (if_neg apart),
          (enrolled.registrations _).trans (if_neg apart)⟩
      · exact ⟨first, (if_neg same).trans there, rfl, rfl⟩
  case opening => exact fun opening there => (launched.opening other.fd apart).trans there
  case state => exact fun state => launched.freezes.timers other.fd state apart
  case now => exact launched.freezes.now

end World

/-! ## Starts -/

namespace Dispatch

variable {world after : World σ} {id : Nat} {delay : Span} {isRepeating : Bool}
  {callback : Script σ} {timer : TimerHandle} {failure : Failure}

theorem unstarted_of_schedule (sound : world.Sound) (watchful : world.kernel.Watchful)
    (ended : schedule id delay isRepeating callback world = (.error failure, after)) :
    Unstarted id world after := by
  rcases schedule_eq_error_iff.mp ended with
    ⟨gone, _, rfl⟩ | ⟨reactor, _, ⟨kernel, later⟩, found, called, _, rfl⟩
  · refine ⟨restored_refl after.kernel, 0, 0, 0, ?_⟩
    have absent : after.reactors.get? id = none := Option.map_eq_none_iff.mp gone
    rw [Table.modify, absent]
  · rcases Reactor.restored_of_schedule (sound.reactors id reactor found) watchful called with
      ⟨restored, generation, serial, nextId, rfl⟩
    exact ⟨restored, generation, serial, nextId,
      settled_eq found kernel fun reactor => reactor.skipped generation serial nextId⟩

/-- A start that fails would have failed in the same way with any other callback. -/
theorem schedule_error_congr
    (ended : schedule id delay isRepeating callback world = (.error failure, after))
    (callback' : Script σ) :
    schedule id delay isRepeating callback' world = (.error failure, after) := by
  rcases schedule_eq_error_iff.mp ended with
    gone | ⟨reactor, error, state, found, called, same⟩
  · exact schedule_eq_error_iff.mpr (.inl gone)
  · exact schedule_eq_error_iff.mpr
      (.inr ⟨reactor, error, state, found, Reactor.schedule_error_congr called _, same⟩)

/-- A start that succeeds, and the number that it gives. -/
theorem launched_of_schedule (sound : world.Sound)
    (ended : schedule id delay isRepeating callback world = (.ok timer, after)) :
    Launched id delay isRepeating callback timer world after ∧
      ∃ reactor, world.reactor? id = some reactor ∧ timer.id = reactor.timers.nextId := by
  rcases schedule_eq_ok_iff.mp ended with ⟨reactor, ⟨kernel, later⟩, found, called, rfl⟩
  have launched := Reactor.launched_of_schedule (sound.reactors id reactor found) called
  refine ⟨?_, reactor, found, launched.number⟩
  rcases launched.enrolled with ⟨armed, enrolled⟩
  have entry := (enrolled.live timer.fd).trans (if_pos rfl)
  have registered := (enrolled.registrations timer.fd).trans (if_pos rfl)
  rw [← launched.number] at entry
  constructor
  case own =>
      refine ⟨later, _, (reactor?_settled found (kernel, later) id).trans (if_pos rfl),
        Reactor.isLive_iff.mpr ⟨isRepeating, entry⟩, ?_, registered, ?_, ?_⟩
      · unfold Reactor.isRepeating?
        rw [entry]
        exact if_pos rfl
      · exact congrArg (fun number => Handler.timer ⟨timer.fd, number⟩ isRepeating callback)
          launched.number.symm
      · rw [launched.poller]
        exact launched.watched
  case inRange => exact launched.inRange
  case armed => exact launched.armed
  case free => exact launched.free
  case opening => exact launched.opening
  case watch => exact launched.watch
  case others =>
      intro id' other alive
      exact trans_of (Unmoved id' other) (unmoved_launched sound found launched alive)
        (trans_of (Unmoved id' other) (unmoved_tell _ _) (unmoved_tell _ _))

end Dispatch

/-! ## Sessions -/

/-- At every moment of every session in which nobody else closes or drives what a loop or a timer
owns, the start of a timer is all or nothing, whatever its delay.

If it fails, at whichever call and with whatever error, then no descriptor is opened or closed,
no list watches anything else, and the tables of all reactors are as they were.  The world that is
left would be the same with any other callback; and whatever is done from there on, a timer is
registered, with this callback or another, only if it was registered before or has been started
by a later call.

If it succeeds, the timer has a number above all that its reactor has given, it is live, it is
registered for reading, and no timer that was live has been touched. -/
theorem Session.starts_are_all_or_nothing (session : Session σ) (steps : Nat)
    (unseized : ∀ fd, .seized fd ∉ session.history steps) (id : Nat) (delay : Span)
    (isRepeating : Bool) (callback : Script σ) :
    (∀ failure after, Dispatch.schedule id delay isRepeating callback (session.world steps) =
        (.error failure, after) →
      Unstarted id (session.world steps) after ∧
      (∀ callback', Dispatch.schedule id delay isRepeating callback' (session.world steps) =
        (.error failure, after)) ∧
      ∀ world id' reactor fd registration timer isRepeating' callback', Reaches after world →
        world.reactor? id' = some reactor →
        reactor.loop.registrations.get? fd = some registration →
        registration.handler = .timer timer isRepeating' callback' →
        (∃ earlier, (session.world steps).reactor? id' = some earlier ∧
          earlier.loop.registrations.get? fd = some registration) ∨
        ∃ last, Issues after world id' timer isRepeating' callback' last) ∧
    ∀ timer after, Dispatch.schedule id delay isRepeating callback (session.world steps) =
        (.ok timer, after) →
      Launched id delay isRepeating callback timer (session.world steps) after ∧
      ∀ earlier isRepeating' start delay',
        .armed id earlier isRepeating' start delay' ∈ session.history steps →
        earlier.id < timer.id := by
  have sound := session.sound_world steps unseized
  refine ⟨fun failure after ended => ?_, fun timer after ended => ?_⟩
  · have unstarted := Dispatch.unstarted_of_schedule sound (session.watchful_world steps) ended
    refine ⟨unstarted, Dispatch.schedule_error_congr ended, ?_⟩
    intro world id' reactor fd registration timer isRepeating' callback' reaches found registered
    exact unstarted.registered_or_issued reaches found registered
  · rcases Dispatch.launched_of_schedule sound ended with ⟨launched, reactor, found, number⟩
    refine ⟨launched, fun earlier isRepeating' start delay' armed => ?_⟩
    have paced := (session.paced_world steps unseized).reactors id reactor found
    rw [number]
    exact paced.known earlier isRepeating' start delay' armed

/-- Of four starts in one session, the first is refused a descriptor, the second cannot be armed,
and the third cannot be registered when it has been entered already.  The fourth succeeds. -/
theorem faltering_starts :
    (∀ start ∈ [(4, "timerfd_create", 24), (5, "timerfd_settime", 22), (6, "epoll_ctl", 28)],
      ∃ after, Dispatch.schedule 0 ⟨0, 1000⟩ true (.done .null) (faltering.world start.1) =
          (.error (.raised (.system ⟨start.2.1, start.2.2⟩)), after) ∧
        Unstarted 0 (faltering.world start.1) after) ∧
    ∃ after, Dispatch.schedule 0 ⟨0, 1000⟩ true (.done .null) (faltering.world 7) =
        (.ok ⟨7, 2⟩, after) ∧
      Launched 0 ⟨0, 1000⟩ true (.done .null) ⟨7, 2⟩ (faltering.world 7) after := by
  have unseized (steps : Nat) (few : steps < 8) (fd : Descriptor) :
      .seized fd ∉ faltering.history steps := by
    have nothing : ∀ steps < 8, faltering.history steps = [] := by decide +kernel
    rw [nothing steps few]
    exact List.not_mem_nil
  have starts (steps : Nat) (few : steps < 8) :=
    faltering.starts_are_all_or_nothing steps (unseized steps few) 0 ⟨0, 1000⟩ true (.done .null)
  have ended {steps : Nat} {answer : Except Failure TimerHandle} (said : (Dispatch.schedule 0
      ⟨0, 1000⟩ true (.done .null) (faltering.world steps)).1 = answer) :
      ∃ after, Dispatch.schedule 0 ⟨0, 1000⟩ true (.done .null) (faltering.world steps) =
        (answer, after) := ⟨_, Prod.ext said rfl⟩
  constructor
  · have fails : ∀ start ∈
        [(4, "timerfd_create", (24 : Int)), (5, "timerfd_settime", 22), (6, "epoll_ctl", 28)],
        start.1 < 8 ∧
          (Dispatch.schedule 0 ⟨0, 1000⟩ true (.done .null) (faltering.world start.1)).1 =
            .error (.raised (.system ⟨start.2.1, start.2.2⟩)) := by decide +kernel
    intro start member
    rcases fails start member with ⟨few, failed⟩
    rcases ended failed with ⟨after, call⟩
    exact ⟨after, call, ((starts start.1 few).1 _ after call).1⟩
  · have started : (Dispatch.schedule 0 ⟨0, 1000⟩ true (.done .null) (faltering.world 7)).1 =
        .ok ⟨7, 2⟩ := by decide +kernel
    rcases ended started with ⟨after, call⟩
    exact ⟨after, call, ((starts 7 (by decide)).2 _ after call).1⟩

end ScriptHost
