import ScriptHost.Proofs.Loop.Scheduling

/-!
# Delays are armed as they are

The system takes a time as seconds and nanoseconds.  It takes the seconds as a signed word, so
that those of the upper half of the range are refused, and no time at all for a wish to disarm.
A timer is nevertheless armed for the very delay that it was given, and for a nanosecond if it
was given none; what is refused is refused with an error, and then nothing is armed.  Delays that
are given in milliseconds are never refused, as they are too short by far.
-/

namespace ScriptHost

open World Kernel

variable {σ η : Type}

/-! ## Spans -/

namespace Kernel.Span

theorem toNanos_ofMillis (millis : Nat) : (ofMillis millis).toNanos = millis * 10 ^ 6 := by
  have split := Nat.div_add_mod millis 1000
  unfold ofMillis toNanos nanosPerSecond nanosPerMilli
  dsimp only [Nat.pow_eq]
  omega

theorem nanos_ofMillis_lt (millis : Nat) : (ofMillis millis).nanos < 10 ^ 9 := by
  have rest := Nat.mod_lt millis (show 0 < 1000 by decide)
  unfold ofMillis nanosPerMilli
  dsimp only [Nat.pow_eq]
  omega

/-- A word of milliseconds has few seconds. -/
theorem seconds_ofMillis_lt (millis : UInt64) : (ofMillis millis.toNat).seconds < 2 ^ 63 := by
  have word := millis.toNat_lt
  unfold ofMillis
  dsimp only
  omega

end Kernel.Span

namespace Reactor

theorem armingDelay_ne_zero (delay : Span) : armingDelay delay ≠ .zero := by
  intro nothing
  have positive := armingDelay_toNanos delay
  rw [nothing, toNanos_zero] at positive
  exact Nat.ne_of_lt (Nat.lt_of_lt_of_le Nat.one_pos (Nat.le_max_right _ _)) positive

theorem armingDelay_seconds (delay : Span) : (armingDelay delay).seconds = delay.seconds := by
  unfold armingDelay
  split
  next none => rw [none]; rfl
  next => rfl

theorem armingDelay_nanos_lt {delay : Span} (part : delay.nanos < 10 ^ 9) :
    (armingDelay delay).nanos < 10 ^ 9 := by
  unfold armingDelay
  split
  next => decide
  next => exact part

end Reactor

/-! ## Planned faults -/

namespace Kernel

variable {kernel created after : Kernel} {list fd other : Descriptor} {call call' : String}
  {errno : Int} {timer : Timer} {delay interval : Span}

/-- The error that the next call of a name meets, if a fault is planned for it. -/
def fault? (kernel : Kernel) (call : String) : Option Int :=
  (strike call kernel.faults).1

/-- A call uses up no fault that is planned for another. -/
theorem strike_other (different : call ≠ call') (planned : List PlannedFault) :
    (strike call' (strike call planned).2).1 = (strike call' planned).1 := by
  induction planned with
  | nil => rfl
  | cons fault rest inductionHypothesis =>
      by_cases named : fault.call = call
      · have unconcerned (skip : Nat) (rest : List PlannedFault) :
            (strike call' ({ fault with skip } :: rest)).1 = (strike call' rest).1 := by
          rw [strike, if_neg (named.trans_ne different)]
        rw [unconcerned fault.skip rest]
        rw [strike, if_pos named]
        split
        next => rfl
        next skip _ => exact unconcerned skip rest
      · rw [strike, if_neg named]
        dsimp only
        rw [strike, strike]
        split
        next =>
          cases fault.skip <;> rfl
        next => exact inductionHypothesis

/-- All that a call does when it looks for its fault is to use it up. -/
theorem meetFault_world (call : String) (kernel : Kernel) :
    (meetFault call kernel).2 = { kernel with faults := (strike call kernel.faults).2 } := by
  unfold meetFault
  rw [get_bind_eq]
  rcases strike call kernel.faults with ⟨_ | errno, faults⟩ <;> rfl

theorem fault?_meetFault (different : call ≠ call') (kernel : Kernel) :
    (meetFault call kernel).2.fault? call' = kernel.fault? call' := by
  rw [meetFault_world]
  exact strike_other different kernel.faults

theorem resource?_meetFault (call : String) (kernel : Kernel) (fd : Descriptor) :
    (meetFault call kernel).2.resource? fd = kernel.resource? fd := by
  rw [meetFault_world]
  rfl

theorem meetFault_answer (call : String) (kernel : Kernel) :
    (meetFault call kernel).1 =
      match kernel.fault? call with
      | some errno => .error errno
      | none => .ok () := by
  unfold meetFault fault?
  rw [get_bind_eq]
  rcases strike call kernel.faults with ⟨_ | errno, faults⟩ <;> rfl

theorem meetFault_of_some (struck : kernel.fault? call = some errno) :
    meetFault call kernel = (.error errno, (meetFault call kernel).2) := by
  refine Prod.ext ?_ rfl
  rw [meetFault_answer, struck]

theorem meetFault_of_none (spared : kernel.fault? call = none) :
    meetFault call kernel = (.ok (), (meetFault call kernel).2) := by
  refine Prod.ext ?_ rfl
  rw [meetFault_answer, spared]

/-! ## Arming -/

/-- A timer is armed unless a fault is planned or a time is negative, and that is the error. -/
theorem setTimer_answer (timed : kernel.resource? fd = some (.timer timer))
    (delay interval : Span) :
    (setTimer fd delay interval kernel).1 =
      match kernel.fault? "timerfd_settime" with
      | some errno => .error errno
      | none =>
          if delay.isNegative || interval.isNegative then .error Errno.invalid else .ok () := by
  unfold setTimer
  rcases planned : kernel.fault? "timerfd_settime" with _ | errno
  · rw [bind_of_ok (meetFault_of_none planned)]
    split
    next => rfl
    next =>
        dsimp only
        rw [get_bind_eq, resource?_meetFault, timed]
        rfl
  · rw [bind_of_error (meetFault_of_some planned)]

theorem named_answer {α : Type} (syscall : String) (call : KernelCall α) (kernel : Kernel) :
    (named syscall call kernel).1 = (call kernel).1.mapError (SystemError.mk syscall) := by
  unfold named
  split
  next ended => rw [ended]; rfl
  next ended => rw [ended]; rfl

theorem syscall_of_named {α : Type} {syscall : String} {call : KernelCall α} {cause : SystemError}
    (failed : named syscall call kernel = (.error cause, after)) : cause.syscall = syscall := by
  unfold named at failed
  split at failed <;> cases failed
  rfl

/-! ## New descriptors -/

theorem freeFrom_congr (same : after.opened = kernel.opened) (fuel candidate : Nat) :
    after.freeFrom fuel candidate = kernel.freeFrom fuel candidate := by
  induction fuel generalizing candidate with
  | zero => rfl
  | succ fuel inductionHypothesis => rw [freeFrom, freeFrom, same, inductionHypothesis]

theorem freeDescriptor?_meetFault (call : String) (kernel : Kernel) :
    (meetFault call kernel).2.freeDescriptor? = kernel.freeDescriptor? := by
  have least : (meetFault call kernel).2.leastDescriptor? = kernel.leastDescriptor? := by
    rw [leastDescriptor?, leastDescriptor?, freeFrom_congr (meetFault_opened call kernel),
      meetFault_opened]
  rw [freeDescriptor?, freeDescriptor?, least, meetFault_world]

/-- Where a number is free and no fault is planned, a timer is made under that number. -/
theorem createTimer_of_spared (spared : kernel.fault? "timerfd_create" = none)
    (free : kernel.freeDescriptor? = some fd) :
    ∃ created, createTimer kernel = (.ok fd, created) := by
  unfold createTimer
  rw [bind_of_ok (meetFault_of_none spared), get_bind_eq, openResource, freeDescriptor?_meetFault,
    free]
  exact ⟨_, rfl⟩

/-- Making a timer changes nothing about other descriptors and other calls. -/
theorem createTimer_frame (made : createTimer kernel = (.ok fd, created)) :
    (∀ other, fd ≠ other → created.resource? other = kernel.resource? other) ∧
      ∀ call, "timerfd_create" ≠ call → created.fault? call = kernel.fault? call := by
  rcases createTimer_cases kernel with ⟨errno, failed⟩ | ⟨fd', after, opened, ended⟩
  · cases failed.symm.trans made
  · cases ended.symm.trans made
    unfold openResource at opened
    split at opened
    next =>
        cases opened
        refine ⟨fun other different => ?_, fun call different => fault?_meetFault different kernel⟩
        rw [← resource?_meetFault "timerfd_create" kernel other]
        exact resource?_congr ((Table.get?_insert _ _ _ _).trans (if_neg different))
    next => cases opened

theorem setTimer_frame (ended : setTimer fd delay interval kernel = (.ok (), after)) :
    (∀ other, fd ≠ other → after.resource? other = kernel.resource? other) ∧
      ∀ call, "timerfd_settime" ≠ call → after.fault? call = kernel.fault? call := by
  rcases setTimer_cases fd delay interval kernel with ⟨errno, failed⟩ | ⟨timer, timed, armed⟩
  · cases failed.symm.trans ended
  · cases armed.symm.trans ended
    refine ⟨fun other different => ?_, fun call different => fault?_meetFault different kernel⟩
    rw [resource?_setTimer timed, if_neg different, resource?_meetFault]

/-! ## Registrations -/

/-- A registration that is refused has only met its fault. -/
theorem watch_of_error {token : UInt64} {interest : Interest}
    (ended : watch list fd token interest kernel = (.error errno, after)) :
    after = (meetFault "epoll_ctl" kernel).2 := by
  have checks := registrations_world list fd kernel
  unfold watch at ended
  rcases bind_eq_error_iff.mp ended with checked | ⟨state, middle, checked, ended⟩ <;>
    rw [checked] at checks
  · exact checks
  · split at ended
    · cases ended
      exact checks
    · cases ended

theorem watch_of_named_error {token : UInt64} {interest : Interest} {syscall : String}
    {cause : SystemError}
    (failed : named syscall (watch list fd token interest) kernel = (.error cause, after)) :
    after = (meetFault "epoll_ctl" kernel).2 := by
  unfold named at failed
  split at failed <;> cases failed
  next ended => exact watch_of_error ended

/-- What is watched is no list of its own. -/
theorem away_of_watch {token : UInt64} {interest : Interest}
    (timed : kernel.resource? fd = some (.timer timer))
    (ended : watch list fd token interest kernel = (.ok (), after)) : fd ≠ list := by
  rcases watch_of_ok ended with ⟨state, listed, _⟩
  rintro rfl
  rw [readyList?, resource?_meetFault, timed] at listed
  cases listed

/-- A timer that is not watched yet is registered where no fault is planned. -/
theorem watch_of_spared {state : ReadyList} (token : UInt64) (interest : Interest)
    (spared : kernel.fault? "epoll_ctl" = none)
    (timed : kernel.resource? fd = some (.timer timer))
    (listed : kernel.readyList? list = some state) (absent : state.watches.get? fd = none) :
    ∃ after, watch list fd token interest kernel = (.ok (), after) := by
  have listed' : (meetFault "epoll_ctl" kernel).2.readyList? list = some state := by
    rw [← listed]
    exact readyList?_congr (resource?_meetFault _ _ _)
  have checked : registrations list fd kernel = (.ok state, (meetFault "epoll_ctl" kernel).2) := by
    unfold registrations
    rw [bind_of_ok (meetFault_of_none spared), get_bind_eq, resource?_meetFault, timed, listed']
    rfl
  unfold watch
  rw [bind_of_ok checked, Table.contains, absent]
  exact ⟨_, rfl⟩

/-! ## Alarms -/

theorem alarm?_meetFault (call : String) (kernel : Kernel) (fd : Descriptor) :
    (meetFault call kernel).2.alarm? fd = kernel.alarm? fd :=
  alarm?_congr (resource?_meetFault call kernel fd)

/-- What was done to a new timer is gone with it, and no other has been armed or disarmed. -/
theorem alarm?_close_of_free (free : kernel.opening? fd = none)
    (timed : after.resource? fd = some (.timer timer))
    (others : ∀ other, fd ≠ other → after.alarm? other = kernel.alarm? other)
    (other : Descriptor) : (after.close fd).alarm? other = kernel.alarm? other := by
  by_cases same : fd = other
  · subst same
    rw [alarm?, alarm?, resource?_of_free free, resource?_of_free (opening?_close_self after fd)]
  · have closes : Aside other fd after (after.close fd) :=
      aside_close (fun resource found => ⟨timer, Option.some.inj (found.symm.trans timed)⟩) same
    exact (closes.armed other same).trans (others other same)

end Kernel

/-! ## Reactors -/

namespace Reactor

variable {kernel created armed after : Kernel} {reactor later : Reactor η} {error : Error}
  {handlerFor : TimerHandle → η} {delay : Span} {isRepeating : Bool} {timer : TimerHandle}
  {fd : Descriptor} {state : Kernel.Timer}

theorem isNegative_armingDelay (delay : Span) :
    (armingDelay delay).isNegative = delay.isNegative := by
  rw [Span.isNegative, armingDelay_seconds, Span.isNegative]

/-- What is armed is negative if the delay is. -/
theorem isNegative_armed (delay : Span) (isRepeating : Bool) :
    ((armingDelay delay).isNegative ||
      (if isRepeating then armingDelay delay else .zero).isNegative) = delay.isNegative := by
  have zero : Span.zero.isNegative = false := by decide
  cases isRepeating with
  | true => rw [if_pos rfl, Bool.or_self, isNegative_armingDelay]
  | false => rw [if_neg Bool.false_ne_true, zero, Bool.or_false, isNegative_armingDelay]

/-- Arming a timer fails with the error of an invalid argument if that fault is planned, or if no
fault is and the delay has more seconds than the system can count. -/
def Rejects (kernel : Kernel) (delay : Span) : Prop :=
  kernel.fault? "timerfd_settime" = some Errno.invalid ∨
    kernel.fault? "timerfd_settime" = none ∧ 2 ^ 63 ≤ delay.seconds

theorem isNegative_iff {delay : Span} : delay.isNegative = true ↔ 2 ^ 63 ≤ delay.seconds :=
  decide_eq_true_iff

theorem arm_answer (timed : kernel.resource? fd = some (.timer state)) (delay : Span)
    (isRepeating : Bool) :
    (arm fd delay isRepeating kernel).1 =
      match kernel.fault? "timerfd_settime" with
      | some errno => .error ⟨"timerfd_settime", errno⟩
      | none =>
          if delay.isNegative then .error ⟨"timerfd_settime", Errno.invalid⟩ else .ok () := by
  unfold arm
  rw [named_answer, setTimer_answer timed, isNegative_armed]
  rcases kernel.fault? "timerfd_settime" with _ | errno
  · cases delay.isNegative <;> rfl
  · rfl

theorem arm_rejects (timed : kernel.resource? fd = some (.timer state)) (delay : Span)
    (isRepeating : Bool) :
    (arm fd delay isRepeating kernel).1 = .error ⟨"timerfd_settime", Errno.invalid⟩ ↔
      Rejects kernel delay := by
  rw [arm_answer timed, Rejects, ← isNegative_iff]
  rcases kernel.fault? "timerfd_settime" with _ | errno
  · cases delay.isNegative <;> simp
  · simp

theorem arm_accepts (timed : kernel.resource? fd = some (.timer state))
    (spared : kernel.fault? "timerfd_settime" = none) (counted : delay.seconds < 2 ^ 63)
    (isRepeating : Bool) : ∃ after, arm fd delay isRepeating kernel = (.ok (), after) := by
  have answer := arm_answer timed delay isRepeating
  have positive : ¬delay.isNegative = true := fun negative =>
    Nat.not_le_of_lt counted (isNegative_iff.mp negative)
  rw [spared] at answer
  dsimp only at answer
  rw [if_neg positive] at answer
  exact ⟨_, Prod.ext answer rfl⟩

theorem arm_of_error {cause : SystemError}
    (failed : arm fd delay isRepeating kernel = (.error cause, after)) :
    after = (meetFault "timerfd_settime" kernel).2 := by
  unfold arm at failed
  rcases setTimer_cases fd (armingDelay delay)
    (if isRepeating then armingDelay delay else .zero) kernel with ⟨errno, ended⟩ | ⟨_, _, ended⟩
  · cases (named_of_error ended).symm.trans failed
    rfl
  · cases (named_of_ok ended).symm.trans failed

/-! ## Starts -/

/-- A start is rejected exactly if its descriptor is made and cannot be armed. -/
theorem schedule_rejected_iff (handlerFor : TimerHandle → η) (delay : Span) (isRepeating : Bool)
    (kernel : Kernel) (reactor : Reactor η) :
    (schedule handlerFor delay isRepeating (kernel, reactor)).1 =
        .error (.system ⟨"timerfd_settime", Errno.invalid⟩) ↔
      ∃ fd created, createTimer kernel = (.ok fd, created) ∧ Rejects kernel delay := by
  have rejects {fd : Descriptor} {created : Kernel} (made : createTimer kernel = (.ok fd, created)) :
      (arm fd delay isRepeating created).1 = .error ⟨"timerfd_settime", Errno.invalid⟩ ↔
        Rejects kernel delay := by
    rw [arm_rejects (resource?_createTimer made), Rejects, Rejects,
      (createTimer_frame made).2 "timerfd_settime" (by decide)]
  rcases made : createTimer kernel with ⟨errno | fd, created⟩
  · rw [schedule_of_unmade made]
    constructor
    · simp
    · rintro ⟨_, _, impossible, _⟩
      cases impossible
  · have same : (∃ fd' created', ((.ok fd, created) : Except Int Descriptor × Kernel) =
        (.ok fd', created') ∧ Rejects kernel delay) ↔ Rejects kernel delay :=
      ⟨fun ⟨_, _, _, rejected⟩ => rejected, fun rejected => ⟨fd, created, rfl, rejected⟩⟩
    rw [same, ← rejects made]
    rcases set : arm fd delay isRepeating created with ⟨cause | _, armed⟩
    · rw [schedule_of_unarmed made set]
      simp
    · rcases added : onLoop (EventLoop.add fd .readable (handlerFor (reactor.nextTimer fd)))
        (armed, reactor.entered fd isRepeating) with ⟨error | _, failed, later⟩
      · rw [schedule_of_refused made set added]
        rcases onLoop_add_refused added with ⟨cause, rfl, registered⟩
        have name := syscall_of_named registered
        constructor
        · rintro ⟨⟩
          exact absurd name (by decide)
        · rintro ⟨⟩
      · rw [schedule_of_added made set added]
        simp

/-- A start that fails arms nothing and disarms nothing. -/
theorem alarm?_of_schedule_error
    (ended : schedule handlerFor delay isRepeating (kernel, reactor) =
      (.error error, (after, later))) (other : Descriptor) :
    after.alarm? other = kernel.alarm? other := by
  rcases made : createTimer kernel with ⟨errno | fd, created⟩
  · rw [schedule_of_unmade made] at ended
    cases ended
    rcases createTimer_cases kernel with ⟨errno', failed⟩ | ⟨_, _, _, made'⟩
    · cases failed.symm.trans made
      exact alarm?_meetFault _ kernel other
    · cases made'.symm.trans made
  · have free := (createTimer_of_ok made).1.free
    have others (other : Descriptor) (different : fd ≠ other) :
        created.alarm? other = kernel.alarm? other :=
      alarm?_congr ((createTimer_frame made).1 other different)
    rcases set : arm fd delay isRepeating created with ⟨cause | _, armed⟩
    · rw [schedule_of_unarmed made set] at ended
      cases ended
      rw [arm_of_error set]
      refine alarm?_close_of_free free
        ((resource?_meetFault _ created fd).trans (resource?_createTimer made))
        (fun other different => ?_) other
      rw [alarm?_meetFault]
      exact others other different
    · rcases added : onLoop (EventLoop.add fd .readable (handlerFor (reactor.nextTimer fd)))
        (armed, reactor.entered fd isRepeating) with ⟨error' | _, failed, later'⟩
      · rw [schedule_of_refused made set added] at ended
        cases ended
        rcases onLoop_add_refused added with ⟨cause, _, registered⟩
        rcases @setTimer_of_ok _ _ reactor.loop.poller.list _ _ _ (ok_of_named set) with ⟨timed, _⟩
        have met : failed = (meetFault "epoll_ctl" armed).2 := watch_of_named_error registered
        rw [met]
        refine alarm?_close_of_free free ((resource?_meetFault _ armed fd).trans timed)
          (fun other different => ?_) other
        rw [alarm?_meetFault]
        exact (alarm?_congr ((setTimer_frame (ok_of_named set)).1 other different)).trans
          (others other different)
      · rw [schedule_of_added made set added] at ended
        cases ended

end Reactor

/-- A new timer has been armed with a value and the time between its expiries, and nothing has
happened to any other. -/
structure Kernel.NewlyArmed (value interval : Span) (fd : Descriptor) (before after : Kernel) :
    Prop where
  /-- This is what the system was asked for. -/
  handed : ∃ created armed, createTimer before = (.ok fd, created) ∧
    setTimer fd value interval created = (.ok (), armed)
  /-- It expires after that time, and again after each further one. -/
  expiry : ∃ serial, after.resource? fd = some (.timer
    ⟨some ⟨before.now + value.toNanos, serial⟩, interval.toNanos, 0⟩)
  others : ∀ other, fd ≠ other → after.alarm? other = before.alarm? other

namespace Reactor

variable {kernel after : Kernel} {reactor later : Reactor η} {handlerFor : TimerHandle → η}
  {delay : Span} {isRepeating : Bool} {timer : TimerHandle}

theorem armed_of_schedule
    (ended : schedule handlerFor delay isRepeating (kernel, reactor) =
      (.ok timer, (after, later))) :
    delay.seconds < 2 ^ 63 ∧ NewlyArmed (armingDelay delay)
      (if isRepeating then armingDelay delay else .zero) timer.fd kernel after := by
  have calls := started_schedule handlerFor delay isRepeating kernel reactor
  rw [ended] at calls
  cases calls with
  | @started fd created armed _ _ made set added =>
      have counted := setTimer_in_range (ok_of_named set)
      have listed := watch_of_add added
      rcases @setTimer_of_ok _ _ reactor.loop.poller.list _ _ _ (ok_of_named set) with ⟨timed, _⟩
      have some_delay : (armingDelay delay).toNanos ≠ 0 := by
        rw [armingDelay_toNanos]
        exact Nat.ne_of_gt (Nat.lt_of_lt_of_le Nat.one_pos (Nat.le_max_right _ _))
      rcases joins_of_calls (away_of_watch timed listed) some_delay made (ok_of_named set) listed
        with ⟨aside, -, -, serial, -, -, armed_at⟩
      rw [isNegative_armingDelay] at counted
      refine ⟨Nat.lt_of_not_le fun long => ?_, ⟨_, _, made, ok_of_named set⟩, ⟨serial, armed_at⟩,
        aside.armed⟩
      rw [isNegative_iff.mpr long] at counted
      cases counted

end Reactor

/-! ## Obliging systems -/

/-- A system that refuses no call that a start makes: no fault is planned for one, and there is a
number for its descriptor that the list does not watch. -/
structure Kernel.Obliging (kernel : Kernel) (list : Descriptor) : Prop where
  unplanned : ∀ call ∈ ["timerfd_create", "timerfd_settime", "epoll_ctl"],
    kernel.fault? call = none
  room : ∃ fd state, kernel.freeDescriptor? = some fd ∧ kernel.readyList? list = some state ∧
    state.watches.get? fd = none

namespace Reactor

variable {kernel : Kernel} {reactor : Reactor η} {delay : Span}

theorem schedule_of_obliging (obliging : kernel.Obliging reactor.loop.poller.list)
    (handlerFor : TimerHandle → η) (counted : delay.seconds < 2 ^ 63) (isRepeating : Bool) :
    ∃ timer state, schedule handlerFor delay isRepeating (kernel, reactor) = (.ok timer, state) := by
  rcases obliging.room with ⟨fd, list, free, listed, absent⟩
  rcases createTimer_of_spared (obliging.unplanned "timerfd_create" (by decide)) free with
    ⟨created, made⟩
  rcases createTimer_frame made with ⟨same, faults⟩
  have spared := obliging.unplanned "timerfd_settime" (by decide)
  rw [← faults "timerfd_settime" (by decide)] at spared
  rcases arm_accepts (resource?_createTimer made) spared counted isRepeating with ⟨armed, set⟩
  rcases setTimer_frame (ok_of_named set) with ⟨same', planned⟩
  rcases @setTimer_of_ok _ _ reactor.loop.poller.list _ _ _ (ok_of_named set) with ⟨timed, _⟩
  have away : fd ≠ reactor.loop.poller.list := by
    rintro rfl
    have opened := opening?_of_resource (readyList?_eq_some listed)
    exact opened (createTimer_of_ok made).1.free
  have spared' : armed.fault? "epoll_ctl" = none := by
    rw [planned "epoll_ctl" (by decide), faults "epoll_ctl" (by decide)]
    exact obliging.unplanned "epoll_ctl" (by decide)
  have listed' : armed.readyList? reactor.loop.poller.list = some list := by
    rw [← listed]
    exact readyList?_congr ((same' _ away).trans (same _ away))
  rcases watch_of_spared (Token.make fd reactor.loop.generation) .readable spared' timed listed'
    absent with ⟨after, watched⟩
  have registered : (reactor.entered fd isRepeating).loop.poller.register fd
      ((reactor.entered fd isRepeating).loop.nextFor armed fd
        (handlerFor (reactor.nextTimer fd))).token .readable armed = (.ok (), after) :=
    named_of_ok watched
  have added : ∃ later, onLoop (EventLoop.add fd .readable (handlerFor (reactor.nextTimer fd)))
      (armed, reactor.entered fd isRepeating) = (.ok (), (after, later)) := by
    unfold onLoop
    dsimp only
    rw [EventLoop.add_of_ok registered]
    exact ⟨_, rfl⟩
  rcases added with ⟨later, added⟩
  exact ⟨_, _, schedule_of_added made set added⟩

end Reactor

/-! ## Worlds -/

namespace Dispatch

variable {world after : World σ} {id : Nat} {reactor : Reactor (Handler σ)} {delay : Span}
  {isRepeating : Bool} {callback : Script σ} {timer : TimerHandle} {failure : Failure}

theorem newlyArmed_of_schedule
    (ended : schedule id delay isRepeating callback world = (.ok timer, after)) :
    delay.seconds < 2 ^ 63 ∧ NewlyArmed (Reactor.armingDelay delay)
      (if isRepeating then Reactor.armingDelay delay else .zero) timer.fd world.kernel
      after.kernel := by
  rcases schedule_eq_ok_iff.mp ended with ⟨_, _, _, called, rfl⟩
  exact Reactor.armed_of_schedule called

theorem alarm?_of_schedule_error
    (ended : schedule id delay isRepeating callback world = (.error failure, after))
    (fd : Descriptor) : after.kernel.alarm? fd = world.kernel.alarm? fd := by
  rcases schedule_eq_error_iff.mp ended with ⟨_, _, rfl⟩ | ⟨_, _, _, _, called, _, rfl⟩
  · rfl
  · exact Reactor.alarm?_of_schedule_error called fd

theorem schedule_rejected_iff (found : world.reactor? id = some reactor) (delay : Span)
    (isRepeating : Bool) (callback : Script σ) :
    (schedule id delay isRepeating callback world).1 =
        .error (.raised (.system ⟨"timerfd_settime", Errno.invalid⟩)) ↔
      ∃ fd created, createTimer world.kernel = (.ok fd, created) ∧
        Reactor.Rejects world.kernel delay := by
  rw [← Reactor.schedule_rejected_iff (fun timer => Handler.timer timer isRepeating callback) delay
    isRepeating world.kernel reactor]
  rcases called : Reactor.schedule (fun timer => Handler.timer timer isRepeating callback) delay
    isRepeating (world.kernel, reactor) with ⟨error | timer', state⟩
  · rw [schedule_of_error found called]
    simp
  · rw [schedule_of_ok found called]
    simp

/-- An obliging system rejects the delays that it cannot count, and no others. -/
theorem schedule_of_obliging (found : world.reactor? id = some reactor)
    (obliging : world.kernel.Obliging reactor.loop.poller.list) (delay : Span) (isRepeating : Bool)
    (callback : Script σ) :
    ((∃ timer after, schedule id delay isRepeating callback world = (.ok timer, after)) ↔
        delay.seconds < 2 ^ 63) ∧
      ((schedule id delay isRepeating callback world).1 =
          .error (.raised (.system ⟨"timerfd_settime", Errno.invalid⟩)) ↔
        2 ^ 63 ≤ delay.seconds) := by
  have spared := obliging.unplanned "timerfd_settime" (by decide)
  refine ⟨⟨fun ⟨timer, after, ended⟩ => (newlyArmed_of_schedule ended).1, fun counted => ?_⟩, ?_⟩
  · rcases Reactor.schedule_of_obliging obliging
      (fun timer => Handler.timer timer isRepeating callback) counted isRepeating with
      ⟨timer, state, called⟩
    exact ⟨timer, _, schedule_of_ok found called⟩
  · rw [schedule_rejected_iff found]
    constructor
    · rintro ⟨_, _, _, planned | ⟨_, long⟩⟩
      · rw [spared] at planned
        cases planned
      · exact long
    · intro long
      rcases obliging.room with ⟨fd, _, free, _⟩
      rcases createTimer_of_spared (obliging.unplanned "timerfd_create" (by decide)) free with
        ⟨created, made⟩
      exact ⟨fd, created, made, .inr ⟨spared, long⟩⟩

/-- In every world, a delay is armed as it is.

For every word of milliseconds, a timeout and an interval hand the system a value whose seconds
are not negative and whose nanoseconds are less than a second, which denotes exactly that many
milliseconds or one nanosecond for none, and which never disarms.  An interval has the same value
between its expiries, a timeout none.

For every delay at all, a start that succeeds has armed the new timer for exactly that delay, or
one nanosecond for none, from now on.  A start that fails has armed nothing.  It fails with the
error of an invalid argument exactly if the descriptor is made and either that fault is planned
or, with no fault planned, the delay has `2 ^ 63` seconds or more; a system that refuses nothing
fails for these delays and no others. -/
theorem delays_are_armed_exactly (world : World σ) (id : Nat) (callback : Script σ) :
    (∀ millis : UInt64, ∃ value : Span,
      value.seconds < 2 ^ 63 ∧ value.nanos < 10 ^ 9 ∧
      value.toNanos = max (millis.toNat * 10 ^ 6) 1 ∧ value ≠ .zero ∧
      (∀ fd, Reactor.arm fd (.ofMillis millis.toNat) false =
        named "timerfd_settime" (setTimer fd value .zero)) ∧
      (∀ fd, Reactor.arm fd (.ofMillis millis.toNat) true =
        named "timerfd_settime" (setTimer fd value value)) ∧
      (∀ timer after, setTimeout id millis callback world = (.ok timer, after) →
        NewlyArmed value .zero timer.fd world.kernel after.kernel) ∧
      (∀ timer after, setInterval id millis callback world = (.ok timer, after) →
        NewlyArmed value value timer.fd world.kernel after.kernel)) ∧
    ∀ (delay : Span) (isRepeating : Bool),
      (∀ timer after, schedule id delay isRepeating callback world = (.ok timer, after) →
        delay.seconds < 2 ^ 63 ∧ ∃ value : Span,
          value.toNanos = max delay.toNanos 1 ∧ (delay.nanos < 10 ^ 9 → value.nanos < 10 ^ 9) ∧
          NewlyArmed value (if isRepeating then value else .zero) timer.fd world.kernel
            after.kernel) ∧
      (∀ failure after, schedule id delay isRepeating callback world = (.error failure, after) →
        ∀ fd, after.kernel.alarm? fd = world.kernel.alarm? fd) ∧
      ∀ reactor, world.reactor? id = some reactor →
        ((schedule id delay isRepeating callback world).1 =
            .error (.raised (.system ⟨"timerfd_settime", 22⟩)) ↔
          ∃ fd created, createTimer world.kernel = (.ok fd, created) ∧
            (world.kernel.fault? "timerfd_settime" = some 22 ∨
              world.kernel.fault? "timerfd_settime" = none ∧ 2 ^ 63 ≤ delay.seconds)) ∧
        (world.kernel.Obliging reactor.loop.poller.list →
          ((∃ timer after, schedule id delay isRepeating callback world = (.ok timer, after)) ↔
            delay.seconds < 2 ^ 63) ∧
          ((schedule id delay isRepeating callback world).1 =
              .error (.raised (.system ⟨"timerfd_settime", 22⟩)) ↔
            2 ^ 63 ≤ delay.seconds)) := by
  refine ⟨fun millis => ?_, fun delay isRepeating => ⟨fun timer after ended => ?_,
    fun failure after ended => alarm?_of_schedule_error ended, fun reactor found =>
      ⟨schedule_rejected_iff found delay isRepeating callback,
        fun obliging => schedule_of_obliging found obliging delay isRepeating callback⟩⟩⟩
  · refine ⟨Reactor.armingDelay (.ofMillis millis.toNat), ?_,
      Reactor.armingDelay_nanos_lt (Span.nanos_ofMillis_lt _), ?_, Reactor.armingDelay_ne_zero _,
      fun _ => rfl, fun _ => rfl, fun timer after ended => (newlyArmed_of_schedule ended).2,
      fun timer after ended => (newlyArmed_of_schedule ended).2⟩
    · rw [Reactor.armingDelay_seconds]
      exact Span.seconds_ofMillis_lt millis
    · rw [Reactor.armingDelay_toNanos, Span.toNanos_ofMillis]
  · rcases newlyArmed_of_schedule ended with ⟨counted, armed⟩
    exact ⟨counted, _, Reactor.armingDelay_toNanos delay, Reactor.armingDelay_nanos_lt, armed⟩

/-- A timeout of no milliseconds rings after a nanosecond, and a delay that cannot be counted is
rejected. -/
theorem extreme_delays_are_armed :
    (∃ after value, setTimeout 0 0 (.done .null) (faltering.world 7) = (.ok ⟨7, 2⟩, after) ∧
      value.toNanos = 1 ∧
      NewlyArmed value .zero 7 (faltering.world 7).kernel after.kernel) ∧
    (schedule 0 ⟨2 ^ 63, 0⟩ true (.done .null) (faltering.world 7)).1 =
      .error (.raised (.system ⟨"timerfd_settime", 22⟩)) := by
  rcases delays_are_armed_exactly (faltering.world 7) 0 (.done .null) with ⟨words, delays⟩
  constructor
  · have started : (setTimeout 0 0 (.done .null) (faltering.world 7)).1 = .ok ⟨7, 2⟩ := by
      decide +kernel
    have answered {result : Except Failure TimerHandle × World Unit}
        {answer : Except Failure TimerHandle} (said : result.1 = answer) :
        ∃ after, result = (answer, after) := ⟨result.2, Prod.ext said rfl⟩
    rcases answered started with ⟨after, ended⟩
    rcases words 0 with ⟨value, -, -, nanos, -, -, -, timeout, -⟩
    exact ⟨after, value, ended, nanos.trans (by decide), timeout ⟨7, 2⟩ after ended⟩
  · have there : ((faltering.world 7).reactor? 0).map (fun reactor => reactor.loop.poller.list) =
        some 3 := by decide +kernel
    rcases Option.map_eq_some_iff.mp there with ⟨reactor, found, list⟩
    have watches : ((faltering.world 7).kernel.readyList? 3).map (fun state =>
        state.watches.get? 7) = some none := by decide +kernel
    rcases Option.map_eq_some_iff.mp watches with ⟨state, listed, absent⟩
    have obliging : (faltering.world 7).kernel.Obliging reactor.loop.poller.list := by
      rw [list]
      exact ⟨by decide +kernel, 7, state, by decide +kernel, listed, absent⟩
    exact (((delays ⟨2 ^ 63, 0⟩ true).2.2 reactor found).2 obliging).2.mpr (Nat.le_refl _)

end Dispatch

end ScriptHost
