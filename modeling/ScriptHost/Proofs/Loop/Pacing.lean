import ScriptHost.Proofs.Loop.OneShot

/-!
# Callbacks and expiries

The callback of a timer runs once for an event of its descriptor, and the expiries
that were counted until then are read after it.  So it runs no more often than the
timer has expired, but for two things.  The event may be out of date when its turn
comes: another wait that went on inside an earlier handler has reported the same
expiry, and it was served.  And the expiries may be left unread, where the read fails
or somebody has taken a hand in it.  The journal is told of both, and each of them
excuses one callback.
-/

namespace ScriptHost

open Kernel

variable {σ : Type} {history : List Event} {event : Event} {id : Nat} {timer : TimerHandle}

/-! ## Histories -/

/-- How often a callback of a timer is excused. -/
def excusesOf (history : List Event) (id : Nat) (timer : TimerHandle) : Nat :=
  history.countP fun event =>
    match event with
    | .hollow id' timer' | .unread id' timer' => id' = id ∧ timer' = timer
    | _ => false

/-- No loop was asked for so many registrations that their tokens come round again. -/
def Few (history : List Event) : Prop :=
  ∀ delivery, .handling delivery ∈ history → delivery.asked ≤ 2 ^ 32

/-- A timer that was armed has waited for its delay. -/
def Waited (id : Nat) (timer : TimerHandle) (history : List Event) (now : Nat) : Prop :=
  ∃ isRepeating start delay, .armed id timer isRepeating start delay ∈ history ∧
    start + max delay.toNanos 1 ≤ now

/-- When timers may be armed and callbacks started, given what has happened. -/
def paced (before : List Event) : Event → Prop
  | .armed id timer _ _ _ =>
      ∀ isRepeating start delay, .armed id timer isRepeating start delay ∉ before
  | .ringing id timer time =>
      (∃ isRepeating start delay, .armed id timer isRepeating start delay ∈ before ∧
        start + (startsOf before id timer + 1 - excusesOf before id timer) * max delay.toNanos 1 ≤
          time) ∧
        (Few before → Waited id timer before time)
  | _ => True

/-- The timer whose pace an event is about. -/
def Event.pacing? : Event → Option (Nat × TimerHandle)
  | armed id timer .. | hollow id timer | ringing id timer _ | unread id timer => some (id, timer)
  | _ => none

theorem Few.earlier {later : List Event} (few : Few later)
    (subset : ∀ event ∈ history, event ∈ later) : Few history :=
  fun delivery member => few delivery (subset _ member)

theorem Waited.later {later : List Event} {now now' : Nat} (waited : Waited id timer history now)
    (subset : ∀ event ∈ history, event ∈ later) (passed : now ≤ now') :
    Waited id timer later now' := by
  rcases waited with ⟨isRepeating, start, delay, armed, due⟩
  exact ⟨isRepeating, start, delay, subset _ armed, Nat.le_trans due passed⟩

theorem startsOf_append (history news : List Event) (id : Nat) (timer : TimerHandle) :
    startsOf (history ++ news) id timer = startsOf history id timer + startsOf news id timer :=
  List.countP_append

theorem excusesOf_append (history news : List Event) (id : Nat) (timer : TimerHandle) :
    excusesOf (history ++ news) id timer = excusesOf history id timer + excusesOf news id timer :=
  List.countP_append

/-- Events that are not about the pace of a timer start and excuse nothing. -/
theorem counts_of_ne (other : event.pacing? ≠ some (id, timer)) :
    startsOf [event] id timer = 0 ∧ excusesOf [event] id timer = 0 := by
  constructor
  · refine startsOf_eq_zero.mpr fun time member => other ?_
    rw [← List.mem_singleton.mp member]
    rfl
  · refine List.countP_eq_zero.mpr fun event' member excuses => ?_
    rw [List.mem_singleton.mp member] at excuses
    cases event <;> try cases excuses
    case hollow | unread =>
        rcases of_decide_eq_true excuses with ⟨rfl, rfl⟩
        exact other rfl

section Laws

variable (lawful : Lawful paced history)

include lawful

/-- The callback of a timer that was not armed was not started. -/
theorem startsOf_of_unarmed
    (unarmed : ∀ isRepeating start delay, .armed id timer isRepeating start delay ∉ history) :
    startsOf history id timer = 0 := by
  refine startsOf_eq_zero.mpr fun _ rings => ?_
  rcases lawful.allowed_of_mem rings with
    ⟨before, earlier, ⟨isRepeating, start, delay, armed, _⟩, _⟩
  exact unarmed isRepeating start delay (earlier _ armed)

/-- A timer is armed once. -/
theorem armed_unique {isRepeating isRepeating' : Bool} {start start' : Nat} {delay delay' : Span}
    (first : .armed id timer isRepeating start delay ∈ history)
    (second : .armed id timer isRepeating' start' delay' ∈ history) :
    start = start' ∧ delay = delay' := by
  rcases lawful.ordered first second with same | ⟨before, earlier, once⟩ | ⟨before, earlier, once⟩
  · cases same
    exact ⟨rfl, rfl⟩
  · exact absurd earlier (once _ _ _)
  · exact absurd earlier (once _ _ _)

end Laws

/-! ## One timer -/

/-- A timer was armed, and its callback was started no more often than it has expired, but for
the excuses; and less often if its state requires it. -/
def InStep (less : Kernel.Timer → Prop) (kernel : Kernel) (history : List Event) (id : Nat)
    (timer : TimerHandle) : Prop :=
  ∃ isRepeating start delay state expiries,
    .armed id timer isRepeating start delay ∈ history ∧
    kernel.resource? timer.fd = some (.timer state) ∧
    state.Expired start (max delay.toNanos 1) isRepeating kernel.now expiries ∧
    startsOf history id timer ≤ expiries + excusesOf history id timer ∧
    (less state → startsOf history id timer < expiries + excusesOf history id timer)

/-- There is something to be read from a timer that nobody is busy with. -/
def Unserved (idle : Prop) (state : Kernel.Timer) : Prop :=
  idle ∧ 0 < state.count

namespace InStep

variable {less less' : Kernel.Timer → Prop} {kernel after : Kernel}
  {touched : Descriptor → Prop} {idle : Prop}

theorem mono (step : InStep less kernel history id timer)
    (weaker : ∀ state, kernel.resource? timer.fd = some (.timer state) → less' state → less state) :
    InStep less' kernel history id timer := by
  rcases step with ⟨isRepeating, start, delay, state, expiries, armed, found, expired, most, fewer⟩
  exact ⟨isRepeating, start, delay, state, expiries, armed, found, expired, most,
    fun required => fewer (weaker state found required)⟩

/-- News that are not about the pace of the timer. -/
theorem told (step : InStep less kernel history id timer)
    (other : event.pacing? ≠ some (id, timer)) :
    InStep less kernel (history ++ [event]) id timer := by
  rcases counts_of_ne other with ⟨starts, excuses⟩
  rcases step with ⟨isRepeating, start, delay, state, expiries, armed, found, expired, most, fewer⟩
  refine ⟨isRepeating, start, delay, state, expiries, List.mem_append_left _ armed, found, expired, ?_⟩
  rw [startsOf_append, excusesOf_append, starts, excuses]
  exact ⟨most, fewer⟩

/-- A timer whose callback is excused may be started once more. -/
theorem excused (step : InStep less kernel history id timer)
    (excuse : event = .hollow id timer ∨ event = .unread id timer) :
    InStep (fun _ => True) kernel (history ++ [event]) id timer := by
  have counts : startsOf [event] id timer = 0 ∧ excusesOf [event] id timer = 1 := by
    rcases excuse with rfl | rfl <;> simp [startsOf, excusesOf]
  rcases step with ⟨isRepeating, start, delay, state, expiries, armed, found, expired, most, _⟩
  refine ⟨isRepeating, start, delay, state, expiries, List.mem_append_left _ armed, found, expired, ?_⟩
  rw [startsOf_append, excusesOf_append, counts.1, counts.2]
  exact ⟨by omega, fun _ => by omega⟩

/-- A timer whose callback was started when it could be. -/
theorem rung (step : InStep (fun _ => True) kernel history id timer) (time : Nat) :
    InStep (fun _ => False) kernel (history ++ [.ringing id timer time]) id timer := by
  have starts : startsOf [.ringing id timer time] id timer = 1 := by simp [startsOf]
  have excuses : excusesOf [.ringing id timer time] id timer = 0 := by simp [excusesOf]
  rcases step with ⟨isRepeating, start, delay, state, expiries, armed, found, expired, _, fewer⟩
  refine ⟨isRepeating, start, delay, state, expiries, List.mem_append_left _ armed, found, expired, ?_⟩
  rw [startsOf_append, excusesOf_append, starts, excuses]
  exact ⟨fewer trivial, False.elim⟩

/-- A timer that goes on. -/
theorem ticks (step : InStep (Unserved idle) kernel history id timer)
    (ticks : Ticks touched kernel after) (untouched : ¬touched timer.fd) :
    InStep (Unserved idle) after history id timer := by
  rcases step with ⟨isRepeating, start, delay, state, expiries, armed, found, expired, most, fewer⟩
  rcases ticks.timers timer.fd state untouched found with ⟨later, found', goes⟩
  rcases goes start _ isRepeating expiries (Nat.le_max_right _ _) expired with
    ⟨more, grown, expired', new⟩
  refine ⟨isRepeating, start, delay, later, more, armed, found', expired', by omega, ?_⟩
  rintro ⟨free, unread⟩
  rcases Nat.eq_zero_or_pos state.count with none | some
  · have := new none unread
    omega
  · have := fewer ⟨free, some⟩
    omega

/-- A callback that may be started comes no earlier than the clock allows. -/
theorem on_time (step : InStep (fun _ => True) kernel history id timer) :
    ∃ isRepeating start delay, .armed id timer isRepeating start delay ∈ history ∧
      start + (startsOf history id timer + 1 - excusesOf history id timer) * max delay.toNanos 1 ≤
        kernel.now := by
  rcases step with ⟨isRepeating, start, delay, state, expiries, armed, _, expired, _, fewer⟩
  refine ⟨isRepeating, start, delay, armed, Nat.le_trans ?_ expired.past⟩
  refine Nat.add_le_add_left (Nat.mul_le_mul_right _ ?_) start
  have := fewer trivial
  omega

/-- A timer from which something can be read has waited for its delay. -/
theorem waited (step : InStep less kernel history id timer) (showing : kernel.Shows timer.fd) :
    Waited id timer history kernel.now := by
  rcases step with ⟨isRepeating, start, delay, state, expiries, armed, found, expired, _⟩
  refine ⟨isRepeating, start, delay, armed, Nat.le_trans ?_ expired.past⟩
  exact Nat.add_le_add_left (Nat.le_mul_of_pos_left _ (expired.unread (showing state found))) start

/-- A timer that was just armed and announced. -/
theorem fresh {isRepeating : Bool} {start : Nat} {delay : Span} (lawful : Lawful paced history)
    (unarmed : ∀ isRepeating start delay, .armed id timer isRepeating start delay ∉ history)
    (timed : Reactor.Armed kernel timer.fd start delay isRepeating)
    (ticks : Ticks touched kernel after) (untouched : ¬touched timer.fd) :
    InStep (Unserved idle) after (history ++ [.armed id timer isRepeating start delay]) id timer := by
  have starts : startsOf [.armed id timer isRepeating start delay] id timer = 0 := rfl
  rcases timed with ⟨state, found, expired⟩
  rcases ticks.timers timer.fd state untouched found with ⟨later, found', goes⟩
  rcases goes start _ isRepeating 0 (Nat.le_max_right _ _) expired with ⟨more, _, expired', _⟩
  refine ⟨isRepeating, start, delay, later, more,
    List.mem_append_right _ (List.mem_singleton.mpr rfl), found', expired', ?_⟩
  rw [startsOf_append, startsOf_of_unarmed lawful unarmed, starts]
  exact ⟨Nat.zero_le _, fun unserved => Nat.add_pos_left (expired'.unread unserved.2) _⟩

end InStep

/-! ## One reactor -/

namespace Reactor

variable {reactor later : Reactor (Handler σ)} {kernel after : Kernel}
  {touched : Descriptor → Prop} {fd : Descriptor}

/-- A later state of a reactor in which no timer is registered that was not before, and none
that is live is another. -/
structure Fewer (before after : Reactor (Handler σ)) : Prop where
  ids : before.timers.nextId ≤ after.timers.nextId
  timers : ∀ fd registration timer isRepeating callback,
    after.loop.registrations.get? fd = some registration →
    registration.handler = .timer timer isRepeating callback →
    before.loop.registrations.get? fd = some registration ∧
      after.timers.live.get? fd = before.timers.live.get? fd
  running : ∀ serial ∈ before.loop.running, serial ∈ after.loop.running

theorem Harmless.fewer (harmless : Harmless reactor later) : Fewer reactor later where
  ids := harmless.ids
  timers fd registration timer isRepeating callback found handles :=
    ⟨harmless.timers fd registration timer isRepeating callback found handles, harmless.live fd⟩
  running := harmless.running

theorem Released.fewer (released : Released fd reactor later) : Fewer reactor later where
  ids := Nat.le_of_eq released.ids.symm
  timers other registration timer isRepeating callback found handles := by
    rw [released.registrations] at found
    rw [released.live]
    split at found
    next => cases found
    next different => exact ⟨found, if_neg different⟩
  running := by
    rw [released.running]
    exact fun _ member => member

theorem fewer_remove (reactor : Reactor (Handler σ)) (fd : Descriptor) (kernel : Kernel) :
    Fewer reactor (onLoop (EventLoop.remove fd) (kernel, reactor)).2.2 := by
  have removed (other : Descriptor) := remove_loop fd other kernel reactor.loop
  refine ⟨Nat.le_refl _, fun other registration timer isRepeating callback found _ => ?_,
    fun serial member => ?_⟩
  · have there := (removed other).1.symm.trans found
    split at there
    next => cases there
    next => exact ⟨there, rfl⟩
  · have same : (onLoop (EventLoop.remove fd) (kernel, reactor)).2.2.loop.running = _ :=
      (removed fd).2
    rw [same]
    exact member

theorem fewer_add (reactor : Reactor (Handler σ)) (fd : Descriptor) (interest : Interest)
    (body : Descriptor → Interest → Script σ) (kernel : Kernel) :
    Fewer reactor (onLoop (EventLoop.add fd interest (.script body)) (kernel, reactor)).2.2 := by
  rcases ended : onLoop (EventLoop.add fd interest (.script body)) (kernel, reactor) with
    ⟨error | _, after, later⟩
  · rw [ended, onLoop_add_of_error ended]
    exact ⟨Nat.le_refl _, fun _ _ _ _ _ found _ => ⟨found, rfl⟩, fun _ member => member⟩
  · rw [ended, onLoop_add_of_ok ended]
    refine ⟨Nat.le_refl _, fun other registration timer isRepeating callback found handles => ?_,
      fun _ member => member⟩
    rw [registrations_enlisted] at found
    split at found
    next =>
        rw [← Option.some.inj found] at handles
        cases handles
    next => exact ⟨found, rfl⟩

/-- How the callbacks of the timers of a reactor keep pace with the clock. -/
structure Paced (reactor : Reactor (Handler σ)) (id : Nat) (kernel : Kernel)
    (history : List Event) : Prop where
  sited : reactor.loop.Sited kernel
  seated : ∀ fd registration timer isRepeating callback,
    reactor.loop.registrations.get? fd = some registration →
    registration.handler = .timer timer isRepeating callback →
    timer.fd = fd ∧ isLive reactor.timers timer = true
  known : ∀ timer isRepeating start delay, .armed id timer isRepeating start delay ∈ history →
    timer.id < reactor.timers.nextId
  inStep : ∀ fd registration timer isRepeating callback,
    reactor.loop.registrations.get? fd = some registration →
    registration.handler = .timer timer isRepeating callback →
    InStep (Unserved (registration.serial ∉ reactor.loop.running)) kernel history id timer

/-- A registered timer is live on its descriptor. -/
theorem Paced.live {registration : Registration (Handler σ)} {isRepeating : Bool}
    {callback : Script σ} (paced : reactor.Paced id kernel history)
    (found : reactor.loop.registrations.get? fd = some registration)
    (handles : registration.handler = .timer timer isRepeating callback) :
    timer.fd = fd ∧ ∃ entry, reactor.timers.live.get? fd = some entry := by
  rcases paced.seated fd registration timer isRepeating callback found handles with ⟨rfl, live⟩
  rcases isLive_iff.mp live with ⟨_, entry⟩
  exact ⟨rfl, _, entry⟩

/-- The timers that are left go on if none of their descriptors is touched. -/
theorem Paced.fewer (paced : reactor.Paced id kernel history) (fewer : Fewer reactor later)
    (ticks : Ticks touched kernel after)
    (untouched : ∀ fd, touched fd → later.timers.live.get? fd = none)
    (sited : later.loop.Sited after) : later.Paced id after history := by
  have seated (fd : Descriptor) (registration : Registration (Handler σ)) (timer : TimerHandle)
      (isRepeating : Bool) (callback : Script σ)
      (found : later.loop.registrations.get? fd = some registration)
      (handles : registration.handler = .timer timer isRepeating callback) :
      timer.fd = fd ∧ isLive later.timers timer = true := by
    rcases fewer.timers fd registration timer isRepeating callback found handles with ⟨found', same⟩
    rcases paced.seated fd registration timer isRepeating callback found' handles with ⟨rfl, live⟩
    exact ⟨rfl, (isLive_congr same).trans live⟩
  constructor
  case sited => exact sited
  case seated => exact seated
  case known =>
      exact fun timer isRepeating start delay armed =>
        Nat.lt_of_lt_of_le (paced.known timer isRepeating start delay armed) fewer.ids
  case inStep =>
      intro fd registration timer isRepeating callback found handles
      rcases fewer.timers fd registration timer isRepeating callback found handles with ⟨found', _⟩
      rcases seated fd registration timer isRepeating callback found handles with ⟨_, live⟩
      rcases isLive_iff.mp live with ⟨_, entry⟩
      have step := paced.inStep fd registration timer isRepeating callback found' handles
      refine (step.ticks ticks fun here => ?_).mono fun state _ unserved =>
        ⟨fun busy => unserved.1 (fewer.running _ busy), unserved.2⟩
      rw [untouched _ here] at entry
      cases entry

/-- What is done beside a reactor. -/
theorem Paced.spared (paced : reactor.Paced id kernel history)
    (spares : Spares touched kernel after)
    (untouched : ∀ fd, touched fd → reactor.owns fd = false) : reactor.Paced id after history := by
  refine paced.fewer (Harmless.refl reactor).fewer spares.ticks (fun fd here => ?_)
    (spares.watching _ _ (fun here => ?_) paced.sited)
  · refine Option.eq_none_iff_forall_ne_some.mpr fun entry live => ?_
    have owned : reactor.owns fd = true := (owns_iff reactor fd).mpr (.inr ⟨entry, live⟩)
    rw [untouched fd here] at owned
    cases owned
  · have owned : reactor.owns reactor.loop.poller.list = true := (owns_iff reactor _).mpr (.inl rfl)
    rw [untouched _ here] at owned
    cases owned

/-- News that arm no timer of the reactor, and leave those in step that they are about. -/
theorem Paced.told (paced : reactor.Paced id kernel history)
    (unarmed : ∀ timer isRepeating start delay, event ≠ .armed id timer isRepeating start delay)
    (own : ∀ fd registration timer isRepeating callback, event.pacing? = some (id, timer) →
      reactor.loop.registrations.get? fd = some registration →
      registration.handler = .timer timer isRepeating callback →
      InStep (Unserved (registration.serial ∉ reactor.loop.running)) kernel (history ++ [event])
        id timer) :
    reactor.Paced id kernel (history ++ [event]) where
  sited := paced.sited
  seated := paced.seated
  known timer isRepeating start delay armed :=
    paced.known timer isRepeating start delay
      (mem_of_mem_concat armed (Ne.symm (unarmed timer isRepeating start delay)))
  inStep fd registration timer isRepeating callback found handles := by
    by_cases about : event.pacing? = some (id, timer)
    · exact own fd registration timer isRepeating callback about found handles
    · exact (paced.inStep fd registration timer isRepeating callback found handles).told about

end Reactor

end ScriptHost
