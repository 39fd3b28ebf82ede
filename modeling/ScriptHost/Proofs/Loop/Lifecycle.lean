import ScriptHost.Proofs.Loop.Delivery
import ScriptHost.Proofs.Runs.History

/-!
# The life of a timer

A live timer is one with its callback registered, and it was started.  From its start
on it is live until it is released, and it is released only by a cancel or after its
callback was started.  While the callback of a timer that rings once is running, its
registration is one of those whose handlers are being run, so the event that the
undrained descriptor goes on giving starts nothing.
-/

namespace ScriptHost

open World Kernel

variable {σ α : Type} {history news : List Event} {event : Event}

/-! ## Laws -/

/-- What may happen to timers, given what has happened. -/
def timely (before : List Event) : Event → Prop
  | .scheduled id timer _ opening =>
      (∀ isRepeating opening', .scheduled id timer isRepeating opening' ∉ before) ∧
        ∃ number, opening = some number
  | .ringing id timer _ =>
      (∃ isRepeating opening, .scheduled id timer isRepeating opening ∈ before) ∧
        ∀ opening, .scheduled id timer false opening ∈ before →
          ∀ time, .ringing id timer time ∉ before
  | .rang id timer => ∃ time, .ringing id timer time ∈ before
  | .drained id => ∀ timer opening, .scheduled id timer false opening ∈ before →
      (∃ time, .ringing id timer time ∈ before) ∨ .cancelled id timer ∈ before
  | _ => True

section Laws

variable (lawful : Lawful timely history) {id : Nat} {timer : TimerHandle}

include lawful

theorem scheduled_of_ringing {time : Nat} (rings : .ringing id timer time ∈ history) :
    ∃ isRepeating opening, .scheduled id timer isRepeating opening ∈ history := by
  rcases lawful.allowed_of_mem rings with ⟨before, earlier, ⟨isRepeating, opening, member⟩, _⟩
  exact ⟨isRepeating, opening, earlier _ member⟩

theorem ringing_of_rang (rang : .rang id timer ∈ history) :
    ∃ time, .ringing id timer time ∈ history := by
  rcases lawful.allowed_of_mem rang with ⟨before, earlier, time, member⟩
  exact ⟨time, earlier _ member⟩

theorem opening_of_scheduled {isRepeating : Bool} {opening : Option Nat}
    (started : .scheduled id timer isRepeating opening ∈ history) :
    ∃ number, opening = some number := by
  rcases lawful.allowed_of_mem started with ⟨before, _, _, opened⟩
  exact opened

/-- A timer is started once. -/
theorem scheduled_unique {isRepeating isRepeating' : Bool} {opening opening' : Option Nat}
    (first : .scheduled id timer isRepeating opening ∈ history)
    (second : .scheduled id timer isRepeating' opening' ∈ history) :
    isRepeating = isRepeating' ∧ opening = opening' := by
  rcases lawful.ordered first second with same | ⟨before, earlier, once, _⟩ | ⟨before, earlier, once, _⟩
  · cases same
    exact ⟨rfl, rfl⟩
  · exact absurd earlier (once _ _)
  · exact absurd earlier (once _ _)

end Laws

/-- The reactor with whose timers an event deals as they start or ring. -/
def Event.timing? : Event → Option Nat
  | scheduled id .. | ringing id .. | rang id _ => some id
  | _ => none

/-- Events that say nothing about the start, the ringing or the end of timers. -/
def Event.isSilent : Event → Bool
  | scheduled .. | ringing .. | rang .. | drained _ | cancelled .. => false
  | _ => true

/-! ## One reactor -/

namespace Reactor

/-- How the timers of a reactor stand, according to its history. -/
structure Tracks (reactor : Reactor (Handler σ)) (id : Nat) (history : List Event) : Prop where
  registered : ∀ fd entry, reactor.timers.live.get? fd = some entry →
    ∃ registration callback, reactor.loop.registrations.get? fd = some registration ∧
      registration.handler = .timer ⟨fd, entry.id⟩ entry.isRepeating callback
  live : ∀ fd registration timer isRepeating callback,
    reactor.loop.registrations.get? fd = some registration →
    registration.handler = .timer timer isRepeating callback →
    timer.fd = fd ∧ reactor.timers.live.get? fd = some ⟨timer.id, isRepeating⟩
  announced : ∀ fd entry, reactor.timers.live.get? fd = some entry →
    ∃ opening, .scheduled id ⟨fd, entry.id⟩ entry.isRepeating opening ∈ history
  known : ∀ timer isRepeating opening, .scheduled id timer isRepeating opening ∈ history →
    timer.id < reactor.timers.nextId
  fate : ∀ timer isRepeating opening, .scheduled id timer isRepeating opening ∈ history →
    isLive reactor.timers timer = true ∨ (∃ time, .ringing id timer time ∈ history) ∨
      .cancelled id timer ∈ history
  busy : ∀ fd registration timer callback time,
    reactor.loop.registrations.get? fd = some registration →
    registration.handler = .timer timer false callback → .ringing id timer time ∈ history →
    registration.serial ∈ reactor.loop.running
  finished : ∀ timer opening, .rang id timer ∈ history →
    .scheduled id timer false opening ∈ history → isLive reactor.timers timer = false

/-- A later state of a reactor whose timers have not been touched. -/
structure Harmless (before after : Reactor (Handler σ)) : Prop where
  ids : before.timers.nextId ≤ after.timers.nextId
  live : ∀ fd, after.timers.live.get? fd = before.timers.live.get? fd
  timers : ∀ fd registration timer isRepeating callback,
    after.loop.registrations.get? fd = some registration →
    registration.handler = .timer timer isRepeating callback →
    before.loop.registrations.get? fd = some registration
  stays : ∀ fd entry, before.timers.live.get? fd = some entry →
    after.loop.registrations.get? fd = before.loop.registrations.get? fd
  running : ∀ serial ∈ before.loop.running, serial ∈ after.loop.running

variable {reactor later : Reactor (Handler σ)} {id : Nat}

theorem isLive_congr {before after : Timers} {timer : TimerHandle}
    (same : after.live.get? timer.fd = before.live.get? timer.fd) :
    isLive after timer = isLive before timer := by
  unfold isLive
  rw [same]

theorem Tracks.harmless (tracks : reactor.Tracks id history) (harmless : Harmless reactor later) :
    later.Tracks id history where
  registered fd entry live := by
    rw [harmless.live] at live
    rw [harmless.stays fd entry live]
    exact tracks.registered fd entry live
  live fd registration timer isRepeating callback found handles := by
    rw [harmless.live]
    have found' := harmless.timers fd registration timer isRepeating callback found handles
    exact tracks.live fd registration timer isRepeating callback found' handles
  announced fd entry live := by
    rw [harmless.live] at live
    exact tracks.announced fd entry live
  known timer isRepeating opening started :=
    Nat.lt_of_lt_of_le (tracks.known timer isRepeating opening started) harmless.ids
  fate timer isRepeating opening started := by
    rw [isLive_congr (harmless.live timer.fd)]
    exact tracks.fate timer isRepeating opening started
  busy fd registration timer callback time found handles rings := by
    have found' := harmless.timers fd registration timer false callback found handles
    exact harmless.running _
      (tracks.busy fd registration timer callback time found' handles rings)
  finished timer opening rang started := by
    rw [isLive_congr (harmless.live timer.fd)]
    exact tracks.finished timer opening rang started

/-! ### News -/

/-- News that starts no timer: what rings is being served, and what has rung is not live any
more unless it is to ring again. -/
theorem Tracks.append (tracks : reactor.Tracks id history)
    (unstarted : ∀ timer isRepeating opening, event ≠ .scheduled id timer isRepeating opening)
    (served : ∀ timer time, event = .ringing id timer time →
      ∀ fd registration callback, reactor.loop.registrations.get? fd = some registration →
        registration.handler = .timer timer false callback →
        registration.serial ∈ reactor.loop.running)
    (ended : ∀ timer, event = .rang id timer →
      ∀ opening, .scheduled id timer false opening ∈ history →
        isLive reactor.timers timer = false) :
    reactor.Tracks id (history ++ [event]) where
  registered := tracks.registered
  live := tracks.live
  announced fd entry live := by
    rcases tracks.announced fd entry live with ⟨opening, started⟩
    exact ⟨opening, List.mem_append_left _ started⟩
  known timer isRepeating opening started :=
    tracks.known timer isRepeating opening
      (mem_of_mem_concat started (Ne.symm (unstarted timer isRepeating opening)))
  fate timer isRepeating opening started := by
    have old := mem_of_mem_concat started (Ne.symm (unstarted timer isRepeating opening))
    rcases tracks.fate timer isRepeating opening old with live | ⟨time, rings⟩ | cancelled
    · exact .inl live
    · exact .inr (.inl ⟨time, List.mem_append_left _ rings⟩)
    · exact .inr (.inr (List.mem_append_left _ cancelled))
  busy fd registration timer callback time found handles rings := by
    rcases List.mem_append.mp rings with old | new
    · exact tracks.busy fd registration timer callback time found handles old
    · exact served timer time (List.mem_singleton.mp new).symm fd registration callback found handles
  finished timer opening rang started := by
    have old := mem_of_mem_concat started (Ne.symm (unstarted timer false opening))
    rcases List.mem_append.mp rang with before | new
    · exact tracks.finished timer opening before old
    · exact ended timer (List.mem_singleton.mp new).symm opening old

/-- News that are not about how timers of this reactor start, ring or end. -/
theorem Tracks.told (tracks : reactor.Tracks id history) (elsewhere : event.timing? ≠ some id) :
    reactor.Tracks id (history ++ [event]) := by
  refine tracks.append ?_ ?_ ?_
  · rintro timer isRepeating opening rfl
    exact elsewhere rfl
  · rintro timer time rfl
    exact absurd rfl elsewhere
  · rintro timer rfl
    exact absurd rfl elsewhere

/-! ### Starts and releases -/

/-- A later state of a reactor in which the timer on a descriptor has been released. -/
structure Released (fd : Descriptor) (before after : Reactor (Handler σ)) : Prop where
  ids : after.timers.nextId = before.timers.nextId
  live : ∀ other, after.timers.live.get? other =
    if fd = other then none else before.timers.live.get? other
  registrations : ∀ other, after.loop.registrations.get? other =
    if fd = other then none else before.loop.registrations.get? other
  running : after.loop.running = before.loop.running

theorem isLive_released {fd : Descriptor} (released : Released fd reactor later)
    (timer : TimerHandle) :
    isLive later.timers timer =
      if fd = timer.fd then false else isLive reactor.timers timer := by
  unfold isLive
  rw [released.live]
  by_cases same : fd = timer.fd
  · rw [if_pos same, if_pos same]
  · rw [if_neg same, if_neg same]

theorem Tracks.released {timer : TimerHandle} (tracks : reactor.Tracks id history)
    (released : Released timer.fd reactor later) (live : isLive reactor.timers timer = true)
    (fated : (∃ time, .ringing id timer time ∈ history) ∨ .cancelled id timer ∈ history) :
    later.Tracks id history := by
  have still_live {fd : Descriptor} {entry : LiveTimer}
      (alive : later.timers.live.get? fd = some entry) :
      timer.fd ≠ fd ∧ reactor.timers.live.get? fd = some entry := by
    rw [released.live] at alive
    split at alive
    next => cases alive
    next different => exact ⟨different, alive⟩
  have still_registered {fd : Descriptor} {registration : Registration (Handler σ)}
      (found : later.loop.registrations.get? fd = some registration) :
      timer.fd ≠ fd ∧ reactor.loop.registrations.get? fd = some registration := by
    rw [released.registrations] at found
    split at found
    next => cases found
    next different => exact ⟨different, found⟩
  constructor
  case registered =>
      intro fd entry alive
      rcases still_live alive with ⟨different, alive⟩
      rw [released.registrations, if_neg different]
      exact tracks.registered fd entry alive
  case live =>
      intro fd registration other isRepeating callback found handles
      rcases still_registered found with ⟨different, found⟩
      rw [released.live, if_neg different]
      exact tracks.live fd registration other isRepeating callback found handles
  case announced => exact fun fd entry alive => tracks.announced fd entry (still_live alive).2
  case known =>
      rw [released.ids]
      exact tracks.known
  case fate =>
      intro other isRepeating opening started
      rw [isLive_released released]
      rcases tracks.fate other isRepeating opening started with alive | gone
      · split
        next same =>
            -- Both are live on one descriptor, so they are the same timer.
            rcases isLive_iff.mp alive with ⟨_, entry⟩
            rcases isLive_iff.mp live with ⟨_, entry'⟩
            rw [same] at entry'
            have numbers := congrArg LiveTimer.id (Option.some.inj (entry.symm.trans entry'))
            rw [TimerHandle.ext same.symm numbers]
            exact .inr fated
        next => exact .inl alive
      · exact .inr gone
  case busy =>
      intro fd registration other callback time found handles rings
      rw [released.running]
      exact tracks.busy fd registration other callback time (still_registered found).2 handles rings
  case finished =>
      intro other opening rang started
      rw [isLive_released released]
      split
      · rfl
      · exact tracks.finished other opening rang started

/-- A later state of a reactor in which a timer has been started on a descriptor of a kernel. -/
structure Enrolled (kernel : Kernel) (fd : Descriptor) (isRepeating : Bool) (callback : Script σ)
    (before after : Reactor (Handler σ)) : Prop where
  ids : after.timers.nextId = before.timers.nextId + 1
  live : ∀ other, after.timers.live.get? other =
    if fd = other then some ⟨before.timers.nextId, isRepeating⟩
    else before.timers.live.get? other
  registrations : ∀ other, after.loop.registrations.get? other =
    if fd = other then
      some (before.loop.nextFor kernel fd (.timer (before.nextTimer fd) isRepeating callback))
    else before.loop.registrations.get? other
  running : after.loop.running = before.loop.running

section Enrolled

variable {kernel : Kernel} {fd : Descriptor} {isRepeating : Bool} {callback : Script σ}
  (enrolled : Enrolled kernel fd isRepeating callback reactor later)

include enrolled

theorem Enrolled.next_live : isLive later.timers (reactor.nextTimer fd) = true :=
  isLive_iff.mpr ⟨isRepeating, (enrolled.live fd).trans (if_pos rfl)⟩

/-- What is live on another descriptor stays so. -/
theorem Enrolled.stays_live (dead : reactor.timers.live.get? fd = none) {timer : TimerHandle}
    (live : isLive reactor.timers timer = true) : isLive later.timers timer = true := by
  rcases isLive_iff.mp live with ⟨isRepeating, entry⟩
  refine isLive_iff.mpr ⟨isRepeating, ?_⟩
  rw [enrolled.live, if_neg, entry]
  rintro rfl
  exact Option.some_ne_none _ (entry.symm.trans dead)

theorem Enrolled.live_cases {other : Descriptor} {entry : LiveTimer}
    (live : later.timers.live.get? other = some entry) :
    (fd = other ∧ entry = ⟨reactor.timers.nextId, isRepeating⟩) ∨
      fd ≠ other ∧ reactor.timers.live.get? other = some entry := by
  rw [enrolled.live] at live
  split at live
  next same => exact .inl ⟨same, (Option.some.inj live).symm⟩
  next different => exact .inr ⟨different, live⟩

theorem Enrolled.registered_cases {other : Descriptor} {registration : Registration (Handler σ)}
    {timer : TimerHandle} {isRepeating' : Bool} {callback' : Script σ}
    (found : later.loop.registrations.get? other = some registration)
    (handles : registration.handler = .timer timer isRepeating' callback') :
    (fd = other ∧ timer = reactor.nextTimer fd ∧ isRepeating' = isRepeating) ∨
      fd ≠ other ∧ reactor.loop.registrations.get? other = some registration := by
  rw [enrolled.registrations] at found
  split at found
  next same =>
      rw [← Option.some.inj found] at handles
      cases handles
      exact .inl ⟨same, rfl, rfl⟩
  next different => exact .inr ⟨different, found⟩

end Enrolled

/-- A timer that is entered and registered in one go, as it is announced. -/
theorem Tracks.started {kernel : Kernel} {fd : Descriptor} {isRepeating : Bool} {callback : Script σ}
    {opening : Option Nat} (tracks : reactor.Tracks id history) (lawful : Lawful timely history)
    (dead : reactor.timers.live.get? fd = none)
    (enrolled : Enrolled kernel fd isRepeating callback reactor later) :
    later.Tracks id (history ++ [.scheduled id (reactor.nextTimer fd) isRepeating opening]) := by
  -- The number of the timer is new, so the history says nothing about it yet.
  have unheard {timer : TimerHandle} {time : Nat} (rings : .ringing id timer time ∈ history) :
      timer ≠ reactor.nextTimer fd := by
    rintro rfl
    rcases scheduled_of_ringing lawful rings with ⟨_, _, before⟩
    exact Nat.lt_irrefl _ (tracks.known _ _ _ before)
  have new_or_old {timer : TimerHandle} {isRepeating' : Bool} {opening' : Option Nat}
      (started : .scheduled id timer isRepeating' opening' ∈
        history ++ [.scheduled id (reactor.nextTimer fd) isRepeating opening]) :
      .scheduled id timer isRepeating' opening' ∈ history ∨ timer = reactor.nextTimer fd := by
    rcases List.mem_append.mp started with old | new
    · exact .inl old
    · cases List.mem_singleton.mp new
      exact .inr rfl
  constructor
  case registered =>
      intro other entry live
      rw [enrolled.registrations]
      rcases enrolled.live_cases live with ⟨rfl, rfl⟩ | ⟨away, live⟩
      · exact ⟨_, callback, if_pos rfl, rfl⟩
      · rw [if_neg away]
        exact tracks.registered other entry live
  case live =>
      intro other registration timer isRepeating' callback' found handles
      rw [enrolled.live]
      rcases enrolled.registered_cases found handles with ⟨rfl, rfl, rfl⟩ | ⟨away, found⟩
      · exact ⟨rfl, if_pos rfl⟩
      · rw [if_neg away]
        exact tracks.live other registration timer isRepeating' callback' found handles
  case announced =>
      intro other entry live
      rcases enrolled.live_cases live with ⟨rfl, rfl⟩ | ⟨-, live⟩
      · exact ⟨opening, List.mem_append_right _ (List.mem_singleton.mpr rfl)⟩
      · rcases tracks.announced other entry live with ⟨opening', started⟩
        exact ⟨opening', List.mem_append_left _ started⟩
  case known =>
      intro timer isRepeating' opening' started
      rw [enrolled.ids]
      rcases new_or_old started with old | rfl
      · exact Nat.lt_succ_of_lt (tracks.known timer isRepeating' opening' old)
      · exact Nat.lt_succ_self _
  case fate =>
      intro timer isRepeating' opening' started
      rcases new_or_old started with old | rfl
      · rcases tracks.fate timer isRepeating' opening' old with live | ⟨time, rings⟩ | cancelled
        · exact .inl (enrolled.stays_live dead live)
        · exact .inr (.inl ⟨time, List.mem_append_left _ rings⟩)
        · exact .inr (.inr (List.mem_append_left _ cancelled))
      · exact .inl enrolled.next_live
  case busy =>
      intro other registration timer callback' time found handles rings
      have before := mem_of_mem_concat rings nofun
      rw [enrolled.running]
      rcases enrolled.registered_cases found handles with ⟨-, rfl, -⟩ | ⟨-, found⟩
      · exact absurd rfl (unheard before)
      · exact tracks.busy other registration timer callback' time found handles before
  case finished =>
      intro timer opening' rang started
      have before := mem_of_mem_concat rang nofun
      rcases new_or_old started with old | rfl
      · refine Bool.eq_false_iff.mpr fun live => ?_
        rcases isLive_iff.mp live with ⟨isRepeating', entry⟩
        rcases enrolled.live_cases entry with ⟨-, new⟩ | ⟨-, entry⟩
        · have number : timer.id = reactor.timers.nextId := congrArg LiveTimer.id new
          exact Nat.ne_of_lt (tracks.known timer false opening' old) number
        · have gone := tracks.finished timer opening' before old
          rw [isLive_iff.mpr ⟨isRepeating', entry⟩] at gone
          cases gone
      · rcases ringing_of_rang lawful before with ⟨time, rings⟩
        exact absurd rfl (unheard rings)

/-! ## What calls do to registrations and timers -/

variable {kernel after : Kernel} {fd : Descriptor} {η : Type}

theorem registrations_enlisted (loop : EventLoop η) (fd other : Descriptor)
    (registration : Registration η) :
    (loop.enlisted fd registration).registrations.get? other =
      if fd = other then some registration else loop.registrations.get? other :=
  Table.get?_insert loop.registrations fd other registration

/-- What registering a descriptor leaves of a reactor. -/
theorem onLoop_add_of_ok {reactor later : Reactor η} {interest : Interest} {handler : η}
    (ended : onLoop (EventLoop.add fd interest handler) (kernel, reactor) =
      (.ok (), (after, later))) :
    later = { reactor with
      loop := reactor.loop.asked.enlisted fd (reactor.loop.nextFor kernel fd handler) } := by
  rcases onLoop_eq_iff.mp ended with ⟨_, added, rfl⟩
  rcases EventLoop.add_eq_ok_iff.mp added with ⟨_, rfl⟩
  rfl

/-- A timer that has been entered and then registered has been started. -/
theorem enrolled_of_add {reactor later : Reactor (Handler σ)} {isRepeating : Bool}
    {callback : Script σ}
    (added : onLoop (EventLoop.add fd .readable (.timer (reactor.nextTimer fd) isRepeating callback))
      (kernel, reactor.entered fd isRepeating) = (.ok (), (after, later))) :
    Enrolled kernel fd isRepeating callback reactor later := by
  rw [onLoop_add_of_ok added]
  constructor
  case ids => rfl
  case live => exact fun other => Table.get?_insert reactor.timers.live fd other _
  case registrations => exact fun other => registrations_enlisted _ fd other _
  case running => rfl

theorem onLoop_add_of_error {reactor later : Reactor η} {interest : Interest} {handler : η}
    {error : Error} (ended : onLoop (EventLoop.add fd interest handler) (kernel, reactor) =
      (.error error, (after, later))) :
    later = { reactor with loop := reactor.loop.asked } := by
  rcases onLoop_eq_iff.mp ended with ⟨_, refused, rfl⟩
  rcases EventLoop.add_eq_error_iff.mp refused with ⟨_, _, _, rfl⟩
  rfl

theorem remove_loop (fd other : Descriptor) (kernel : Kernel) (loop : EventLoop η) :
    (EventLoop.remove fd (kernel, loop)).2.2.registrations.get? other =
        (if fd = other then none else loop.registrations.get? other) ∧
      (EventLoop.remove fd (kernel, loop)).2.2.running = loop.running := by
  cases present : loop.registrations.contains fd with
  | false =>
      rw [EventLoop.remove_of_absent present]
      refine ⟨?_, rfl⟩
      split
      next same =>
          subst same
          exact Option.not_isSome_iff_eq_none.mp (Bool.eq_false_iff.mp present)
      next => rfl
  | true =>
      rcases EventLoop.remove_world kernel present with ⟨refused, world⟩
      rw [world]
      exact ⟨loop.get?_delisted fd other, rfl⟩

theorem released_release {reactor : Reactor (Handler σ)} {timer : TimerHandle}
    (live : isLive reactor.timers timer = true) (kernel : Kernel) :
    Released timer.fd reactor (release timer (kernel, reactor)).2.2 := by
  rw [release_world live]
  constructor
  case ids => rfl
  case live => exact fun other => Table.get?_erase reactor.timers.live timer.fd other
  case registrations => exact fun other => (remove_loop timer.fd other kernel reactor.loop).1
  case running => exact (remove_loop timer.fd timer.fd kernel reactor.loop).2

theorem opening?_release {reactor : Reactor η} {timer : TimerHandle}
    (live : isLive reactor.timers timer = true) (kernel : Kernel) :
    (release timer (kernel, reactor)).2.1.opening? timer.fd = none := by
  rw [release_world live]
  exact opening?_close_self _ timer.fd

/-! ## Calls that touch no timer -/

theorem Harmless.refl (reactor : Reactor (Handler σ)) : Harmless reactor reactor :=
  ⟨Nat.le_refl _, fun _ => rfl, fun _ _ _ _ _ found _ => found, fun _ _ _ => rfl,
    fun _ member => member⟩

/-- A reactor in which at most a registration of a descriptor without timer has changed. -/
theorem harmless_of_loop {reactor : Reactor (Handler σ)} {loop : EventLoop (Handler σ)}
    (dead : reactor.timers.live.get? fd = none)
    (others : ∀ other, fd ≠ other →
      loop.registrations.get? other = reactor.loop.registrations.get? other)
    (plain : ∀ registration timer isRepeating callback,
      loop.registrations.get? fd = some registration →
      registration.handler ≠ .timer timer isRepeating callback)
    (running : ∀ serial ∈ reactor.loop.running, serial ∈ loop.running) :
    Harmless reactor { reactor with loop } := by
  refine ⟨Nat.le_refl _, fun _ => rfl, ?_, ?_, running⟩
  · intro other registration timer isRepeating callback found handles
    by_cases same : fd = other
    · subst same
      exact absurd handles (plain registration timer isRepeating callback found)
    · exact (others other same).symm.trans found
  · intro other entry live
    refine others other ?_
    rintro rfl
    exact Option.some_ne_none entry (live.symm.trans dead)

theorem harmless_of_registrations {reactor : Reactor (Handler σ)} {loop : EventLoop (Handler σ)}
    (same : loop.registrations = reactor.loop.registrations)
    (running : ∀ serial ∈ reactor.loop.running, serial ∈ loop.running) :
    Harmless reactor { reactor with loop } := by
  refine ⟨Nat.le_refl _, fun _ => rfl, ?_, fun fd _ _ => ?_, running⟩
  · intro fd registration timer isRepeating callback found _
    exact same ▸ found
  · change loop.registrations.get? fd = _
    rw [same]

theorem harmless_add {reactor : Reactor (Handler σ)} (dead : reactor.timers.live.get? fd = none)
    (interest : Interest) (body : Descriptor → Interest → Script σ) (kernel : Kernel) :
    Harmless reactor
      (onLoop (EventLoop.add fd interest (.script body)) (kernel, reactor)).2.2 := by
  rcases ended : onLoop (EventLoop.add fd interest (.script body)) (kernel, reactor) with
    ⟨error | _, after, later⟩
  · rw [ended, onLoop_add_of_error ended]
    exact harmless_of_registrations rfl fun _ member => member
  · rw [ended, onLoop_add_of_ok ended]
    refine harmless_of_loop dead (fun other different => ?_) ?_ fun _ member => member
    · rw [registrations_enlisted, if_neg different]
      rfl
    · intro registration timer isRepeating callback found
      rw [registrations_enlisted, if_pos rfl] at found
      rw [← Option.some.inj found]
      nofun

theorem harmless_modify (reactor : Reactor (Handler σ)) (fd : Descriptor) (interest : Interest)
    (kernel : Kernel) :
    Harmless reactor (onLoop (EventLoop.modify fd interest) (kernel, reactor)).2.2 := by
  have same := EventLoop.modify_world fd interest kernel reactor.loop
  change Harmless reactor { reactor with loop := (EventLoop.modify fd interest _).2.2 }
  rw [same]
  exact Harmless.refl reactor

theorem harmless_remove {reactor : Reactor (Handler σ)}
    (dead : reactor.timers.live.get? fd = none) (kernel : Kernel) :
    Harmless reactor (onLoop (EventLoop.remove fd) (kernel, reactor)).2.2 := by
  have removed (other : Descriptor) := remove_loop fd other kernel reactor.loop
  change Harmless reactor { reactor with loop := (EventLoop.remove fd (kernel, reactor.loop)).2.2 }
  generalize (EventLoop.remove fd (kernel, reactor.loop)).2.2 = loop at removed
  refine harmless_of_loop dead (fun other different => ?_) ?_ fun serial member => ?_
  · rw [(removed other).1, if_neg different]
  · intro registration timer isRepeating callback found
    rw [(removed fd).1, if_pos rfl] at found
    cases found
  · rw [(removed fd).2]
    exact member

/-- A timer that could not be started has left nothing behind. -/
theorem harmless_schedule {reactor later : Reactor (Handler σ)} {isRepeating : Bool}
    {handlerFor : TimerHandle → Handler σ} {delay : Span} {error : Error}
    (sound : reactor.Sound kernel)
    (ended : schedule handlerFor delay isRepeating (kernel, reactor) =
      (.error error, (after, later))) : Harmless reactor later := by
  have outcome := schedule_outcome handlerFor delay isRepeating kernel reactor
  rw [ended] at outcome
  cases outcome with
  | uncreated => exact Harmless.refl reactor
  | unarmed => exact Harmless.refl reactor
  | @unregistered _ fd armed failed middle opens added =>
      rw [onLoop_add_of_error added]
      refine ⟨Nat.le_succ _, fun other => ?_, fun _ _ _ _ _ found _ => found, fun _ _ _ => rfl,
        fun _ member => member⟩
      change ((reactor.timers.live.insert fd _).erase fd).get? other = _
      rw [Table.get?_erase, Table.get?_insert]
      split
      next same =>
          subst same
          exact (sound.dead_of_free opens.free).symm
      next => rfl

end Reactor

end ScriptHost
