import ScriptHost.Proofs.Loop.Lineup

/-!
# Starting and releasing timers in line

A timer that is started goes to its place in the line, and one that is released leaves
it.  Where a call fails on the way, the line is as it was but for the timer that the call
is about; and however the kernel refuses, a timer that was to be released is gone.
-/

namespace ScriptHost.Reactor

open Kernel

variable {σ η : Type} {callbacks : Script σ → Prop} {reported : EventLoop (Handler σ)} {dues : Dues}
  {called : List (Descriptor × Alarm)} {ringing : Option TimerHandle} {id : Nat}
  {history : List Event} {timer : TimerHandle}

/-! ## Calls on the kernel -/

section Kernel

variable {kernel after : Kernel} {list fd : Descriptor}

/-- The registration of a descriptor, whether it is accepted or not. -/
theorem aside_add {loop : EventLoop η} (interest : Interest) (handler : η) (kernel : Kernel)
    (away : fd ≠ loop.poller.list) :
    Aside loop.poller.list fd kernel (EventLoop.add fd interest handler (kernel, loop)).2.1 := by
  rw [EventLoop.add_kernel]
  exact keeps_named _ (aside_watch _ interest away) kernel

theorem aside_remove {loop : EventLoop η} (kernel : Kernel) (away : fd ≠ loop.poller.list) :
    Aside loop.poller.list fd kernel (EventLoop.remove fd (kernel, loop)).2.1 := by
  cases present : loop.registrations.contains fd with
  | false =>
      rw [EventLoop.remove_of_absent present]
      exact refl_of (Aside _ _) kernel
  | true =>
      rw [EventLoop.remove_kernel present]
      exact keeps_named _ (aside_forget away) kernel

/-- Taking a timer out of the loop leaves it a timer. -/
theorem timer_of_remove {loop : EventLoop η} {state : Kernel.Timer}
    (timed : kernel.resource? fd = some (.timer state)) (away : fd ≠ loop.poller.list) :
    (EventLoop.remove fd (kernel, loop)).2.1.resource? fd = some (.timer state) := by
  cases present : loop.registrations.contains fd with
  | false =>
      rw [EventLoop.remove_of_absent present]
      exact timed
  | true =>
      rw [EventLoop.remove_kernel present]
      exact (keeps_named _ (freezes_forget loop.poller.list fd) kernel).timers fd state away.symm timed

theorem watch_of_add {reactor later : Reactor η} {interest : Interest} {handler : η}
    (added : onLoop (EventLoop.add fd interest handler) (kernel, reactor) = (.ok (), (after, later))) :
    watch reactor.loop.poller.list fd (Token.make fd reactor.loop.generation) interest kernel =
      (.ok (), after) := by
  rcases onLoop_eq_iff.mp added with ⟨_, added, _⟩
  exact ok_of_named (EventLoop.add_eq_ok_iff.mp added).1

/-- A timer stays one, whether it can be armed or not. -/
theorem timer_of_arm {state : Kernel.Timer} (timed : kernel.resource? fd = some (.timer state))
    (delay : Span) (isRepeating : Bool) :
    ∃ later, (arm fd delay isRepeating kernel).2.resource? fd = some (.timer later) := by
  rcases arm_outcome fd delay isRepeating kernel with
    ⟨cause, after, ended, still⟩ | ⟨after, ended, -, -, later, armed, -⟩ <;> rw [ended]
  · rcases still.ticks.timers fd state not_false timed with ⟨later, timed', _⟩
    exact ⟨later, timed'⟩
  · exact ⟨later, armed⟩

theorem aside_closed {state : Kernel.Timer} (timed : kernel.resource? fd = some (.timer state))
    (away : fd ≠ list) : Aside list fd kernel (kernel.close fd) :=
  aside_close (fun _ found => ⟨state, Option.some.inj (found.symm.trans timed)⟩) away

end Kernel

/-! ## Releasing -/

variable {kernel after : Kernel} {reactor later : Reactor (Handler σ)} {fd : Descriptor}

theorem aside_release {reactor : Reactor η} {state : Kernel.Timer}
    (live : isLive reactor.timers timer = true)
    (timed : kernel.resource? timer.fd = some (.timer state))
    (away : timer.fd ≠ reactor.loop.poller.list) :
    Aside reactor.loop.poller.list timer.fd kernel (release timer (kernel, reactor)).2.1 := by
  rw [release_world live]
  have timed' : (onLoop (EventLoop.remove timer.fd) (kernel, reactor.struck timer.fd)).2.1.resource?
      timer.fd = some (.timer state) := timer_of_remove timed away
  exact trans_of (Aside _ _) (aside_remove kernel away) (aside_closed timed' away)

namespace Lineup

theorem away_of_live (lineup : Lineup callbacks reported dues called ringing id kernel reactor history)
    {entry : LiveTimer} (live : reactor.timers.live.get? fd = some entry) :
    fd ≠ reactor.loop.poller.list := by
  rintro rfl
  rw [lineup.sound.list] at live
  cases live

/-- A timer that is released leaves the line. -/
theorem release (lineup : Lineup callbacks reported dues called ringing id kernel reactor history)
    (live : isLive reactor.timers timer = true) :
    Lineup callbacks reported (dues.without timer.fd) called ringing id
      (release timer (kernel, reactor)).2.1 (release timer (kernel, reactor)).2.2 history := by
  rcases isLive_iff.mp live with ⟨_, entry⟩
  rcases lineup.timed timer.fd _ entry with ⟨state, timed⟩
  exact lineup.vacate (upholds_release timer (kernel, reactor) lineup.sound)
    (released_release live kernel).vacates (aside_release live timed (lineup.away_of_live entry))

/-- So does one whose callback has come back. -/
theorem settle (lineup : Lineup callbacks reported dues called ringing id kernel reactor history)
    (live : isLive reactor.timers timer = true) (outcome : Except Error Unit) :
    Lineup callbacks reported (dues.without timer.fd) called ringing id
      (settle timer false outcome (kernel, reactor)).2.1
      (settle timer false outcome (kernel, reactor)).2.2 history := by
  rcases isLive_iff.mp live with ⟨_, entry⟩
  rcases lineup.timed timer.fd _ entry with ⟨state, timed⟩
  have away := lineup.away_of_live entry
  have kept := upholds_settle timer false outcome (kernel, reactor) lineup.sound
  have drained : Aside reactor.loop.poller.list timer.fd kernel
      (Streams.read timer.fd 8 kernel).2 := by
    rw [Streams.read, named_world]
    exact aside_read timed 8 away
  have still := keeps_named "read" (still_read timer.fd 8) kernel
  rcases still.ticks.timers timer.fd state not_false timed with ⟨state', timed', _⟩
  have released := aside_release live timed' away
  rw [settle_world] at kept ⊢
  exact lineup.vacate kept (released_release live _).vacates (trans_of (Aside _ _) drained released)

end Lineup

/-! ## Starting -/

/-- What starts no timer on a descriptor that was free leaves none there. -/
theorem vacates_of_same {later : Reactor (Handler σ)}
    (unregistered : reactor.loop.registrations.get? fd = none)
    (ids : reactor.timers.nextId ≤ later.timers.nextId)
    (live : ∀ other, fd ≠ other →
      later.timers.live.get? other = reactor.timers.live.get? other)
    (gone : later.timers.live.get? fd = none)
    (registrations : later.loop.registrations = reactor.loop.registrations)
    (running : later.loop.running = reactor.loop.running) : Vacates fd reactor later where
  ids := ids
  live other := by
    split
    next here => rw [← here, gone]
    next away => exact live other away
  registrations other := by
    rw [registrations]
    split
    next here => rw [← here, unregistered]
    next => rfl
  running := running

/-- A timer that rings once has been started on a descriptor that was free: it is live, registered
and watched, it is armed later than all others, and it is not queued. -/
structure Joined (kernel : Kernel) (reactor : Reactor (Handler σ)) (delay : Span)
    (callback : Script σ) (fd : Descriptor) (after : Kernel) (later : Reactor (Handler σ)) : Prop where
  free : kernel.opening? fd = none
  enrolled : ∃ armed, Enrolled armed fd false callback reactor later
  aside : Aside reactor.loop.poller.list fd kernel after
  watched : after.watch? reactor.loop.poller.list fd =
    some ⟨(Token.make fd reactor.loop.generation), Interest.readable.requested⟩
  absent : fd ∉ after.queueOf reactor.loop.poller.list
  armed : ∃ serial, kernel.alarms ≤ serial ∧ serial < after.alarms ∧
    after.resource? fd = some (.timer ⟨some ⟨kernel.now + max delay.toNanos 1, serial⟩, 0, 0⟩)

theorem joined_of_schedule {callback : Script σ} {delay : Span} (sound : reactor.Sound kernel)
    (opened : ∀ fd ∈ kernel.queueOf reactor.loop.poller.list, kernel.opening? fd ≠ none)
    (ended : schedule (fun timer => .timer timer false callback) delay false (kernel, reactor) =
      (.ok timer, (after, later))) :
    ∃ fd, timer = reactor.nextTimer fd ∧ Joined kernel reactor delay callback fd after later := by
  have calls := started_schedule (fun timer => Handler.timer timer false callback) delay false
    kernel reactor
  rw [ended] at calls
  cases calls with
  | @started fd created armed _ _ made set added =>
      have free := (createTimer_of_ok made).1.free
      have absent : fd ∉ kernel.queueOf reactor.loop.poller.list := fun member => opened fd member free
      have some_delay : (armingDelay delay).toNanos ≠ 0 := by
        rw [armingDelay_toNanos]
        exact Nat.ne_of_gt (Nat.lt_of_lt_of_le Nat.one_pos (Nat.le_max_right _ _))
      have listed := watch_of_add added
      rcases joins_of_calls (sound.ne_list_of_free free) some_delay made (ok_of_named set)
          listed with
        ⟨aside, watched, queue, serial, newest, counted, timed⟩
      rw [← queue] at absent
      rw [armingDelay_toNanos, if_neg Bool.false_ne_true, toNanos_zero] at timed
      exact ⟨fd, rfl, free, ⟨armed, enrolled_of_add added⟩, aside, watched, absent, serial, newest,
        counted, timed⟩

namespace Lineup

/-- Where a descriptor is free, nothing is registered for it. -/
theorem unregistered_of_dead
    (lineup : Lineup callbacks reported dues called ringing id kernel reactor history)
    (dead : reactor.timers.live.get? fd = none) :
    reactor.loop.registrations.get? fd = none := by
  cases found : reactor.loop.registrations.get? fd with
  | none => rfl
  | some registration =>
      rcases lineup.seated fd registration found with ⟨number, callback, _, live, _⟩
      cases dead.symm.trans live

theorem inTurn_armed
    (lineup : Lineup callbacks reported dues called ringing id kernel reactor history)
    (fd : Descriptor) (time : Nat) (delay : Span) :
    inTurn id history (.armed id (reactor.nextTimer fd) false time delay) :=
  fun _ earlier due dueAt => lineup.known earlier due dueAt

/-- A timer that could not be started has left nothing behind. -/
theorem unstarted {error : Error} {callback : Script σ} {delay : Span}
    (lineup : Lineup callbacks reported dues called ringing id kernel reactor history)
    (ended : schedule (fun timer => .timer timer false callback) delay false (kernel, reactor) =
      (.error error, (after, later))) :
    ∃ dues, Lineup callbacks reported dues called ringing id after later history := by
  have kept := upholds_schedule (fun timer => Handler.timer timer false callback) delay false
    (kernel, reactor) lineup.sound
  have calls := started_schedule (fun timer => Handler.timer timer false callback) delay false
    kernel reactor
  rw [ended] at kept calls
  have dead {fd : Descriptor} {created : Kernel} (made : createTimer kernel = (.ok fd, created)) :=
    lineup.sound.dead_of_free (createTimer_of_ok made).1.free
  have away {fd : Descriptor} {created : Kernel} (made : createTimer kernel = (.ok fd, created)) :=
    lineup.sound.ne_list_of_free (createTimer_of_ok made).1.free
  have asideArmed {fd : Descriptor} {created : Kernel} (made : createTimer kernel = (.ok fd, created)) :
      Aside reactor.loop.poller.list fd kernel (arm fd delay false created).2 :=
    trans_of (Aside _ _) (aside_createTimer made (away made))
      (keeps_named _ (aside_setTimer _ _ (away made)) created)
  cases calls with
  | unmade failed =>
      rcases createTimer_cases kernel with ⟨errno, met⟩ | ⟨_, _, _, made⟩
      · cases met.symm.trans failed
        exact ⟨dues, lineup.passed (createTimer_of_error failed) (lineup.lined.meetFault _)⟩
      · cases made.symm.trans failed
  | @unarmed fd cause _ created armed made failed =>
      rcases timer_of_arm (resource?_createTimer made) delay false with ⟨state, timed⟩
      have first := asideArmed made
      rw [failed] at timed first
      exact ⟨_, lineup.vacate kept (vacates_of_same (lineup.unregistered_of_dead (dead made))
        (Nat.le_refl _) (fun _ _ => rfl) (dead made) rfl rfl)
        (trans_of (Aside _ _) first (aside_closed timed (away made)))⟩
  | @unregistered fd _ created armed failed loop made set refused =>
      rcases timer_of_arm (resource?_createTimer made) delay false with ⟨state, timed⟩
      have first := asideArmed made
      rw [set] at timed first
      have second : Aside reactor.loop.poller.list fd armed (onLoop (EventLoop.add fd .readable
          (Handler.timer (reactor.nextTimer fd) false callback)) (armed, reactor.entered fd false)).2.1 :=
        aside_add .readable _ armed (away made)
      have sound := (lineup.sound.entered (opens_of_arm made set).1 false).sound
      have spares := spares_onLoop (EventLoop.upholds_add fd .readable
        (Handler.timer (reactor.nextTimer fd) false callback)) sound
      rw [refused] at second spares
      rcases spares.ticks.timers fd state (away made) timed with ⟨state', timed', _⟩
      rw [onLoop_add_of_error refused] at kept ⊢
      refine ⟨_, lineup.vacate kept (vacates_of_same (lineup.unregistered_of_dead (dead made))
        (Nat.le_succ _) (fun other different => ?_) (live_struck _ fd) rfl rfl)
        (trans_of (Aside _ _) first (trans_of (Aside _ _) second (aside_closed timed' (away made))))⟩
      unfold struck entered
      rw [Table.get?_erase, if_neg different, Table.get?_insert, if_neg different]

/-- A timer that is started takes its place in the line. -/
theorem started {timer : TimerHandle} {callback : Script σ} {delay : Span}
    (lineup : Lineup callbacks reported dues called ringing id kernel reactor history)
    (lawful : Lawful (inTurn id) history) (good : callbacks callback)
    (ended : schedule (fun timer => .timer timer false callback) delay false (kernel, reactor) =
      (.ok timer, (after, later))) :
    ∃ fd, timer = reactor.nextTimer fd ∧
      Lineup callbacks reported
        (dues.put fd ⟨kernel.now + max delay.toNanos 1, reactor.timers.nextId⟩) called ringing id after
        later (history ++ [.armed id timer false kernel.now delay]) := by
  have kept := upholds_schedule (fun timer => Handler.timer timer false callback) delay false
    (kernel, reactor) lineup.sound
  rw [ended] at kept
  rcases joined_of_schedule lineup.sound lineup.lined.opened ended with ⟨fd, rfl, joined⟩
  rcases joined.enrolled with ⟨armed, enrolled⟩
  rcases joined.armed with ⟨serial, newest, counted, timed⟩
  exact ⟨fd, rfl, lineup.enroll lawful kept joined.free enrolled good joined.aside joined.watched
    joined.absent newest counted timed⟩

end Lineup

/-! ## A new loop -/

theorem createReadyList_of_create {capacity : Nat} {fresh : Reactor η}
    (made : (create capacity : SystemCall (Reactor η)) kernel = (.ok fresh, after)) :
    createReadyList kernel = (.ok fresh.loop.poller.list, after) := by
  rcases create_eq_ok_iff.mp made with ⟨fd, listed, rfl⟩
  exact listed

/-- A loop with which nothing was done yet. -/
theorem lineup_create {capacity : Nat} {fresh : Reactor (Handler σ)}
    (made : (create capacity : SystemCall (Reactor (Handler σ))) kernel = (.ok fresh, after))
    (unheard : ∀ event ∈ history, event.IsAside id) :
    Lineup callbacks fresh.loop (fun _ => none) [] none id after fresh history := by
  have queue := queueOf_createReadyList (createReadyList_of_create made)
  rcases create_of_ok made with ⟨fd, opens, watches, rfl⟩
  have undue (timer : TimerHandle) (due : Alarm) : ¬DueAt history id timer due := by
    rintro ⟨_, _, _, armed, _⟩
    exact unheard _ armed rfl
  exact
    { sound := sound_blank watches
      sited := by
        rcases watches with ⟨opening, table, stands, all⟩
        exact ⟨opening, table, stands, fun other watch found => (all other watch found).elim⟩
      lined := by
        constructor
        case opened => rw [queue]; nofun
        case sorted => rw [queue]; exact .nil
        all_goals nofun
      seated := nofun
      registered := nofun
      timed := nofun
      watched := nofun
      known := fun timer due dueAt => absurd dueAt (undue timer due)
      standing := nofun
      calling := nofun
      held := nofun
      grown := refl_of EventLoop.Grown _
      sorted := .nil
      front := nofun
      covered := nofun
      rung := fun timer time due _ dueAt => absurd dueAt (undue timer due)
      idle := nofun
      past := nofun }

end ScriptHost.Reactor
