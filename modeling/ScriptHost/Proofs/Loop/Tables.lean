import ScriptHost.Proofs.Loop.Deadlines
import ScriptHost.Proofs.Loop.Steps

/-!
# The tables of timers agree

A timer stands in three tables: that of the live timers, that of the registrations of its
loop, and that of the descriptors.  Calls change them one after another and may fail on the
way.  Between any two calls they say the same: the descriptors of live timers, those that
are registered with a timer's callback, and those that are open and were made for timers
are the same ones, and the callback is the one that the timer was started with.
-/

namespace ScriptHost

open World Kernel

variable {σ : Type}

namespace World

variable {origin world : World σ}

/-! ## Timers that are open -/

/-- Every timer that is open was announced when it was started. -/
theorem announced_of_reaches (reaches : Reaches origin world)
    (untimed : ∀ fd opening, ¬origin.kernel.IsTimer fd opening) {fd : Descriptor} {opening : Nat}
    (timed : world.kernel.IsTimer fd opening) :
    ∃ id timer isRepeating,
      .scheduled id timer isRepeating (some opening) ∈ world.journal.toList := by
  induction reaches generalizing fd opening with
  | refl => exact absurd timed (untimed fd opening)
  | tail _ step ih =>
      rcases step.retains_or_starts with retains | ⟨id, delay, isRepeating, callback, timer, ended⟩
      · rcases ih (retains.inherits fd opening timed) with ⟨id, timer, isRepeating, told⟩
        exact ⟨id, timer, isRepeating, retains.recalls.subset told⟩
      · have starts := starts_of_schedule ended
        rcases starts.own with ⟨reactor, later, _, _, own⟩
        rcases own.opened fd opening timed with before | rfl
        · rcases ih before with ⟨id, timer, isRepeating, told⟩
          exact ⟨id, timer, isRepeating, starts.recalls.subset told⟩
        · have told := starts.told
          rw [(isTimer_iff.mp timed).1] at told
          exact ⟨id, timer, isRepeating, told⟩

/-! ## The calls that start timers -/

/-- A timer was started on the way from one world to another, by a call that left a third. -/
structure Issues (origin world : World σ) (id : Nat) (timer : TimerHandle) (isRepeating : Bool)
    (callback : Script σ) (after : World σ) : Prop where
  call : ∃ start delay, Reaches origin start ∧
    Dispatch.schedule id delay isRepeating callback start = (.ok timer, after)
  since : Reaches after world

variable {id : Nat} {timer : TimerHandle} {isRepeating : Bool} {callback : Script σ} {fd : Descriptor}
  {registration : Registration (Handler σ)} {reactor : Reactor (Handler σ)}

/-- A timer that is registered was registered so before, or it was started by a call since. -/
theorem registered_or_issued (reaches : Reaches origin world)
    (found : world.reactor? id = some reactor)
    (registered : reactor.loop.registrations.get? fd = some registration)
    (handles : registration.handler = .timer timer isRepeating callback) :
    (∃ earlier, origin.reactor? id = some earlier ∧
      earlier.loop.registrations.get? fd = some registration) ∨
    ∃ after, Issues origin world id timer isRepeating callback after := by
  induction reaches generalizing reactor with
  | refl => exact .inl ⟨reactor, found, registered⟩
  | @tail middle last before step ih =>
      have goes_on {earlier : Reactor (Handler σ)} (there : middle.reactor? id = some earlier)
          (registered : earlier.loop.registrations.get? fd = some registration) :
          (∃ earlier, origin.reactor? id = some earlier ∧
            earlier.loop.registrations.get? fd = some registration) ∨
          ∃ after, Issues origin last id timer isRepeating callback after := by
        rcases ih there registered with old | ⟨after, issued⟩
        · exact .inl old
        · exact .inr ⟨after, issued.call, issued.since.tail step⟩
      rcases step.retains_or_starts with retains | ⟨id', delay, isRepeating', callback', timer', ended⟩
      · rcases retains.reactors id reactor found with ⟨earlier, there, kept⟩ | ⟨_, _, poller, kept⟩
        · exact goes_on there
            (kept.registered fd registration timer isRepeating callback registered handles)
        · cases kept.registered fd registration timer isRepeating callback registered handles
      · have starts := starts_of_schedule ended
        by_cases same : id' = id
        · subst same
          rcases starts.own with ⟨earlier, later, there, there', own⟩
          cases there'.symm.trans found
          rcases own.registered fd registration registered with old | new
          · exact goes_on there old
          · cases handles.symm.trans new
            exact .inr ⟨_, ⟨_, delay, before, ended⟩, .refl⟩
        · rw [starts.others id same] at found
          exact goes_on found registered

/-- A timer that is registered was started by a call that left it registered so. -/
theorem issued_of_registered (reaches : Reaches origin world)
    (empty : ∀ id, origin.reactor? id = none) (found : world.reactor? id = some reactor)
    (registered : reactor.loop.registrations.get? fd = some registration)
    (handles : registration.handler = .timer timer isRepeating callback) :
    ∃ after, Issues origin world id timer isRepeating callback after := by
  rcases registered_or_issued reaches found registered handles with ⟨earlier, there, _⟩ | issued
  · rw [empty id] at there
    cases there
  · exact issued

/-- The numbers of reactors that are there have been given, and so have those of timers. -/
theorem numbered_of_reaches (reaches : Reaches origin world)
    (empty : ∀ id, origin.reactor? id = none) (found : world.reactor? id = some reactor) :
    id < world.fresh ∧ reactor.timers.Numbered := by
  rcases reaches.follows.reactors id reactor found with ⟨earlier, there, _⟩ | ⟨_, old, follows⟩
  · rw [empty id] at there
    cases there
  · exact ⟨old, follows.numbered Timers.numbered_empty⟩

/-- Once its number has been given, a timer is registered only if it was before. -/
theorem registered_before {before : World σ} (reaches : Reaches before world)
    (old : id < before.fresh) (known : ∀ reactor, before.reactor? id = some reactor →
      timer.id < reactor.timers.nextId) (found : world.reactor? id = some reactor)
    (registered : reactor.loop.registrations.get? fd = some registration)
    (handles : registration.handler = .timer timer isRepeating callback) :
    ∃ earlier, before.reactor? id = some earlier ∧
      earlier.loop.registrations.get? fd = some registration := by
  induction reaches generalizing reactor with
  | refl => exact ⟨reactor, found, registered⟩
  | tail reached step ih =>
      have follows := Reaches.follows reached
      rcases step.retains_or_starts with retains | ⟨id', delay, isRepeating', callback', timer', ended⟩
      · rcases retains.reactors id reactor found with ⟨middle, there, kept⟩ | ⟨new, _⟩
        · exact ih there (kept.registered fd registration timer isRepeating callback registered handles)
        · exact absurd (Nat.lt_of_lt_of_le old follows.fresh) (Nat.not_lt_of_le new)
      · have starts := starts_of_schedule ended
        by_cases same : id' = id
        · subst same
          rcases starts.own with ⟨middle, later, there, there', own⟩
          cases there'.symm.trans found
          rcases own.registered fd registration registered with earlier | new
          · exact ih there earlier
          · cases handles.symm.trans new
            rcases follows.reactors id' middle there with ⟨first, there'', numbers⟩ | ⟨new, _⟩
            · have given := Nat.lt_of_lt_of_le (known first there'') numbers.ids
              exact absurd own.number (Nat.ne_of_lt given)
            · exact absurd old (Nat.not_lt_of_le new)
        · rw [starts.others id same] at found
          exact ih found registered

/-- A timer that is registered has the callback of the call that gave its number. -/
theorem Issues.registered {after : World σ} {isRepeating' : Bool} {callback' : Script σ}
    (issues : Issues origin world id timer isRepeating callback after)
    (empty : ∀ id, origin.reactor? id = none) (found : world.reactor? id = some reactor)
    (registered : reactor.loop.registrations.get? timer.fd = some registration)
    (handles : registration.handler = .timer timer isRepeating' callback') :
    isRepeating = isRepeating' ∧ callback = callback' ∧ ∃ first, after.reactor? id = some first ∧
      first.loop.registrations.get? timer.fd = some registration := by
  rcases issues.call with ⟨start, delay, reached, ended⟩
  have starts := starts_of_schedule ended
  rcases starts.own with ⟨before, first, there, there', own⟩
  have old : id < after.fresh := by
    rw [starts.fresh]
    exact (numbered_of_reaches reached empty there).1
  have known (reactor : Reactor (Handler σ)) (found : after.reactor? id = some reactor) :
      timer.id < reactor.timers.nextId := by
    cases there'.symm.trans found
    exact own.ids
  rcases registered_before issues.since old known found registered handles with ⟨first', there'', same⟩
  cases there'.symm.trans there''
  rcases own.own with ⟨registration', registered', handles'⟩
  cases registered'.symm.trans same
  cases handles'.symm.trans handles
  exact ⟨rfl, rfl, first, there', same⟩

/-! ## The tables -/

/-- The tables of timers agree in a world that was reached from another. -/
structure TimersAgree (origin world : World σ) : Prop where
  /-- The descriptors of live timers are those that are open and were made for timers. -/
  opened : ∀ fd, (∃ timer, world.kernel.resource? fd = some (.timer timer)) ↔
    ∃ id reactor entry, world.reactor? id = some reactor ∧
      reactor.timers.live.get? fd = some entry
  /-- A descriptor is that of a live timer of one reactor only. -/
  apart : ∀ id id' reactor reactor' fd entry entry',
    world.reactor? id = some reactor → world.reactor? id' = some reactor' →
    reactor.timers.live.get? fd = some entry → reactor'.timers.live.get? fd = some entry' →
    id = id'
  /-- The numbers of the live timers of a reactor are below the next, and different. -/
  numbered : ∀ id reactor, world.reactor? id = some reactor → reactor.timers.Numbered
  /-- The descriptors of the live timers of a reactor are those that are registered with the
  callback of a timer. -/
  registered : ∀ id reactor, world.reactor? id = some reactor → ∀ fd,
    (∃ entry, reactor.timers.live.get? fd = some entry) ↔
      ∃ registration timer isRepeating callback,
        reactor.loop.registrations.get? fd = some registration ∧
          registration.handler = .timer timer isRepeating callback
  /-- Each live timer was started by a call. -/
  issued : ∀ id reactor fd entry, world.reactor? id = some reactor →
    reactor.timers.live.get? fd = some entry →
    ∃ isRepeating callback after, Issues origin world id ⟨fd, entry.id⟩ isRepeating callback after
  /-- It is registered as the call that gave its number has left it. -/
  own : ∀ id reactor fd entry isRepeating callback after, world.reactor? id = some reactor →
    reactor.timers.live.get? fd = some entry →
    Issues origin world id ⟨fd, entry.id⟩ isRepeating callback after →
    entry.isRepeating = isRepeating ∧ ∃ registration first,
      reactor.loop.registrations.get? fd = some registration ∧
        registration.handler = .timer ⟨fd, entry.id⟩ isRepeating callback ∧
        after.reactor? id = some first ∧
        first.loop.registrations.get? fd = some registration

/-- A registered timer is open. -/
theorem Paced.timer_open (paced : world.Paced) (found : world.reactor? id = some reactor)
    (registered : reactor.loop.registrations.get? fd = some registration)
    (handles : registration.handler = .timer timer isRepeating callback) :
    ∃ state, world.kernel.resource? timer.fd = some (.timer state) := by
  have own := paced.reactors id reactor found
  rcases own.inStep fd registration timer isRepeating callback registered handles with
    ⟨_, _, _, state, _, _, opened, _⟩
  exact ⟨state, opened⟩

theorem timersAgree (reaches : Reaches origin world) (empty : ∀ id, origin.reactor? id = none)
    (untimed : ∀ fd opening, ¬origin.kernel.IsTimer fd opening) (sound : world.Sound)
    (timed : world.Timed) (paced : world.Paced) : TimersAgree origin world := by
  constructor
  case opened =>
      intro fd
      constructor
      · rintro ⟨timer, there⟩
        rcases resource?_eq_some there with ⟨opened, there', _⟩
        have opening : world.kernel.opening? fd = some opened.opening := by
          rw [opening?, there']
          rfl
        rcases announced_of_reaches reaches untimed (isTimer_iff.mpr ⟨opening, timer, there⟩) with
          ⟨id, timer, isRepeating, told⟩
        rcases (timed.closed id timer isRepeating _ told).2 fd opening with ⟨rfl, reactor, found, live⟩
        rcases Reactor.isLive_iff.mp live with ⟨_, entry⟩
        exact ⟨id, reactor, _, found, entry⟩
      · rintro ⟨id, reactor, entry, found, live⟩
        rcases (timed.tracks id reactor found).registered fd entry live with
          ⟨registration, callback, registered, handles⟩
        exact paced.timer_open found registered handles
  case apart =>
      intro id id' reactor reactor' fd entry entry' found found' live live'
      refine Decidable.byContradiction fun different => ?_
      have owned := (reactor.owns_iff fd).mpr (.inr ⟨entry, live⟩)
      have strange := sound.apart id id' reactor reactor' different found found' fd owned
      rw [(reactor'.owns_iff fd).mpr (.inr ⟨entry', live'⟩)] at strange
      cases strange
  case numbered => exact fun id reactor found => (numbered_of_reaches reaches empty found).2
  case registered =>
      intro id reactor found fd
      have tracks := timed.tracks id reactor found
      constructor
      · rintro ⟨entry, live⟩
        rcases tracks.registered fd entry live with ⟨registration, callback, registered, handles⟩
        exact ⟨registration, _, _, callback, registered, handles⟩
      · rintro ⟨registration, timer, isRepeating, callback, registered, handles⟩
        have live := tracks.live fd registration timer isRepeating callback registered handles
        exact ⟨_, live.2⟩
  case issued =>
      intro id reactor fd entry found live
      rcases (timed.tracks id reactor found).registered fd entry live with
        ⟨registration, callback, registered, handles⟩
      rcases issued_of_registered reaches empty found registered handles with ⟨after, issues⟩
      exact ⟨entry.isRepeating, callback, after, issues⟩
  case own =>
      intro id reactor fd entry isRepeating callback after found live issues
      rcases (timed.tracks id reactor found).registered fd entry live with
        ⟨registration, callback', registered, handles⟩
      rcases issues.registered empty found registered handles with ⟨rfl, rfl, first, there, same⟩
      exact ⟨rfl, registration, first, registered, handles, there, same⟩

end World

/-! ## Sessions -/

theorem Session.untimed_start (session : Session σ) (fd : Descriptor) (opening : Nat) :
    ¬session.start.kernel.IsTimer fd opening := by
  intro timed
  rcases (isTimer_iff.mp timed).2 with ⟨timer, there⟩
  change Option.map _ (if stdin = fd then some _ else none) = _ at there
  split at there <;> cases there

/-- At every moment of every session in which nobody else closes, drives or uses what a loop
or a timer owns, the tables of timers agree, whatever calls have failed.  The moments are all
those between the steps of scripts, so the start of every callback is one of them, and what
scripts do, however they are nested, comes down to the steps by which worlds are reached. -/
theorem Session.timer_tables_agree (session : Session σ) (steps : Nat)
    (undisturbed : ∀ fd, .seized fd ∉ session.history steps ∧ .meddled fd ∉ session.history steps) :
    TimersAgree { session.start with steps := some steps } (session.world steps) ∧
    ∀ fuel script (world : World σ), Reaches world (Script.exec session.engine fuel script world).2 := by
  have unseized (fd : Descriptor) := (undisturbed fd).1
  refine ⟨?_, fun fuel script world =>
    (reaches_endings session.engine).exec fuel script world fun _ => trivial⟩
  exact timersAgree (session.reaches steps) (fun _ => rfl) session.untimed_start
    (session.sound_world steps unseized)
    (session.timed_world steps ⟨unseized, fun fd => (undisturbed fd).2⟩)
    (session.paced_world steps unseized)

/-- A session in which three timers cannot be started, each for another reason, and the callback
of a fourth cancels it and starts another one on its descriptor. -/
def faltering : Session Unit where
  engine := ⟨fun _ _ => .ok fun _ => .done .null, fun _ _ => .done .null, fun _ _ => .done .null⟩
  script :=
    .ask (.newReactor 8) fun _ => .ask (.plan ⟨"timerfd_create", 0, 24⟩) fun _ =>
      .ask (.plan ⟨"timerfd_settime", 0, 22⟩) fun _ => .ask (.plan ⟨"epoll_ctl", 0, 28⟩) fun _ =>
      .schedule 0 ⟨0, 1000⟩ true (.done .null) fun _ =>
      .schedule 0 ⟨0, 1000⟩ true (.done .null) fun _ =>
      .schedule 0 ⟨0, 1000⟩ true (.done .null) fun _ =>
      .schedule 0 ⟨0, 1000⟩ false
        (.ask (.cancel 0 ⟨7, 2⟩) fun _ => .schedule 0 ⟨0, 9000⟩ true (.done .null) fun _ => .done .null)
        fun _ => .poll 0 none fun _ => .done .null
  fuel := 6
  input := []
  waitLimit := none
  offers := [3, 9, 9, 7, 7]
  disk := .empty
  environment := .empty
  memory := ()

/-- While the callback is running, the timer that it has started is the one that is live, open
and registered. -/
theorem faltering_tables_agree :
    ∃ reactor, (faltering.world 11).reactor? 0 = some reactor ∧ reactor.loop.running = [1] ∧
      reactor.timers.live.get? 7 = some ⟨3, true⟩ ∧
      (∃ timer, (faltering.world 11).kernel.resource? 7 = some (.timer timer)) ∧
      ∃ isRepeating callback after, Issues { faltering.start with steps := some 11 }
        (faltering.world 11) 0 ⟨7, 3⟩ isRepeating callback after := by
  have history : faltering.history 11 =
      [.scheduled 0 ⟨7, 2⟩ false (some 4), .armed 0 ⟨7, 2⟩ false 0 ⟨0, 1000⟩,
        .handling ⟨0, 1, some 1, some 1, 2, 8589934599, 1000⟩, .ringing 0 ⟨7, 2⟩ 1000,
        .cancelled 0 ⟨7, 2⟩, .scheduled 0 ⟨7, 3⟩ true (some 5),
        .armed 0 ⟨7, 3⟩ true 1000 ⟨0, 9000⟩] := by decide +kernel
  have undisturbed (fd : Descriptor) :
      .seized fd ∉ faltering.history 11 ∧ .meddled fd ∉ faltering.history 11 := by
    rw [history]
    exact ⟨by simp, by simp⟩
  have there : ((faltering.world 11).reactor? 0).map (fun reactor =>
      (reactor.loop.running, reactor.timers.live.get? 7)) = some ([1], some ⟨3, true⟩) := by
    decide +kernel
  rcases Option.map_eq_some_iff.mp there with ⟨reactor, found, same⟩
  rcases Prod.mk.inj same with ⟨running, live⟩
  have agree := (faltering.timer_tables_agree 11 undisturbed).1
  exact ⟨reactor, found, running, live, (agree.opened 7).mpr ⟨0, reactor, _, found, live⟩,
    agree.issued 0 reactor 7 _ found live⟩

end ScriptHost
