import ScriptHost.Proofs.Loop.Cancelling

/-!
# Timers and their neighbours

What is done for one timer concerns no other.  A cancel, and what a fire does before and
after its callback, reads from, takes off the list and closes the descriptor of the timer and
no other.  A live timer has a descriptor of its own, among all reactors, so it stays live with
its descriptor, its callback and the expiries that were not read.  If the descriptor of a
timer that is gone has been given to another, then nothing at all is done for the old one.
-/

namespace ScriptHost

open World Kernel

variable {σ α : Type} {id id' : Nat} {timer other : TimerHandle}

/-! ## One reactor -/

namespace Reactor

variable {kernel : Kernel} {reactor : Reactor (Handler σ)}

/-- A call that leaves everything but one descriptor, and the list of the loop, as it was. -/
structure Confined (fd : Descriptor) (before after : Kernel × Reactor (Handler σ)) : Prop where
  freezes : Freezes fd before.1 after.1
  opened : ∀ other opening, fd ≠ other → other ≠ before.2.loop.poller.list →
    before.1.opening? other = some opening → after.1.opening? other = some opening
  live : ∀ other, fd ≠ other →
    after.2.timers.live.get? other = before.2.timers.live.get? other
  registrations : ∀ other, fd ≠ other →
    after.2.loop.registrations.get? other = before.2.loop.registrations.get? other

theorem freezes_remove (reactor : Reactor (Handler σ)) (fd : Descriptor) (kernel : Kernel) :
    Freezes fd kernel (onLoop (EventLoop.remove fd) (kernel, reactor)).2.1 := by
  change Freezes fd kernel (EventLoop.remove fd (kernel, reactor.loop)).2.1
  cases present : reactor.loop.registrations.contains fd with
  | false =>
      rw [EventLoop.remove_of_absent present]
      exact refl_of (Freezes fd) kernel
  | true =>
      rw [EventLoop.remove_kernel present]
      exact keeps_named _ (freezes_forget reactor.loop.poller.list fd) kernel

theorem confined_release (live : isLive reactor.timers timer = true) (sound : reactor.Sound kernel) :
    Confined timer.fd (kernel, reactor) (release timer (kernel, reactor)).2 := by
  have released := released_release live kernel
  have spares := spares_release live sound
  constructor
  case freezes =>
      rw [release_world live]
      exact trans_of (Freezes timer.fd) (freezes_remove (reactor.struck timer.fd) timer.fd kernel)
        (freezes_close _ timer.fd)
  case opened =>
      intro other opening different unlisted found
      refine spares.opened other opening ?_ found
      rintro (listed | same)
      · exact unlisted listed
      · exact different same.symm
  case live => exact fun other different => (released.live other).trans (if_neg different)
  case registrations =>
      exact fun other different => (released.registrations other).trans (if_neg different)

theorem confined_settle (live : isLive reactor.timers timer = true) (sound : reactor.Sound kernel)
    (isRepeating : Bool) (outcome : Except Error Unit) :
    Confined timer.fd (kernel, reactor)
      (settle timer isRepeating outcome (kernel, reactor)).2 := by
  have still : Still kernel (Streams.read timer.fd 8 kernel).2 :=
    keeps_named _ (still_read timer.fd 8) kernel
  have drained : Freezes timer.fd kernel (Streams.read timer.fd 8 kernel).2 :=
    keeps_named _ (freezes_read timer.fd 8) kernel
  rw [settle_world]
  cases isRepeating with
  | true =>
      refine ⟨drained, fun other opening _ _ found => ?_, fun _ _ => rfl, fun _ _ => rfl⟩
      rw [if_pos rfl, still.opening?]
      exact found
  | false =>
      have released := confined_release live (sound.still still).sound
      rw [if_neg Bool.false_ne_true]
      refine { released with freezes := trans_of (Freezes timer.fd) drained released.freezes, opened := ?_ }
      intro other opening different unlisted found
      refine released.opened other opening different unlisted ?_
      rw [still.opening?]
      exact found

end Reactor

/-! ## Worlds -/

namespace World

variable {world before after : World σ}

/-- A timer is live. -/
def Live (world : World σ) (id : Nat) (timer : TimerHandle) : Prop :=
  ∃ reactor, world.reactor? id = some reactor ∧ Reactor.isLive reactor.timers timer = true

/-- Nothing has happened to a timer: it is live if it was, its callback is registered as it
was, its descriptor is open from the same opening, and if that was made for a timer, then the
timer has the same state with as many expiries to be read. -/
structure Unmoved (id : Nat) (timer : TimerHandle) (before after : World σ) : Prop where
  reactor : ∀ reactor, before.reactor? id = some reactor →
    ∃ later, after.reactor? id = some later ∧
      later.timers.live.get? timer.fd = reactor.timers.live.get? timer.fd ∧
      later.loop.registrations.get? timer.fd = reactor.loop.registrations.get? timer.fd
  opening : ∀ opening, before.kernel.opening? timer.fd = some opening →
    after.kernel.opening? timer.fd = some opening
  state : ∀ state, before.kernel.resource? timer.fd = some (.timer state) →
    after.kernel.resource? timer.fd = some (.timer state)
  now : after.kernel.now = before.kernel.now

instance : IsPreorder (World σ) (Unmoved id timer) where
  refl _ := ⟨fun reactor found => ⟨reactor, found, rfl, rfl⟩, fun _ found => found,
    fun _ found => found, rfl⟩
  trans _ _ _ first second := by
    refine ⟨fun reactor found => ?_, fun opening found => ?_, fun state found => ?_,
      second.now.trans first.now⟩
    · rcases first.reactor reactor found with ⟨middle, found', live, registered⟩
      rcases second.reactor middle found' with ⟨later, found'', live', registered'⟩
      exact ⟨later, found'', live'.trans live, registered'.trans registered⟩
    · exact second.opening opening (first.opening opening found)
    · exact second.state state (first.state state found)

theorem Unmoved.live (unmoved : Unmoved id timer before after) (live : before.Live id timer) :
    after.Live id timer := by
  rcases live with ⟨reactor, found, alive⟩
  rcases unmoved.reactor reactor found with ⟨later, found', same, _⟩
  exact ⟨later, found', (Reactor.isLive_congr same).trans alive⟩

theorem unmoved_tell (event : Event) : Keeps (Unmoved id timer) (tell event : Action σ Unit) :=
  fun _ => ⟨fun reactor found => ⟨reactor, found, rfl, rfl⟩, fun _ found => found,
    fun _ found => found, rfl⟩

/-- Live timers have descriptors of their own, and none has that of a loop. -/
theorem Sound.strangers {reactor reactor' : Reactor (Handler σ)} (sound : world.Sound)
    (found : world.reactor? id = some reactor) (live : Reactor.isLive reactor.timers timer = true)
    (found' : world.reactor? id' = some reactor')
    (live' : Reactor.isLive reactor'.timers other = true) (different : (id', other) ≠ (id, timer)) :
    timer.fd ≠ other.fd ∧ other.fd ≠ reactor.loop.poller.list := by
  rcases Reactor.isLive_iff.mp live with ⟨_, entry⟩
  rcases Reactor.isLive_iff.mp live' with ⟨_, entry'⟩
  by_cases same : id = id'
  · subst same
    cases found.symm.trans found'
    constructor
    · intro place
      rw [place] at entry
      have numbers := congrArg LiveTimer.id (Option.some.inj (entry'.symm.trans entry))
      exact different (congrArg (Prod.mk id) (TimerHandle.ext place.symm numbers))
    · intro listed
      have none := (sound.reactors id reactor found).list
      rw [← listed, entry'] at none
      cases none
  · have owned' := (reactor'.owns_iff other.fd).mpr (.inr ⟨_, entry'⟩)
    have strange (fd : Descriptor) (owned : reactor.owns fd = true) : other.fd ≠ fd := by
      rintro rfl
      rw [sound.apart id id' reactor reactor' same found found' other.fd owned] at owned'
      cases owned'
    exact ⟨(strange _ ((reactor.owns_iff timer.fd).mpr (.inr ⟨_, entry⟩))).symm,
      strange _ ((reactor.owns_iff _).mpr (.inl rfl))⟩

/-- What is confined to the descriptor of one timer moves no other. -/
theorem unmoved_settled {reactor : Reactor (Handler σ)} {state : Kernel × Reactor (Handler σ)}
    (sound : world.Sound) (found : world.reactor? id = some reactor)
    (live : Reactor.isLive reactor.timers timer = true)
    (confined : Reactor.Confined timer.fd (world.kernel, reactor) state)
    (alive : world.Live id' other) (different : (id', other) ≠ (id, timer)) :
    Unmoved id' other world (world.settled id state) := by
  rcases alive with ⟨reactor', found', live'⟩
  rcases sound.strangers found live found' live' different with ⟨apart, unlisted⟩
  constructor
  case reactor =>
      intro first there
      rw [reactor?_settled found]
      by_cases same : id = id'
      · subst same
        cases found.symm.trans there
        exact ⟨state.2, if_pos rfl, confined.live _ apart, confined.registrations _ apart⟩
      · exact ⟨first, (if_neg same).trans there, rfl, rfl⟩
  case opening => exact fun opening => confined.opened other.fd opening apart unlisted
  case state => exact fun timer => confined.freezes.timers other.fd timer apart
  case now => exact confined.freezes.now

end World

/-! ## Cancels and fires -/

namespace Dispatch

variable {world after : World σ} {isRepeating : Bool}

theorem unmoved_cancel (sound : world.Sound) (alive : world.Live id' other)
    (different : (id', other) ≠ (id, timer)) :
    Unmoved id' other world (cancel id timer world).2 := by
  cases found : world.reactor? id with
  | none =>
      rw [cancel_of_none found]
      exact refl_of (Unmoved id' other) world
  | some reactor =>
      cases live : Reactor.isLive reactor.timers timer with
      | false =>
          rw [cancel_of_dead found live]
          exact refl_of (Unmoved id' other) world
      | true =>
          rw [cancel_of_live found live, ofExcept_world]
          have confined := Reactor.confined_release live (sound.reactors id reactor found)
          exact trans_of (Unmoved id' other)
            (unmoved_settled sound found live confined alive different)
            (unmoved_tell (.cancelled id timer) _)

theorem unmoved_settle (sound : world.Sound) (alive : world.Live id' other)
    (different : (id', other) ≠ (id, timer)) (outcome : Except Error Unit) :
    Unmoved id' other world (settle id timer isRepeating outcome world).2 := by
  rcases settle_cases world id timer with ⟨reactor, found, live⟩ | dead
  · rw [settle_of_live found live, ofExcept_world]
    have confined := Reactor.confined_settle live (sound.reactors id reactor found) isRepeating outcome
    exact unmoved_settled sound found live confined alive different
  · rw [settle_of_dead dead, ofExcept_world]
    exact refl_of (Unmoved id' other) world

/-- A timer is cancelled only if it is live. -/
theorem live_of_cancel (ended : cancel id timer world = (.ok true, after)) :
    world.Live id timer ∧
      after.journal.toList = world.journal.toList ++ [.cancelled id timer] := by
  cases found : world.reactor? id with
  | none =>
      rw [cancel_of_none found] at ended
      cases ended
  | some reactor =>
      cases live : Reactor.isLive reactor.timers timer with
      | false =>
          rw [cancel_of_dead found live] at ended
          cases ended
      | true =>
          have same := congrArg Prod.snd ended
          rw [cancel_of_live found live, ofExcept_world] at same
          refine ⟨⟨reactor, found, live⟩, ?_⟩
          dsimp only at same
          rw [← same]
          exact journal_tell (.cancelled id timer) world

/-- The world in which the callback of a timer is started. -/
def called (world : World σ) (id : Nat) (timer : TimerHandle) : World σ :=
  (tell (.ringing id timer (noticeHollow id timer world).2.kernel.now)
    (noticeHollow id timer world).2).2

theorem unmoved_called (world : World σ) (id : Nat) (timer : TimerHandle) :
    Unmoved id' other world (called world id timer) := by
  have noticed : Unmoved id' other world (noticeHollow id timer world).2 := by
    rw [noticeHollow_eq]
    dsimp only
    split
    · exact unmoved_tell _ world
    · exact refl_of (Unmoved id' other) world
  exact trans_of (Unmoved id' other) noticed (unmoved_tell _ _)

section Runs

variable {run : Script σ → Action σ Value} {callback : Script σ} {outcome : Except Error Unit}
  {returned : World σ}

/-- What a fire does after its callback has come back. -/
theorem alarm_world
    (ended : attempt (do let _ ← run callback) (called world id timer) = (.ok outcome, returned)) :
    (alarm run id timer isRepeating callback world).2 =
      (noticeUnread id timer
        (tell (.rang id timer) (settle id timer isRepeating outcome returned).2).2).2 := by
  rcases attempt_settle returned id timer isRepeating outcome with ⟨answer, settled⟩
  have rang : attempt (ring run id timer isRepeating callback) (noticeHollow id timer world).2 =
      (.ok answer, (tell (.rang id timer) (settle id timer isRepeating outcome returned).2).2) := by
    rw [attempt_eq_ok_iff, ring_eq]
    refine (bind_of_ok ended).trans ?_
    unfold rung
    rw [bind_of_ok settled, tell_bind_eq]
  rw [alarm_eq, bind_of_ok rang, bind_of_ok (noticeUnread_eq id timer _), ofExcept_world,
    noticeUnread_eq]

theorem unmoved_noticeUnread (world : World σ) (id : Nat) (timer : TimerHandle) :
    Unmoved id' other world (noticeUnread id timer world).2 := by
  rw [noticeUnread_eq]
  dsimp only
  split
  · exact unmoved_tell _ world
  · exact refl_of (Unmoved id' other) world

/-- What a fire does after its callback moves no other timer. -/
theorem unmoved_returned (ran : ∀ script, Keeps Orderly (run script)) (sound : world.Sound)
    (unseized : (alarm run id timer isRepeating callback world).2.Unseized)
    (ended : attempt (do let _ ← run callback) (called world id timer) = (.ok outcome, returned))
    (alive : returned.Live id' other) (different : (id', other) ≠ (id, timer)) :
    Unmoved id' other returned (alarm run id timer isRepeating callback world).2 := by
  have starts : Orderly world (called world id timer) :=
    trans_of Orderly (orderly_noticeHollow id timer world) (orderly_tell _ (by nofun) _)
  have runs : Orderly (called world id timer) returned := by
    rw [← world_of_attempt ended]
    exact ((ran callback).bind fun _ => .pure ()) _
  have settles := orderly_settle id timer isRepeating outcome returned
  have tells : Orderly (settle id timer isRepeating outcome returned).2
      (alarm run id timer isRepeating callback world).2 := by
    rw [alarm_world ended]
    exact trans_of Orderly (orderly_tell _ (by nofun) _) (orderly_noticeUnread id timer _)
  have earlier := unseized.earlier (trans_of Recalls settles.recalls tells.recalls)
  have whole := trans_of Orderly starts runs
  have settled : Unmoved id' other returned (settle id timer isRepeating outcome returned).2 :=
    unmoved_settle (whole.kept earlier sound).1 alive different outcome
  rw [alarm_world ended]
  exact trans_of (Unmoved id' other) settled
    (trans_of (Unmoved id' other) (unmoved_tell _ _) (unmoved_noticeUnread _ id timer))

end Runs

end Dispatch

/-! ## Sessions -/

/-- What was released cannot be cancelled, and the attempt changes nothing. -/
theorem Session.cancel_of_released (session : Session σ) (steps : Nat)
    (unseized : (session.world steps).Unseized) {reactor : Reactor (Handler σ)}
    (found : (session.world steps).reactor? id = some reactor)
    (released : .cancelled id timer ∈ session.history steps ∨
      (∃ opening, .scheduled id timer false opening ∈ session.history steps) ∧
        .rang id timer ∈ session.history steps ∧ ∀ fd, .meddled fd ∉ session.history steps) :
    Dispatch.cancel id timer (session.world steps) = (.ok false, session.world steps) := by
  refine Dispatch.cancel_of_dead found ?_
  rcases released with cancelled | ⟨⟨opening, once⟩, rang, unmeddled⟩
  · have gone := (session.final_world steps unseized).closed id timer cancelled
    exact (gone.timer reactor found).2
  · have timed := session.timed_world steps ⟨unseized, unmeddled⟩
    exact (timed.gone once rang).dead reactor found

/-- In every session in which nobody else closes or drives what a loop or a timer owns, a timer
is cancelled only while it is live, and the journal is told.  From then on it is not cancelled
again and its callback is not started, whatever waits in this batch or in one further out.  A
timer that was cancelled, or that was to ring once and has rung, cannot be cancelled, and the
attempt changes nothing at all.  A cancel moves no other live timer, whichever descriptor it
has, and neither does what a fire does before its callback and after it.  Every moment of the
session is sound, and so is what is run from a sound world. -/
theorem Session.timers_are_isolated (session : Session σ) (steps : Nat)
    (unseized : ∀ fd, .seized fd ∉ session.history steps) :
    (∀ id timer (world after : World σ), Dispatch.cancel id timer world = (.ok true, after) →
      world.Live id timer ∧
        after.journal.toList = world.journal.toList ++ [.cancelled id timer]) ∧
    (∀ id timer before after, session.history steps = before ++ .cancelled id timer :: after →
      .cancelled id timer ∉ after ∧ ∀ time, .ringing id timer time ∉ after) ∧
    (∀ id timer reactor, (session.world steps).reactor? id = some reactor →
      .cancelled id timer ∈ session.history steps ∨
        (∃ opening, .scheduled id timer false opening ∈ session.history steps) ∧
          .rang id timer ∈ session.history steps ∧ (∀ fd, .meddled fd ∉ session.history steps) →
      Dispatch.cancel id timer (session.world steps) = (.ok false, session.world steps)) ∧
    (session.world steps).Sound ∧
    (∀ fuel script (world : World σ), world.Sound →
      (Script.exec session.engine fuel script world).2.Unseized →
      (Script.exec session.engine fuel script world).2.Sound) ∧
    (∀ id timer id' other (world : World σ), world.Sound → world.Live id' other →
      (id', other) ≠ (id, timer) →
      Unmoved id' other world (Dispatch.cancel id timer world).2) ∧
    ∀ fuel id timer isRepeating callback (world : World σ), world.Sound →
      (Dispatch.alarm (Script.exec session.engine fuel) id timer isRepeating callback
        world).2.Unseized →
      ∀ id' other, (id', other) ≠ (id, timer) →
        Unmoved id' other world (Dispatch.called world id timer) ∧
        ∀ outcome returned,
          attempt (do let _ ← Script.exec session.engine fuel callback)
            (Dispatch.called world id timer) = (.ok outcome, returned) →
          returned.Live id' other →
          Unmoved id' other returned (Dispatch.alarm (Script.exec session.engine fuel) id timer
            isRepeating callback world).2 := by
  have lawful : Lawful final (session.history steps) := (session.final_world steps unseized).lawful
  have orderly (fuel : Nat) (script : Script σ) : Keeps Orderly (Script.exec session.engine fuel script) :=
    (orderly_rules session.engine).exec fuel script
  refine ⟨fun id timer world after => Dispatch.live_of_cancel, fun id timer before after split => ?_,
    fun id timer reactor => session.cancel_of_released steps unseized, session.sound_world steps unseized,
    fun fuel script world sound quiet => ((orderly fuel script world).kept quiet sound).1,
    fun id timer id' other world => Dispatch.unmoved_cancel, ?_⟩
  · rw [split] at lawful
    exact silence_of_cancelled lawful
  · intro fuel id timer isRepeating callback world sound quiet id' other different
    refine ⟨Dispatch.unmoved_called world id timer, fun outcome returned ended alive => ?_⟩
    exact Dispatch.unmoved_returned (orderly fuel) sound quiet ended alive different

/-- The second timer of the recycled descriptor was cancelled while its event was waiting in the
batch, and has not rung.  To cancel it again changes nothing, and nothing happens to the third
one, which has its descriptor. -/
theorem recycled_is_isolated :
    (∃ before after, recycled.history 40 = before ++ .cancelled 0 ⟨5, 2⟩ :: after ∧
        .ringing 0 ⟨5, 3⟩ 10000 ∈ after ∧ ∀ time, .ringing 0 ⟨5, 2⟩ time ∉ after) ∧
      Dispatch.cancel 0 ⟨5, 2⟩ (recycled.world 40) = (.ok false, recycled.world 40) ∧
      Dispatch.cancel 0 ⟨4, 1⟩ (recycled.world 40) = (.ok false, recycled.world 40) ∧
      (recycled.world 40).Live 0 ⟨5, 3⟩ ∧
      Unmoved 0 ⟨5, 3⟩ (recycled.world 40) (Dispatch.cancel 0 ⟨5, 2⟩ (recycled.world 40)).2 := by
  have history : recycled.history 40 =
      [.scheduled 0 ⟨4, 1⟩ false (some 2), .armed 0 ⟨4, 1⟩ false 0 ⟨0, 1000⟩,
        .scheduled 0 ⟨5, 2⟩ false (some 3), .armed 0 ⟨5, 2⟩ false 0 ⟨0, 1000⟩,
        .handling ⟨0, 0, some 0, some 0, 2, 4294967300, 1000⟩, .ringing 0 ⟨4, 1⟩ 1000] ++
      .cancelled 0 ⟨5, 2⟩ ::
      [.scheduled 0 ⟨5, 3⟩ true (some 4), .armed 0 ⟨5, 3⟩ true 1000 ⟨0, 9000⟩, .rang 0 ⟨4, 1⟩,
        .handling ⟨0, 2, some 2, some 2, 3, 12884901893, 10000⟩, .ringing 0 ⟨5, 3⟩ 10000,
        .rang 0 ⟨5, 3⟩] := by decide +kernel
  have unseized (fd : Descriptor) : .seized fd ∉ recycled.history 40 := by
    rw [history]
    simp
  have there : ((recycled.world 40).reactor? 0).map (fun reactor =>
      Reactor.isLive reactor.timers ⟨5, 3⟩) = some true := by decide +kernel
  rcases Option.map_eq_some_iff.mp there with ⟨reactor, found, live⟩
  rcases recycled.timers_are_isolated 40 unseized with ⟨_, silent, released, sound, _, cancels, _⟩
  have after := silent 0 ⟨5, 2⟩ _ _ history
  refine ⟨⟨_, _, history, by simp, after.2⟩, released 0 ⟨5, 2⟩ reactor found (.inl ?_),
    released 0 ⟨4, 1⟩ reactor found (.inr ⟨⟨some 2, ?_⟩, ?_, fun fd => ?_⟩), ⟨reactor, found, live⟩,
    cancels 0 ⟨5, 2⟩ 0 ⟨5, 3⟩ _ sound ⟨reactor, found, live⟩ (by decide)⟩
  · rw [history]
    simp
  · rw [history]
    simp
  · rw [history]
    simp
  · rw [history]
    simp

end ScriptHost
