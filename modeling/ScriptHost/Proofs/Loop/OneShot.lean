import ScriptHost.Proofs.Loop.Timetable

/-!
# Timers that ring once

The callback of a timer that rings once is started at most once.  After it has come
back the timer is gone with its registration and its descriptor, whatever went wrong
on the way.  And when a loop has been driven until nothing is registered, each such
timer has rung or was cancelled.
-/

namespace ScriptHost

open World Kernel

variable {σ α : Type} {id : Nat} {timer : TimerHandle}

namespace Dispatch

/-! ## Settling -/

variable {world after : World σ} {isRepeating : Bool} {outcome : Except Error Unit}
  {reactor : Reactor (Handler σ)}

theorem settle_of_dead (dead : ∀ reactor, world.reactor? id = some reactor →
    Reactor.isLive reactor.timers timer = false) :
    settle id timer isRepeating outcome world = (ofExcept outcome : Action σ Unit) world := by
  unfold settle
  rw [get_bind_eq]
  cases found : world.reactor? id with
  | none => rfl
  | some reactor =>
      dsimp only
      rw [dead reactor found]
      rfl

theorem settle_of_live (found : world.reactor? id = some reactor)
    (live : Reactor.isLive reactor.timers timer = true) :
    settle id timer isRepeating outcome world =
      (ofExcept (Reactor.settle timer isRepeating outcome (world.kernel, reactor)).1 :
        Action σ Unit) (world.settled id
          (Reactor.settle timer isRepeating outcome (world.kernel, reactor)).2) := by
  unfold settle
  rw [get_bind_eq, found]
  dsimp only
  rw [if_pos live, onReactor_of_some _ found]

/-- A timer to be settled is live, or it is not and nothing happens. -/
theorem settle_cases (world : World σ) (id : Nat) (timer : TimerHandle) :
    (∃ reactor, world.reactor? id = some reactor ∧
      Reactor.isLive reactor.timers timer = true) ∨
    ∀ reactor, world.reactor? id = some reactor →
      Reactor.isLive reactor.timers timer = false := by
  by_cases alive : ∃ reactor, world.reactor? id = some reactor ∧
      Reactor.isLive reactor.timers timer = true
  · exact .inl alive
  · exact .inr fun reactor found => Bool.eq_false_iff.mpr fun live => alive ⟨reactor, found, live⟩

theorem attempt_ofExcept (outcome : Except Error α) (world : World σ) :
    attempt (ofExcept outcome) world = (.ok outcome, world) := by
  cases outcome with
  | ok value => rfl
  | error error => rfl

/-- Settling may fail, but it does not run out of fuel. -/
theorem attempt_settle (world : World σ) (id : Nat) (timer : TimerHandle) (isRepeating : Bool)
    (outcome : Except Error Unit) :
    ∃ answer, attempt (settle id timer isRepeating outcome) world =
      (.ok answer, (settle id timer isRepeating outcome world).2) := by
  have settled (answer : Except Error Unit) (state : World σ)
      (ended : settle id timer isRepeating outcome world =
        (ofExcept answer : Action σ Unit) state) :
      attempt (settle id timer isRepeating outcome) world =
        (.ok answer, (settle id timer isRepeating outcome world).2) := by
    rw [ended, ofExcept_world, ← attempt_ofExcept answer state]
    unfold attempt
    rw [ended]
  rcases settle_cases world id timer with ⟨reactor, found, live⟩ | dead
  · exact ⟨_, settled _ _ (settle_of_live found live)⟩
  · exact ⟨_, settled _ _ (settle_of_dead dead)⟩

/-- A timer that rings once is not live after it was settled, whatever failed. -/
theorem dead_of_settle
    (found : (settle id timer false outcome world).2.reactor? id = some reactor) :
    Reactor.isLive reactor.timers timer = false := by
  rcases settle_cases world id timer with ⟨state, present, live⟩ | dead
  · rw [settle_of_live present live, ofExcept_world, reactor?_settled present, if_pos rfl,
      Reactor.settle_world] at found
    rw [← Option.some.inj found]
    have released := Reactor.released_release live (Streams.read timer.fd 8 world.kernel).2
    exact (Reactor.isLive_released released timer).trans (if_pos rfl)
  · rw [settle_of_dead dead, ofExcept_world] at found
    exact dead reactor found

theorem timely_settle (rung : ∃ time, .ringing id timer time ∈ world.journal.toList) :
    Timely world (settle id timer isRepeating outcome world).2 := by
  refine ⟨orderly_settle id timer isRepeating outcome world, fun _ sound timed => ?_⟩
  rcases settle_cases world id timer with ⟨state, present, live⟩ | dead
  · have still : Still world.kernel (Streams.read timer.fd 8 world.kernel).2 :=
      keeps_named _ (still_read timer.fd 8) world.kernel
    rw [settle_of_live present live, ofExcept_world, Reactor.settle_world]
    cases isRepeating with
    | true =>
        have spares : Spares (fun _ => False) _ _ := still.spares
        exact timed.harmless present spares (.refl state)
    | false =>
        have kept := (sound.reactors id state present).still still
        exact timed.released present kept.sound kept.spares live (.inl rung)
  · rw [settle_of_dead dead, ofExcept_world]
    exact timed

/-! ## Ringing -/

/-- The handler of the registration of a timer is being run. -/
structure Serves (world : World σ) (id : Nat) (timer : TimerHandle) (isRepeating : Bool)
    (reactor : Reactor (Handler σ)) (registration : Registration (Handler σ)) : Prop where
  present : world.reactor? id = some reactor
  registered : reactor.loop.registrations.get? timer.fd = some registration
  handles : ∃ callback, registration.handler = .timer timer isRepeating callback
  running : registration.serial ∈ reactor.loop.running

/-- The callback of a timer is about to be started, by the handler of its registration. -/
structure Rings (world : World σ) (id : Nat) (timer : TimerHandle) (isRepeating : Bool)
    (reactor : Reactor (Handler σ)) (registration : Registration (Handler σ)) : Prop
    extends Serves world id timer isRepeating reactor registration where
  unheard : isRepeating = false → ∀ time, .ringing id timer time ∉ world.journal.toList

variable {registration : Registration (Handler σ)}

/-- What is about to ring was started, and is to ring once only if it was started so. -/
theorem Rings.scheduled (rings : Rings world id timer isRepeating reactor registration)
    (timed : world.Timed) :
    ∃ opening, .scheduled id timer isRepeating opening ∈ world.journal.toList := by
  have tracks := timed.tracks id reactor rings.present
  rcases rings.handles with ⟨callback, handles⟩
  have live := tracks.live timer.fd registration timer isRepeating callback rings.registered handles
  exact tracks.announced timer.fd _ live.2

theorem Rings.timed (rings : Rings world id timer isRepeating reactor registration)
    (timed : world.Timed) (time : Nat) : (tell (.ringing id timer time) world).2.Timed := by
  have tracks := timed.tracks id reactor rings.present
  rcases rings.scheduled timed with ⟨opening, started⟩
  refine timed.told ⟨⟨isRepeating, opening, started⟩, fun opening' once => ?_⟩ nofun ?_
  · exact rings.unheard (scheduled_unique timed.lawful started once).1
  · intro other reactor' about found
    cases about
    rw [Option.some.inj (found.symm.trans rings.present)]
    refine tracks.append nofun ?_ nofun
    intro timer' time' same fd registration' callback' found' handles'
    cases same
    have live := tracks.live fd registration' timer false callback' found' handles'
    rw [← live.1] at found'
    rw [Option.some.inj (found'.symm.trans rings.registered)]
    exact rings.running

variable {run : Script σ → Action σ Value} {callback : Script σ}

/-- What follows the callback of a timer. -/
def rung (id : Nat) (timer : TimerHandle) (isRepeating : Bool) (outcome : Except Error Unit) :
    Action σ Unit := do
  let settled ← attempt (settle id timer isRepeating outcome)
  tell (.rang id timer)
  ofExcept settled

theorem ring_eq (world : World σ) :
    ring run id timer isRepeating callback world =
      (attempt (do let _ ← run callback) >>= rung id timer isRepeating)
        (tell (.ringing id timer world.kernel.now) world).2 := by
  unfold ring
  rw [get_bind_eq, tell_bind_eq]
  rfl

theorem rung_world (outcome : Except Error Unit) (world : World σ) :
    (rung id timer isRepeating outcome world).2 =
      (tell (.rang id timer) (settle id timer isRepeating outcome world).2).2 := by
  rcases attempt_settle world id timer isRepeating outcome with ⟨answer, settled⟩
  unfold rung
  rw [bind_of_ok settled, tell_bind_eq, ofExcept_world]

/-- A callback that came back has had its timer settled, and the journal was told. -/
theorem rang_of_ring
    (ended : attempt (ring run id timer isRepeating callback) world = (.ok outcome, after)) :
    .rang id timer ∈ after.journal.toList := by
  have same := attempt_world (ring run id timer isRepeating callback) world
  rcases ran : attempt (do let _ ← run callback)
    (tell (.ringing id timer world.kernel.now) world).2 with ⟨failure | answer, middle⟩
  · have stopped : ring run id timer isRepeating callback world = _ := ring_eq world
    rw [bind_of_error ran, (attempt_eq_error_iff.mp ran).1] at stopped
    rw [attempt_eq_error_iff.mpr ⟨rfl, stopped⟩] at ended
    cases ended
  · rw [ended, ring_eq, bind_of_ok ran, rung_world] at same
    dsimp only at same
    rw [same]
    exact mem_of_tell _ _

theorem noticeHollow_eq (id : Nat) (timer : TimerHandle) (world : World σ) :
    noticeHollow id timer world =
      (.ok (), if world.kernel.unread timer.fd = 0 then (tell (.hollow id timer) world).2
        else world) := by
  unfold noticeHollow
  rw [get_bind_eq]
  split <;> rfl

/-- What is done when the callback of a timer is to be started. -/
theorem alarm_eq (world : World σ) :
    alarm run id timer isRepeating callback world =
      (attempt (ring run id timer isRepeating callback) >>= fun outcome => do
        noticeUnread id timer
        ofExcept outcome) (noticeHollow id timer world).2 := by
  rw [noticeHollow_eq]
  exact bind_of_ok (noticeHollow_eq id timer world)

theorem noticeUnread_eq (id : Nat) (timer : TimerHandle) (world : World σ) :
    noticeUnread id timer world =
      (.ok (), if ((world.reactor? id).any fun state => Reactor.isLive state.timers timer) = true ∧
          world.kernel.unread timer.fd ≠ 0 then (tell (.unread id timer) world).2
        else world) := by
  unfold noticeUnread
  rw [get_bind_eq]
  split <;> rfl

/-- A callback that came back has rung. -/
theorem ring_of_alarm
    (ended : attempt (alarm run id timer isRepeating callback) world = (.ok outcome, after)) :
    ∃ answer middle, attempt (ring run id timer isRepeating callback)
        (noticeHollow id timer world).2 = (.ok answer, middle) ∧
      after = (noticeUnread id timer middle).2 := by
  have answered := attempt_eq_ok_iff.mp ended
  rw [alarm_eq] at answered
  rcases ran : attempt (ring run id timer isRepeating callback) (noticeHollow id timer world).2 with
    ⟨failure | answer, middle⟩
  · rw [bind_of_error ran, (attempt_eq_error_iff.mp ran).1] at answered
    cases outcome <;> cases answered
  · have noticed := noticeUnread_eq id timer middle
    have same := congrArg Prod.snd answered
    rw [bind_of_ok ran, bind_of_ok noticed, ofExcept_world, ofExcept_world] at same
    exact ⟨answer, middle, rfl, same.symm.trans (congrArg Prod.snd noticed).symm⟩

/-- A callback that came back has had its timer settled, and the journal was told. -/
theorem rang_of_alarm
    (ended : attempt (alarm run id timer isRepeating callback) world = (.ok outcome, after)) :
    .rang id timer ∈ after.journal.toList := by
  rcases ring_of_alarm ended with ⟨answer, middle, ran, rfl⟩
  exact (orderly_noticeUnread id timer middle).recalls.subset (rang_of_ring ran)

theorem timely_noticeHollow (id : Nat) (timer : TimerHandle) :
    Keeps Timely (noticeHollow id timer : Action σ Unit) :=
  Keeps.get.bind fun _ => Keeps.ite (timely_tell rfl (by nofun)) (.pure ())

theorem timely_noticeUnread (id : Nat) (timer : TimerHandle) :
    Keeps Timely (noticeUnread id timer : Action σ Unit) :=
  Keeps.get.bind fun _ => Keeps.ite (timely_tell rfl (by nofun)) (.pure ())

theorem Serves.noticed (serves : Serves world id timer isRepeating reactor registration) :
    Serves (noticeHollow id timer world).2 id timer isRepeating reactor registration := by
  rw [noticeHollow_eq]
  dsimp only
  split <;> exact ⟨serves.present, serves.registered, serves.handles, serves.running⟩

theorem Rings.noticed (rings : Rings world id timer isRepeating reactor registration) :
    Rings (noticeHollow id timer world).2 id timer isRepeating reactor registration := by
  refine ⟨rings.toServes.noticed, fun once time heard => ?_⟩
  rw [noticeHollow_eq] at heard
  dsimp only at heard
  split at heard
  · rw [journal_tell] at heard
    exact rings.unheard once time (mem_of_mem_concat heard (by nofun))
  · exact rings.unheard once time heard

section Runs

variable (ran : ∀ script, Keeps Timely (run script))

include ran

theorem timely_ring (rings : Rings world id timer isRepeating reactor registration) :
    Timely world (ring run id timer isRepeating callback world).2 := by
  have orderly := orderly_ring (fun script => (ran script).mono fun _ _ => Timely.orderly)
    id timer isRepeating callback world
  refine Timely.of_timed orderly fun _ _ timed => ?_
  rcases rings.scheduled timed with ⟨opening, started⟩
  have begins : Timely world (tell (.ringing id timer world.kernel.now) world).2 :=
    ⟨orderly_tell _ (by nofun) world, fun _ _ timed => rings.timed timed _⟩
  have called : Keeps Timely (attempt (do let _ ← run callback) : Action σ (Except Error Unit)) :=
    ((ran callback).bind fun _ => .pure ()).attempt
  have calls := called (tell (.ringing id timer world.kernel.now) world).2
  rw [ring_eq]
  refine trans_of Timely begins (Keeps.bind_from calls fun outcome middle ended => ?_)
  rw [ended] at calls
  have rings_before := calls.orderly.recalls.subset
    (mem_of_tell (.ringing id timer world.kernel.now) world)
  have settles : Timely middle (settle id timer isRepeating outcome middle).2 :=
    timely_settle ⟨_, rings_before⟩
  rw [rung_world]
  refine trans_of Timely settles ⟨orderly_tell _ (by nofun) _, fun _ _ timed => ?_⟩
  refine timed.told ⟨_, settles.orderly.recalls.subset rings_before⟩ nofun ?_
  intro other reactor' about found
  cases about
  refine (timed.tracks id reactor' found).append nofun nofun ?_
  intro timer' same opening' once
  cases same
  have earlier := settles.orderly.recalls.subset
    (calls.orderly.recalls.subset (begins.orderly.recalls.subset started))
  rw [(scheduled_unique timed.lawful earlier once).1] at found
  exact dead_of_settle found

theorem timely_alarm (rings : Rings world id timer isRepeating reactor registration) :
    Timely world (alarm run id timer isRepeating callback world).2 := by
  rw [alarm_eq]
  refine trans_of Timely (timely_noticeHollow id timer world) (Keeps.bind_from ?_ ?_)
  · rw [attempt_world]
    exact timely_ring ran rings.noticed
  · intro outcome after _
    exact ((timely_noticeUnread id timer).bind fun _ => .ofExcept outcome) after

end Runs

/-! ## Handlers -/

/-- The handler of a timer has been started. -/
theorem serves_begun {report : Report} (present : world.reactor? id = some reactor)
    (registered : reactor.loop.registrations.get? timer.fd = some registration)
    (handles : ∃ callback, registration.handler = .timer timer isRepeating callback) :
    Serves (begun world id report registration) id timer isRepeating
      { reactor with loop := busy registration.serial reactor.loop } registration where
  present := by
    have there := reactor?_settled present
      (world.kernel, { reactor with loop := busy registration.serial reactor.loop }) id
    rw [if_pos rfl, ← changeLoop_of_some (busy registration.serial) present] at there
    exact there
  registered := registered
  handles := handles
  running := List.mem_cons_self

theorem timely_begun {report : Report}
    (direct : (deliveryOf world id report registration).ReachesOwner) :
    Timely world (begun world id report registration) := by
  have pushed : Timely world (changeLoop id (busy registration.serial) world).2 :=
    timely_changeLoop
      (fun _ _ sound => sound.kept_rerun fun _ member => List.mem_cons_of_mem _ member)
      (fun _ => rfl) fun _ _ member => List.mem_cons_of_mem _ member
  have told : Keeps Timely (tell (.handling (deliveryOf world id report registration)) :
      Action σ Unit) :=
    timely_tell rfl (by rintro _ ⟨⟩; exact direct)
  exact trans_of Timely pushed (told _)

theorem timed_rerun {running : List Nat} (timed : world.Timed)
    (found : world.reactor? id = some reactor)
    (busy : ∀ fd registration timer callback time,
      reactor.loop.registrations.get? fd = some registration →
      registration.handler = .timer timer false callback →
      .ringing id timer time ∈ world.journal.toList → registration.serial ∈ running) :
    (world.settled id (world.kernel, reactor.rerun running)).Timed := by
  have tracks := timed.tracks id reactor found
  have again : (reactor.rerun running).Tracks id world.journal.toList :=
    ⟨tracks.registered, tracks.live, tracks.announced, tracks.known, tracks.fate, busy, tracks.finished⟩
  exact timed.settled found (refl_of (Spares fun _ => False) world.kernel) again
    fun _ live => .inl live

/-- Taking a registration off the running ones when its handler has come back.  If it was
that of a timer that rings once, it is not in force any more. -/
theorem timely_finish {fd : Descriptor} (timely : Timely world after)
    (present : world.reactor? id = some reactor)
    (registered : reactor.loop.registrations.get? fd = some registration)
    (idle : registration.serial ∉ reactor.loop.running)
    (rang : ∀ timer callback, registration.handler = .timer timer false callback →
      .rang id timer ∈ after.journal.toList) :
    Timely world (changeLoop id (Dispatch.idle registration.serial) after).2 := by
  refine ⟨orderly_finish timely.orderly fun reactor' present' => ?_,
    fun undisturbed sound timed => ?_⟩
  · rw [← Option.some.inj (present.symm.trans present')]
    exact idle
  · have timed' := timely.kept undisturbed sound timed
    rcases changeLoop_outcome id (Dispatch.idle registration.serial) after with
      alone | ⟨state, found, settled⟩
    · rw [alone]
      exact timed'
    · rw [settled]
      have tracks := timed'.tracks id state found
      refine timed_rerun timed' found ?_
      intro fd' registration' timer' callback' time found' handles' rings'
      have busy := tracks.busy fd' registration' timer' callback' time found' handles' rings'
      refine (List.mem_erase_of_ne fun same => ?_).mpr busy
      -- It was in force from the beginning, so it is the one whose timer has rung.
      rcases registration_unique timely.orderly undisturbed.1 sound present registered found found'
        same with ⟨_, rfl⟩
      rcases tracks.live fd' registration' timer' false callback' found' handles' with ⟨rfl, live⟩
      rcases tracks.announced timer'.fd _ live with ⟨opening, started⟩
      have dead := tracks.finished timer' opening (rang timer' callback' handles') started
      rw [Reactor.isLive_iff.mpr ⟨false, live⟩] at dead
      cases dead

section Runs

variable (ran : ∀ script, Keeps Timely (run script))

include ran

theorem timely_handle {fd : Descriptor} {report : Report} (ready : Interest)
    (timed : world.Timed) (present : world.reactor? id = some reactor)
    (registered : reactor.loop.registrations.get? fd = some registration)
    (idle : registration.serial ∉ reactor.loop.running) :
    Timely (begun world id report registration)
      (handle run id fd ready registration.handler (begun world id report registration)).2 := by
  cases handles : registration.handler with
  | script body => exact ((ran (body fd ready)).bind fun _ => .pure ()) _
  | timer timer isRepeating callback =>
      have tracks := timed.tracks id reactor present
      have live := tracks.live fd registration timer isRepeating callback registered handles
      rcases live with ⟨rfl, _⟩
      have serves : Serves (begun world id report registration) id timer isRepeating _ registration :=
        serves_begun present registered ⟨callback, handles⟩
      have unheard : isRepeating = false → ∀ time, .ringing id timer time ∉
          (begun world id report registration).journal.toList := by
        rintro rfl time heard
        have before := mem_of_mem_concat (journal_tell _ _ ▸ heard) (by nofun)
        exact idle (tracks.busy timer.fd registration timer callback time registered handles before)
      have rings : Rings (begun world id report registration) id timer isRepeating _ registration :=
        ⟨serves, unheard⟩
      exact timely_alarm ran rings

theorem timely_deliver {report : Report} (awaits : Awaits id report world) :
    Timely world (deliver run id report world).2 := by
  have orderly := orderly_deliver (fun script => (ran script).mono fun _ _ => Timely.orderly) awaits
  refine Timely.of_timed orderly fun undisturbed _ timed => ?_
  have unseized := undisturbed.1.earlier orderly.recalls
  refine timely_loopRules.deliver fun registration found => ?_
  rcases addressee_of_loop found with ⟨reactor, present, addressed⟩
  rcases EventLoop.addressee?_eq_some addressed with ⟨registered, _, idle⟩
  refine ⟨timely_begun (deliveryOf_reachesOwner awaits unseized found),
    timely_handle ran report.event.ready timed present registered idle,
    fun outcome after ended whole => ?_⟩
  refine timely_finish whole present registered idle fun timer callback handles => ?_
  rw [handles] at ended
  exact rang_of_alarm ended

end Runs

end Dispatch

/-! ## Histories -/

/-- How often the callback of a timer was started. -/
def startsOf (history : List Event) (id : Nat) (timer : TimerHandle) : Nat :=
  history.countP fun event =>
    match event with
    | .ringing id' timer' _ => id' = id ∧ timer' = timer
    | _ => false

section Histories

variable {history : List Event} {event : Event}

theorem startsOf_eq_zero :
    startsOf history id timer = 0 ↔ ∀ time, .ringing id timer time ∉ history := by
  unfold startsOf
  rw [List.countP_eq_zero]
  constructor
  · intro none time member
    exact none _ member (decide_eq_true ⟨rfl, rfl⟩)
  · intro none event member starts
    cases event <;> try cases starts
    case ringing id' timer' time =>
        rcases of_decide_eq_true starts with ⟨rfl, rfl⟩
        exact none time member

theorem startsOf_concat_of_ne (other : ∀ time, event ≠ .ringing id timer time) :
    startsOf (history ++ [event]) id timer = startsOf history id timer := by
  have single : startsOf [event] id timer = 0 :=
    startsOf_eq_zero.mpr fun time member => other time (List.mem_singleton.mp member).symm
  unfold startsOf at single ⊢
  rw [List.countP_append, single]
  rfl

/-- A timer that rings once is started at most once. -/
theorem startsOf_le_one (lawful : Lawful timely history) :
    ∀ opening, .scheduled id timer false opening ∈ history → startsOf history id timer ≤ 1 := by
  refine lawful.induct (fun _ once => absurd once List.not_mem_nil) ?_
  intro before event lawful allowed ih opening once
  by_cases starts : ∃ time, event = .ringing id timer time
  · rcases starts with ⟨time, rfl⟩
    have started := mem_of_mem_concat once (by nofun)
    have unheard := startsOf_eq_zero.mpr (allowed.2 opening started)
    unfold startsOf at unheard ⊢
    rw [List.countP_append, unheard, Nat.zero_add]
    exact List.countP_le_length
  · have same : startsOf (before ++ [event]) id timer = startsOf before id timer :=
      startsOf_concat_of_ne fun time rings => starts ⟨time, rings⟩
    rw [same]
    rcases List.mem_append.mp once with old | new
    · exact ih opening old
    · cases List.mem_singleton.mp new
      -- Nothing rings before it is started.
      have unheard : startsOf before id timer = 0 := startsOf_eq_zero.mpr fun time rings => by
        rcases scheduled_of_ringing lawful rings with ⟨isRepeating, opening', started⟩
        exact allowed.1 isRepeating opening' started
      rw [unheard]
      exact Nat.zero_le 1

end Histories

/-! ## Drives -/

theorem Dispatch.drained_of_turn {run : Script σ → Action σ Value} {reactor turns : Nat}
    {world after : World σ} (ended : turn run reactor turns world = (.ok (), after)) :
    ∃ before, after.journal.toList = before ++ [.drained reactor] := by
  induction turns generalizing world with
  | zero => cases ended
  | succ turns ih =>
      unfold turn at ended
      rw [get_bind_eq] at ended
      cases found : world.loop? reactor with
      | none =>
          rw [found] at ended
          cases ended
      | some loop =>
          rw [found] at ended
          dsimp only at ended
          split at ended
          next =>
              have same := congrArg Prod.snd ended
              dsimp only at same
              rw [← same]
              exact ⟨_, journal_tell _ world⟩
          next =>
              rcases bind_eq_ok_iff.mp ended with ⟨_, _, _, rest⟩
              exact ih rest

/-- A drive that ends well was told to the journal at its end. -/
theorem Dispatch.drained_of_drive {run : Script σ → Action σ Value} {reactor turns : Nat}
    {world after : World σ} (ended : drive run reactor turns world = (.ok (), after)) :
    ∃ before, after.journal.toList = before ++ [.drained reactor] := by
  have held : holdReactor reactor world = (.ok (), (holdReactor reactor world).2) := rfl
  unfold drive withReactor at ended
  rw [bind_of_ok held] at ended
  rcases bind_eq_ok_iff.mp ended with ⟨outcome, middle, turned, rest⟩
  have released : releaseReactor reactor middle = (.ok (), (releaseReactor reactor middle).2) := rfl
  rw [bind_of_ok released] at rest
  cases outcome with
  | error => cases rest
  | ok =>
      have same := congrArg Prod.snd rest
      dsimp only at same
      rw [← same]
      have drained : ∃ before, middle.journal.toList = before ++ [.drained reactor] :=
        drained_of_turn (attempt_eq_ok_iff.mp turned)
      exact drained

/-! ## Sessions -/

theorem World.timely_rules (engine : Engine σ) :
    Rules engine (Timely : World σ → World σ → Prop) :=
  timely_loopRules.session (timely_loopRules.reporting fun _ _ => Timely.of_orderly)
    timely_of_changes timely_answer Dispatch.timely_listenFor Dispatch.timely_schedule
    (fun ran _ _ _ => Dispatch.timely_deliver ran) engine

theorem Session.timed_start (session : Session σ) (steps : Nat) :
    ({ session.start with steps := some steps } : World σ).Timed where
  lawful := Lawful.nil
  known _ _ _ _ started := absurd started List.not_mem_nil
  tracks _ _ found := nomatch found
  closed _ _ _ _ started := absurd started List.not_mem_nil

theorem Session.timed_world (session : Session σ) (steps : Nat)
    (undisturbed : (session.world steps).Undisturbed) : (session.world steps).Timed :=
  (session.keeps (World.timely_rules session.engine) steps).kept undisturbed
    (session.sound_start steps) (session.timed_start steps)

/-- A timer that is gone: it is not live, it is not registered, and the descriptor that it was
started on is closed. -/
structure World.Gone (world : World σ) (id : Nat) (timer : TimerHandle) (opening : Option Nat) :
    Prop where
  dead : ∀ reactor, world.reactor? id = some reactor →
    Reactor.isLive reactor.timers timer = false
  unregistered : ∀ reactor fd registration isRepeating callback, world.reactor? id = some reactor →
    reactor.loop.registrations.get? fd = some registration →
    registration.handler ≠ .timer timer isRepeating callback
  closed : ∃ number, opening = some number ∧ ∀ fd, world.kernel.opening? fd ≠ some number

/-- A timer that rings once is gone as soon as its callback has come back. -/
theorem World.Timed.gone {world : World σ} {opening : Option Nat} (timed : world.Timed)
    (once : .scheduled id timer false opening ∈ world.journal.toList)
    (rang : .rang id timer ∈ world.journal.toList) : world.Gone id timer opening := by
  have dead (reactor : Reactor (Handler σ)) (found : world.reactor? id = some reactor) :
      ¬Reactor.isLive reactor.timers timer = true :=
    Bool.eq_false_iff.mp ((timed.tracks id reactor found).finished timer opening rang once)
  constructor
  case dead => exact fun reactor found => Bool.eq_false_iff.mpr (dead reactor found)
  case unregistered =>
      intro reactor fd registration isRepeating callback found registered handles
      have live := (timed.tracks id reactor found).live fd registration timer isRepeating callback
        registered handles
      rcases live with ⟨rfl, live⟩
      exact dead reactor found (Reactor.isLive_iff.mpr ⟨isRepeating, live⟩)
  case closed =>
      rcases opening_of_scheduled timed.lawful once with ⟨number, rfl⟩
      refine ⟨number, rfl, fun fd opened => ?_⟩
      rcases (timed.closed id timer false number once).2 fd opened with ⟨_, reactor, found, live⟩
      exact dead reactor found live

/-- At every moment of every session in which nobody else closes, drives or uses what a loop
or a timer owns, the callback of a timer that rings once has been started at most once.  When
it has come back, with an error or without, the timer is gone for good.  Whenever a loop has
been driven to its end, each such timer that was started on it has rung once, or it was
cancelled and has not rung.  The journal is told of every callback that comes back and of
every drive that ends well. -/
theorem Session.one_shot_timers (session : Session σ) (steps : Nat)
    (undisturbed : ∀ fd, .seized fd ∉ session.history steps ∧ .meddled fd ∉ session.history steps) :
    (∀ id timer opening, .scheduled id timer false opening ∈ session.history steps →
      startsOf (session.history steps) id timer ≤ 1) ∧
    (∀ id timer opening, .scheduled id timer false opening ∈ session.history steps →
      .rang id timer ∈ session.history steps → (session.world steps).Gone id timer opening) ∧
    (∀ id before after, session.history steps = before ++ .drained id :: after →
      ∀ timer opening, .scheduled id timer false opening ∈ before →
        startsOf before id timer = 1 ∨
          startsOf before id timer = 0 ∧ .cancelled id timer ∈ before) ∧
    (∀ (run : Script σ → Action σ Value) (id : Nat) (timer : TimerHandle) (isRepeating : Bool)
      (callback : Script σ) (world after : World σ) (outcome : Except Error Unit),
      attempt (Dispatch.ring run id timer isRepeating callback) world = (.ok outcome, after) →
      .rang id timer ∈ after.journal.toList) ∧
    ∀ (run : Script σ → Action σ Value) (id turns : Nat) (world after : World σ),
      Dispatch.drive run id turns world = (.ok (), after) →
      ∃ before, after.journal.toList = before ++ [.drained id] := by
  have timed := session.timed_world steps
    ⟨fun fd => (undisturbed fd).1, fun fd => (undisturbed fd).2⟩
  refine ⟨fun id timer => startsOf_le_one timed.lawful, fun id timer opening => timed.gone, ?_,
    fun _ _ _ _ _ _ _ _ => Dispatch.rang_of_ring, fun _ _ _ _ _ => Dispatch.drained_of_drive⟩
  intro id before after split timer opening once
  have lawful : Lawful timely (before ++ .drained id :: after) := split ▸ timed.lawful
  have most := startsOf_le_one lawful.of_append opening once
  by_cases none : startsOf before id timer = 0
  · rcases lawful.next timer opening once with ⟨time, rings⟩ | cancelled
    · exact absurd rings (startsOf_eq_zero.mp none time)
    · exact .inr ⟨none, cancelled⟩
  · exact .inl (Nat.le_antisymm most (Nat.one_le_iff_ne_zero.mpr none))

/-- A session in which the callback of a timer polls the loop again, cancels another timer,
starts a third one on its descriptor and fails, and in which neither the expiries of the
timer can be read nor can it be taken out of the loop. -/
def alarms : Session Unit where
  engine := ⟨fun _ _ => .ok fun _ => .done .null, fun _ _ => .done .null, fun _ _ => .done .null⟩
  script :=
    .ask (.newReactor 8) fun _ => .ask (.plan ⟨"read", 0, 5⟩) fun _ =>
      .ask (.plan ⟨"epoll_ctl", 4, 5⟩) fun _ =>
      .schedule 0 ⟨0, 2000⟩ false (.done .null) fun _ =>
      .schedule 0 ⟨0, 1000⟩ false
        (.poll 0 (some .zero) fun _ => .ask (.cancel 0 ⟨4, 1⟩) fun _ =>
          .schedule 0 ⟨0, 1⟩ false (.done .null) fun _ => .fail (.config "failed"))
        fun _ => .drive 0 fun _ => .done .null
  fuel := 6
  input := []
  waitLimit := none
  offers := []
  disk := .empty
  environment := .empty
  memory := ()

/-- Still the first timer does not ring, the others ring once, and all of them are gone. -/
theorem alarms_ring_once :
    startsOf (alarms.history 40) 0 ⟨4, 1⟩ = 0 ∧ startsOf (alarms.history 40) 0 ⟨5, 2⟩ = 1 ∧
      startsOf (alarms.history 40) 0 ⟨4, 3⟩ = 1 ∧
      (alarms.world 40).Gone 0 ⟨5, 2⟩ (some 3) ∧ (alarms.world 40).Gone 0 ⟨4, 3⟩ (some 4) := by
  have history : alarms.history 40 =
      [.scheduled 0 ⟨4, 1⟩ false (some 2), .armed 0 ⟨4, 1⟩ false 0 ⟨0, 2000⟩,
        .scheduled 0 ⟨5, 2⟩ false (some 3), .armed 0 ⟨5, 2⟩ false 0 ⟨0, 1000⟩,
        .handling ⟨0, 1, some 1, some 1, 2, 8589934597, 1000⟩, .ringing 0 ⟨5, 2⟩ 1000,
        .cancelled 0 ⟨4, 1⟩, .scheduled 0 ⟨4, 3⟩ false (some 4),
        .armed 0 ⟨4, 3⟩ false 1000 ⟨0, 1⟩, .rang 0 ⟨5, 2⟩,
        .log (Dispatch.uncaughtRecord (.config "failed")),
        .handling ⟨0, 2, some 2, some 2, 3, 12884901892, 1001⟩, .ringing 0 ⟨4, 3⟩ 1001,
        .rang 0 ⟨4, 3⟩, .drained 0] := by decide +kernel
  have undisturbed (fd : Descriptor) :
      .seized fd ∉ alarms.history 40 ∧ .meddled fd ∉ alarms.history 40 := by
    rw [history]
    exact ⟨by simp, by simp⟩
  rcases alarms.one_shot_timers 40 undisturbed with ⟨_, gone, _⟩
  rw [history] at gone ⊢
  exact ⟨by decide, by decide, by decide, gone 0 ⟨5, 2⟩ (some 3) (by decide) (by decide),
    gone 0 ⟨4, 3⟩ (some 4) (by decide) (by decide)⟩

end ScriptHost
