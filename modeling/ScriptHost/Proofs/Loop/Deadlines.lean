import ScriptHost.Proofs.Loop.Clockwork

/-!
# Deadlines

No callback of a timer is started before the delay of the timer is over.  An event that
waits in a batch may be for a timer that has gone in the meantime, and the descriptor
may be that of another timer with a later deadline; but then the event starts nothing.
The event of a timer was reported because the timer had expired, and it is for that
timer that it starts the callback.

The callback of a repeating timer is started no more often than the timer has expired,
except where the journal tells of an excuse.
-/

namespace ScriptHost

open World Kernel

variable {σ α : Type} {id : Nat} {timer : TimerHandle}

/-! ## What waits in a batch -/

namespace Dispatch

variable {report : Report} {world after : World σ}

/-- If a token was issued for a timer, then the timer has waited for its delay. -/
def Ripe (reported : EventLoop (Handler σ)) (id : Nat) (token : UInt64) (world : World σ) : Prop :=
  ∀ registration timer isRepeating callback,
    reported.registrations.get? (Token.descriptor token) = some registration →
    registration.handler = .timer timer isRepeating callback →
    Waited id timer world.journal.toList world.kernel.now

/-- The loop that a report is for has only grown since the event was reported, and a timer that
the event was for has waited for its delay. -/
def Expects (id : Nat) (report : Report) (world : World σ) : Prop :=
  world.Unseized → world.Sound ∧ world.Paced ∧ id < world.fresh ∧
    ∀ reactor, world.reactor? id = some reactor → ∃ reported : EventLoop (Handler σ),
      reported.Grown reactor.loop ∧ reported.Issued report.event.token ∧
        report.registration = reported.inForce? (Token.descriptor report.event.token) ∧
        Ripe reported id report.event.token world

theorem Expects.awaits (expects : Expects id report world) : Awaits id report world := by
  intro unseized
  rcases expects unseized with ⟨sound, _, old, grown⟩
  refine ⟨sound, old, fun reactor found => ?_⟩
  rcases grown reactor found with ⟨reported, before, issued, registration, _⟩
  exact ⟨reported, before, issued, registration⟩

theorem Expects.later (expects : Expects id report world) (pacing : Pacing world after) :
    Expects id report after := by
  intro unseized
  rcases expects (unseized.earlier pacing.orderly.recalls) with ⟨sound, paced, old, grown⟩
  rcases pacing.orderly.kept unseized sound with ⟨sound', later⟩
  rcases pacing.kept unseized sound paced with ⟨paced', passed⟩
  refine ⟨sound', paced', Nat.lt_of_lt_of_le old later.fresh, fun reactor found => ?_⟩
  rcases later.reactors id reactor old found with ⟨reactor', found', grown'⟩
  rcases grown reactor' found' with ⟨reported, before, issued, registration, ripe⟩
  refine ⟨reported, trans_of EventLoop.Grown before grown'.loop, issued, registration, ?_⟩
  intro registration' timer isRepeating callback registered handles
  exact (ripe registration' timer isRepeating callback registered handles).later
    (fun _ member => pacing.orderly.recalls.subset member) passed

/-- The kernel reports a timer only if there is something to be read from it. -/
theorem expects_poll {reactor : Reactor (Handler σ)} {timeout : Option Span}
    {events : List Readiness} {kernel : Kernel} (sound : world.Sound) (paced : world.Paced)
    (present : world.reactor? id = some reactor)
    (polled : reactor.loop.poller.poll timeout world.kernel = (.ok events, kernel)) :
    ∀ report ∈ events.map (Report.by reactor.loop), Expects id report { world with kernel } := by
  intro report member _
  rcases List.mem_map.mp member with ⟨event, among, rfl⟩
  have spares : Spares (fun _ => False) world.kernel kernel := (Poller.still_of_poll polled).spares
  have paced' := paced.spared spares fun _ impossible => impossible.elim
  refine ⟨sound.spared spares fun _ impossible => impossible.elim, paced',
    sound.fresh id reactor present, fun reactor' present' => ?_⟩
  rw [← Option.some.inj (present.symm.trans present')]
  have watching := (sound.reactors id reactor present).loop.watching
  rcases Poller.poll_reports watching polled event among with ⟨_, issued, _⟩
  have sited := (paced.reactors id reactor present).sited
  rcases Poller.poll_reports sited polled event among with ⟨fd, site, showing⟩
  refine ⟨reactor.loop, refl_of EventLoop.Grown _, issued, rfl, ?_⟩
  intro registration timer isRepeating callback registered handles
  have own := paced'.reactors id reactor present
  have step := own.inStep _ registration timer isRepeating callback registered handles
  have place : timer.fd = fd := (own.live registered handles).1.trans site
  exact step.waited (place ▸ showing)

end Dispatch

theorem World.pacing_reporting :
    Reporting (Pacing : World σ → World σ → Prop) Dispatch.Expects where
  lasts _ _ _ _ pacing expects := expects.later pacing
  polled world after id reactor timeout events kernel present polled orderly delivered := by
    have spares : Spares (fun _ => False) world.kernel kernel := (Poller.still_of_poll polled).spares
    refine Pacing.of_paced orderly fun _ sound paced => ?_
    exact trans_of Pacing (pacing_kernel spares fun _ impossible => impossible.elim)
      (delivered (Dispatch.expects_poll sound paced present polled))

/-! ## Excuses -/

theorem Kernel.unread_of_timer {kernel : Kernel} {fd : Descriptor} {state : Kernel.Timer}
    (found : kernel.resource? fd = some (.timer state)) : kernel.unread fd = state.count := by
  unfold unread
  rw [found]

/-- A registered timer may ring again if there is something to be read from it. -/
def World.Even (world : World σ) (id : Nat) (timer : TimerHandle) : Prop :=
  ∀ reactor fd registration isRepeating callback, world.reactor? id = some reactor →
    reactor.loop.registrations.get? fd = some registration →
    registration.handler = .timer timer isRepeating callback →
    InStep (fun state => 0 < state.count) world.kernel world.journal.toList id timer

namespace Dispatch

variable {world after : World σ} {event : Event}

theorem pacing_excuse (excuse : event = .hollow id timer ∨ event = .unread id timer) :
    Keeps Pacing (tell event : Action σ Unit) := by
  intro world
  have direct : ∀ delivery, event = .handling delivery → delivery.ReachesOwner := by
    rcases excuse with rfl | rfl <;> exact nofun
  have allowed : paced world.journal.toList event := by
    rcases excuse with rfl | rfl <;> exact trivial
  have unarmed : ∀ id timer isRepeating start delay,
      event ≠ .armed id timer isRepeating start delay := by
    rcases excuse with rfl | rfl <;> exact nofun
  have about : event.pacing? = some (id, timer) := by
    rcases excuse with rfl | rfl <;> rfl
  refine ⟨orderly_tell event direct world, fun _ _ paced =>
    ⟨paced.told allowed unarmed ?_, Nat.le_refl _⟩⟩
  intro id' timer' reactor fd registration isRepeating callback about' found registered handles
  cases about.symm.trans about'
  have step := (paced.reactors id reactor found).inStep fd registration timer isRepeating callback
    registered handles
  exact (step.excused excuse).mono fun _ _ _ => trivial

theorem pacing_noticeHollow (id : Nat) (timer : TimerHandle) :
    Keeps Pacing (noticeHollow id timer : Action σ Unit) :=
  Keeps.get.bind fun _ => Keeps.ite (pacing_excuse (.inl rfl)) (.pure ())

theorem pacing_noticeUnread (id : Nat) (timer : TimerHandle) :
    Keeps Pacing (noticeUnread id timer : Action σ Unit) :=
  Keeps.get.bind fun _ => Keeps.ite (pacing_excuse (.inr rfl)) (.pure ())

theorem even_noticeUnread (paced : world.Paced) : (noticeUnread id timer world).2.Even id timer := by
  intro reactor fd registration isRepeating callback found registered handles
  rw [noticeUnread_eq] at found ⊢
  dsimp only at found ⊢
  split at found
  next both =>
      rw [if_pos both, journal_tell]
      have step := (paced.reactors id reactor found).inStep fd registration timer isRepeating callback
        registered handles
      exact (step.excused (.inr rfl)).mono fun _ _ _ => trivial
  next none =>
      rw [if_neg none]
      have own := paced.reactors id reactor found
      have step := own.inStep fd registration timer isRepeating callback registered handles
      have live := (own.seated fd registration timer isRepeating callback registered handles).2
      -- The timer is live, so there is nothing to be read from it.
      refine step.mono fun state there unread => absurd ⟨?_, ?_⟩ none
      · rw [found]
        exact live
      · rw [unread_of_timer there]
        exact Nat.ne_of_gt unread

/-! ## Callbacks -/

/-- The callback of a timer is about to be started, after the delay of the timer. -/
structure Calls (less : Kernel.Timer → Prop) (world : World σ) (id : Nat) (timer : TimerHandle)
    (isRepeating : Bool) (reactor : Reactor (Handler σ)) (registration : Registration (Handler σ)) :
    Prop extends Serves world id timer isRepeating reactor registration where
  inStep : InStep less world.kernel world.journal.toList id timer
  waited : Few world.journal.toList → Waited id timer world.journal.toList world.kernel.now

variable {isRepeating : Bool} {reactor : Reactor (Handler σ)}
  {registration : Registration (Handler σ)}

/-- If nothing is to be read, the callback is excused. -/
theorem Calls.noticed
    (calls : Calls (fun state => 0 < state.count) world id timer isRepeating reactor registration) :
    Calls (fun _ => True) (noticeHollow id timer world).2 id timer isRepeating reactor
      registration := by
  by_cases none : world.kernel.unread timer.fd = 0
  · have told : (noticeHollow id timer world).2 = (tell (.hollow id timer) world).2 := by
      rw [noticeHollow_eq]
      exact if_pos none
    have serves := calls.toServes.noticed
    have grown := journal_tell (.hollow id timer) world
    rw [told] at serves ⊢
    refine ⟨serves, ?_, fun few => ?_⟩
    · rw [grown]
      exact calls.inStep.excused (.inl rfl)
    · rw [grown] at few ⊢
      exact (calls.waited (few.earlier fun _ => List.mem_append_left _)).later
        (fun _ => List.mem_append_left _) (Nat.le_refl _)
  · have same : (noticeHollow id timer world).2 = world := by
      rw [noticeHollow_eq]
      exact if_neg none
    rw [same]
    refine ⟨calls.toServes, calls.inStep.mono fun state there _ => ?_, calls.waited⟩
    rw [unread_of_timer there] at none
    exact Nat.pos_of_ne_zero none

/-- While the callback is running, the event that the timer goes on giving starts nothing. -/
theorem pacing_ringing
    (calls : Calls (fun _ => True) world id timer isRepeating reactor registration) :
    Pacing world (tell (.ringing id timer world.kernel.now) world).2 := by
  refine ⟨orderly_tell _ (by nofun) world, fun _ _ paced =>
    ⟨paced.told ⟨calls.inStep.on_time, calls.waited⟩ nofun ?_, Nat.le_refl _⟩⟩
  intro id' timer' reactor' fd registration' isRepeating' callback about found registered handles
  cases about
  rw [Option.some.inj (found.symm.trans calls.present)] at registered ⊢
  rcases (paced.reactors id reactor calls.present).live registered handles with ⟨rfl, _⟩
  rw [Option.some.inj (registered.symm.trans calls.registered)]
  exact (calls.inStep.rung _).mono fun _ _ unserved => (unserved.1 calls.running).elim

theorem pacing_settle (id : Nat) (timer : TimerHandle) (isRepeating : Bool)
    (outcome : Except Error Unit) :
    Keeps Pacing (settle id timer isRepeating outcome : Action σ Unit) := by
  refine Keeps.get.bind fun world => ?_
  cases world.reactor? id with
  | none => exact .ofExcept outcome
  | some state =>
      refine Keeps.ite (fun world => ?_) (.ofExcept outcome)
      exact pacing_onReactor (Reactor.upholds_settle timer isRepeating outcome)
        fun _ _ sound paced => paced.settle sound timer isRepeating outcome

theorem pacing_rung (id : Nat) (timer : TimerHandle) (isRepeating : Bool)
    (outcome : Except Error Unit) :
    Keeps Pacing (rung id timer isRepeating outcome : Action σ Unit) :=
  (pacing_settle id timer isRepeating outcome).attempt.bind fun settled =>
    (pacing_tell rfl (by nofun)).bind fun _ => .ofExcept settled

theorem pacing_begun {report : Report}
    (direct : (deliveryOf world id report registration).ReachesOwner) :
    Pacing world (begun world id report registration) := by
  have pushed : Pacing world (changeLoop id (busy registration.serial) world).2 :=
    pacing_changeLoop
      (fun _ _ sound => sound.kept_rerun fun _ member => List.mem_cons_of_mem _ member)
      (fun _ => rfl) fun _ _ member => List.mem_cons_of_mem _ member
  have told : Keeps Pacing (tell (.handling (deliveryOf world id report registration)) :
      Action σ Unit) :=
    pacing_tell rfl (by rintro _ ⟨⟩; exact direct)
  exact trans_of Pacing pushed (told _)

/-- The timer whose handler is started is the one that the event was reported for. -/
theorem calls_begun {report : Report} {callback : Script σ} (expects : Expects id report world)
    (unseized : world.Unseized) (present : world.reactor? id = some reactor)
    (addressed : reactor.loop.addressee? report.event = some registration)
    (handles : registration.handler = .timer timer isRepeating callback) :
    Calls (fun state => 0 < state.count) (begun world id report registration) id timer isRepeating
      { reactor with loop := busy registration.serial reactor.loop } registration := by
  rcases expects unseized with ⟨sound, paced, _, grown⟩
  rcases grown reactor present with ⟨reported, grown, issued, _, ripe⟩
  rcases EventLoop.addressee?_eq_some addressed with ⟨registered, _, idle⟩
  have own := paced.reactors id reactor present
  have place := (own.live registered handles).1
  have step := own.inStep _ registration timer isRepeating callback registered handles
  have told : (begun world id report registration).journal.toList =
      world.journal.toList ++ [.handling (deliveryOf world id report registration)] :=
    journal_tell _ _
  refine ⟨serves_begun present (place ▸ registered) ⟨callback, handles⟩, ?_, fun few => ?_⟩
  · rw [told]
    exact (step.told (by nofun)).mono fun _ _ unread => ⟨idle, unread⟩
  · rw [told] at few ⊢
    have asked := few _ (List.mem_append_right _ (List.mem_singleton.mpr rfl))
    have looped : world.loop? id = some reactor.loop := by
      rw [loop?, present]
      rfl
    unfold deliveryOf at asked
    dsimp only at asked
    rw [looped] at asked
    have kept := grown.kept_of_addressee? (sound.reactors id reactor present).loop asked issued
      addressed
    exact (ripe registration timer isRepeating callback kept handles).later
      (fun _ => List.mem_append_left _) (Nat.le_refl _)

/-- Taking a registration off the running ones when its handler has come back.  If it was that
of a timer, then the callback has come back and the timer may ring again. -/
theorem pacing_finish {fd : Descriptor} (pacing : Pacing world after)
    (present : world.reactor? id = some reactor)
    (registered : reactor.loop.registrations.get? fd = some registration)
    (idle : registration.serial ∉ reactor.loop.running)
    (even : after.Unseized → world.Sound → world.Paced → ∀ timer isRepeating callback,
      registration.handler = .timer timer isRepeating callback → after.Even id timer) :
    Pacing world (changeLoop id (Dispatch.idle registration.serial) after).2 := by
  refine ⟨orderly_finish pacing.orderly fun reactor' present' => ?_, fun unseized sound paced => ?_⟩
  · rw [← Option.some.inj (present.symm.trans present')]
    exact idle
  · rcases pacing.kept unseized sound paced with ⟨paced', passed⟩
    have sound' := (pacing.orderly.kept unseized sound).1
    rcases changeLoop_outcome id (Dispatch.idle registration.serial) after with
      alone | ⟨state, found, settled⟩
    · rw [alone]
      exact ⟨paced', passed⟩
    · rw [settled]
      refine ⟨paced'.settled sound' found (refl_of (Spares _) after.kernel) ?_, passed⟩
      have own := paced'.reactors id state found
      refine ⟨own.sited, own.seated, own.known, ?_⟩
      intro fd' registration' timer' isRepeating' callback' registered' handles'
      by_cases same : registration'.serial = registration.serial
      · rcases registration_unique pacing.orderly unseized sound present registered found
          registered' same with ⟨_, rfl⟩
        have ready := even unseized sound paced timer' isRepeating' callback' handles' state fd'
          registration' isRepeating' callback' found registered' handles'
        exact ready.mono fun _ _ unserved => unserved.2
      · have step := own.inStep fd' registration' timer' isRepeating' callback' registered' handles'
        refine step.mono fun _ _ unserved => ⟨fun busy => unserved.1 ?_, unserved.2⟩
        exact (List.mem_erase_of_ne same).mpr busy

section Runs

variable {run : Script σ → Action σ Value} {callback : Script σ}
  (ran : ∀ script, Keeps Pacing (run script))

include ran

theorem pacing_ring
    (calls : Calls (fun _ => True) world id timer isRepeating reactor registration) :
    Pacing world (ring run id timer isRepeating callback world).2 := by
  have called : Keeps Pacing (attempt (do let _ ← run callback) : Action σ (Except Error Unit)) :=
    ((ran callback).bind fun _ => .pure ()).attempt
  rw [ring_eq]
  exact trans_of Pacing (pacing_ringing calls)
    (called.bind (fun outcome => pacing_rung id timer isRepeating outcome) _)

variable (calls :
  Calls (fun state => 0 < state.count) world id timer isRepeating reactor registration)

include calls

theorem pacing_alarm : Pacing world (alarm run id timer isRepeating callback world).2 := by
  rw [alarm_eq]
  refine trans_of Pacing (pacing_noticeHollow id timer world) (Keeps.bind_from ?_ ?_)
  · rw [attempt_world]
    exact pacing_ring ran calls.noticed
  · intro outcome after _
    exact ((pacing_noticeUnread id timer).bind fun _ => .ofExcept outcome) after

/-- A timer whose callback has come back may ring again. -/
theorem even_alarm {outcome : Except Error Unit}
    (ended : attempt (alarm run id timer isRepeating callback) world = (.ok outcome, after))
    (unseized : after.Unseized) (sound : world.Sound) (paced : world.Paced) :
    after.Even id timer := by
  rcases ring_of_alarm ended with ⟨answer, middle, rang, rfl⟩
  have rung : Pacing (noticeHollow id timer world).2 middle := by
    rw [← world_of_attempt rang]
    exact pacing_ring ran calls.noticed
  have whole := trans_of Pacing (pacing_noticeHollow id timer world) rung
  have earlier := unseized.earlier (orderly_noticeUnread id timer middle).recalls
  exact even_noticeUnread (whole.kept earlier sound paced).1

omit calls in
/-- The start of the handler that an event is for, its run, and its end. -/
theorem pacing_serves {report : Report} (expects : Expects id report world)
    (unseized : world.Unseized)
    (found : ((world.loop? id).bind fun loop => loop.addressee? report.event) =
      some registration) :
    Pacing world (begun world id report registration) ∧
      Pacing (begun world id report registration) (handle run id
        (Token.descriptor report.event.token) report.event.ready registration.handler
        (begun world id report registration)).2 ∧
      ∀ outcome after, attempt (handle run id (Token.descriptor report.event.token)
          report.event.ready registration.handler) (begun world id report registration) =
            (.ok outcome, after) →
        Pacing world after →
        Pacing world (changeLoop id (Dispatch.idle registration.serial) after).2 := by
  rcases addressee_of_loop found with ⟨reactor, present, addressed⟩
  rcases EventLoop.addressee?_eq_some addressed with ⟨registered, _, idle⟩
  have begins := pacing_begun (deliveryOf_reachesOwner expects.awaits unseized found)
  refine ⟨begins, ?_, fun outcome after ended whole => ?_⟩
  · cases handles : registration.handler with
    | script body => exact ((ran _).bind fun _ => .pure ()) _
    | timer timer isRepeating callback =>
        exact pacing_alarm ran (calls_begun expects unseized present addressed handles)
  · refine pacing_finish whole present registered idle ?_
    intro unseized' sound paced timer isRepeating callback handles
    have calls := calls_begun expects unseized present addressed handles
    rw [handles] at ended
    have rang : Pacing (begun world id report registration) after := by
      rw [← world_of_attempt ended]
      exact pacing_alarm ran calls
    have unseized'' := unseized'.earlier rang.orderly.recalls
    exact even_alarm ran calls ended unseized' (begins.orderly.kept unseized'' sound).1
      (begins.kept unseized'' sound paced).1

omit calls in
theorem pacing_deliver {report : Report} (expects : Expects id report world) :
    Pacing world (deliver run id report world).2 := by
  have orderly := orderly_deliver (fun script => (ran script).mono fun _ _ => Pacing.orderly)
    expects.awaits
  refine Pacing.of_paced orderly fun unseized _ _ => ?_
  have earlier := unseized.earlier orderly.recalls
  exact pacing_loopRules.deliver fun _ found => pacing_serves ran expects earlier found

end Runs

end Dispatch

/-- The journal is told when a timer is started, and when that was. -/
theorem Dispatch.journal_schedule {world after : World σ} {delay : Span} {isRepeating : Bool}
    {callback : Script σ}
    (ended : schedule id delay isRepeating callback world = (.ok timer, after)) :
    ∃ opening, after.journal.toList = world.journal.toList ++
      [.scheduled id timer isRepeating opening,
        .armed id timer isRepeating world.kernel.now delay] := by
  rcases schedule_eq_ok_iff.mp ended with ⟨_, state, _, _, rfl⟩
  refine ⟨state.1.opening? timer.fd, ?_⟩
  unfold announced
  rw [journal_tell, journal_tell, List.append_assoc]
  rfl

/-! ## Sessions -/

theorem World.pacing_rules (engine : Engine σ) :
    Rules engine (Pacing : World σ → World σ → Prop) :=
  pacing_loopRules.session pacing_reporting pacing_of_changes pacing_answer
    Dispatch.pacing_listenFor Dispatch.pacing_schedule
    (fun ran _ _ _ => Dispatch.pacing_deliver ran) engine

theorem Session.paced_start (session : Session σ) (steps : Nat) :
    ({ session.start with steps := some steps } : World σ).Paced where
  lawful := Lawful.nil
  known _ _ _ _ _ armed := absurd armed List.not_mem_nil
  reactors _ _ found := nomatch found

theorem Session.paced_world (session : Session σ) (steps : Nat)
    (unseized : (session.world steps).Unseized) : (session.world steps).Paced :=
  ((session.keeps (World.pacing_rules session.engine) steps).kept unseized
    (session.sound_start steps) (session.paced_start steps)).1

/-- At every moment of every session in which nobody else closes or drives what a loop or a
timer owns, and in which no loop was asked for more registrations than there are generations,
each callback that was started was that of a timer that had been armed, and its delay was
over.  The journal is told of every timer that is started, and when. -/
theorem Session.timers_wait (session : Session σ) (steps : Nat)
    (unseized : ∀ fd, .seized fd ∉ session.history steps) (few : Few (session.history steps)) :
    (∀ id timer time, .ringing id timer time ∈ session.history steps →
      ∃ isRepeating start delay, .armed id timer isRepeating start delay ∈ session.history steps) ∧
    (∀ id timer isRepeating start delay time,
      .armed id timer isRepeating start delay ∈ session.history steps →
      .ringing id timer time ∈ session.history steps → start + max delay.toNanos 1 ≤ time) ∧
    ∀ (id : Nat) (delay : Span) (isRepeating : Bool) (callback : Script σ) (world after : World σ)
      (timer : TimerHandle),
      Dispatch.schedule id delay isRepeating callback world = (.ok timer, after) →
      ∃ opening, after.journal.toList = world.journal.toList ++
        [.scheduled id timer isRepeating opening,
          .armed id timer isRepeating world.kernel.now delay] := by
  have lawful : Lawful paced (session.history steps) := (session.paced_world steps unseized).lawful
  have waited (id : Nat) (timer : TimerHandle) (time : Nat)
      (rings : .ringing id timer time ∈ session.history steps) :
      Waited id timer (session.history steps) time := by
    rcases lawful.allowed_of_mem rings with ⟨before, earlier, _, waited⟩
    exact (waited (few.earlier earlier)).later earlier (Nat.le_refl _)
  refine ⟨fun id timer time rings => ?_, fun id timer isRepeating start delay time armed rings => ?_, ?_⟩
  · rcases waited id timer time rings with ⟨isRepeating, start, delay, armed, _⟩
    exact ⟨isRepeating, start, delay, armed⟩
  · rcases waited id timer time rings with ⟨_, start', delay', armed', due⟩
    rcases armed_unique lawful armed armed' with ⟨rfl, rfl⟩
    exact due
  · intro id delay isRepeating callback world after timer ended
    exact Dispatch.journal_schedule ended

/-- A session in which two timers expire at once, and the callback of the first cancels the
second and starts another timer, with a longer delay, on the same descriptor. -/
def recycled : Session Unit where
  engine := ⟨fun _ _ => .ok fun _ => .done .null, fun _ _ => .done .null, fun _ _ => .done .null⟩
  script :=
    .ask (.newReactor 8) fun _ =>
      .schedule 0 ⟨0, 1000⟩ false
        (.ask (.cancel 0 ⟨5, 2⟩) fun _ => .schedule 0 ⟨0, 9000⟩ true (.done .null) fun _ => .done .null)
        fun _ => .schedule 0 ⟨0, 1000⟩ false (.done .null) fun _ =>
        .poll 0 none fun _ => .poll 0 none fun _ => .done .null
  fuel := 6
  input := []
  waitLimit := none
  offers := []
  disk := .empty
  environment := .empty
  memory := ()

/-- The event that was waiting for the second timer starts nothing, and the third timer, which
has its descriptor, rings after its own delay. -/
theorem recycled_waits :
    startsOf (recycled.history 40) 0 ⟨5, 2⟩ = 0 ∧
      .ringing 0 ⟨5, 3⟩ 10000 ∈ recycled.history 40 ∧ 1000 + max (Span.toNanos ⟨0, 9000⟩) 1 ≤ 10000 := by
  have history : recycled.history 40 =
      [.scheduled 0 ⟨4, 1⟩ false (some 2), .armed 0 ⟨4, 1⟩ false 0 ⟨0, 1000⟩,
        .scheduled 0 ⟨5, 2⟩ false (some 3), .armed 0 ⟨5, 2⟩ false 0 ⟨0, 1000⟩,
        .handling ⟨0, 0, some 0, some 0, 2, 4294967300, 1000⟩, .ringing 0 ⟨4, 1⟩ 1000,
        .cancelled 0 ⟨5, 2⟩, .scheduled 0 ⟨5, 3⟩ true (some 4),
        .armed 0 ⟨5, 3⟩ true 1000 ⟨0, 9000⟩, .rang 0 ⟨4, 1⟩,
        .handling ⟨0, 2, some 2, some 2, 3, 12884901893, 10000⟩, .ringing 0 ⟨5, 3⟩ 10000,
        .rang 0 ⟨5, 3⟩] := by decide +kernel
  have unseized (fd : Descriptor) : .seized fd ∉ recycled.history 40 := by
    rw [history]
    simp
  have few : Few (recycled.history 40) := by
    rw [history]
    simp [Few]
  rcases recycled.timers_wait 40 unseized few with ⟨_, due, _⟩
  rw [history] at due ⊢
  exact ⟨by decide, by decide, due 0 ⟨5, 3⟩ true 1000 ⟨0, 9000⟩ 10000 (by decide) (by decide)⟩

/-- At every moment of every session in which nobody else closes or drives what a loop or a
timer owns, each start of a callback comes as many delays after its timer was armed as the
callback has been started, this start included, but one less for every excuse before it.  The
excuses are a start with nothing to be read from the timer, and a callback that has come back
and left something to be read.  A timer is armed once. -/
theorem Session.intervals_keep_pace (session : Session σ) (steps : Nat)
    (unseized : ∀ fd, .seized fd ∉ session.history steps) :
    (∀ id timer time before after, session.history steps = before ++ .ringing id timer time :: after →
      ∃ isRepeating start delay, .armed id timer isRepeating start delay ∈ before ∧
        start + (startsOf before id timer + 1 - excusesOf before id timer) * max delay.toNanos 1 ≤
          time) ∧
    ∀ id timer isRepeating isRepeating' start start' delay delay',
      .armed id timer isRepeating start delay ∈ session.history steps →
      .armed id timer isRepeating' start' delay' ∈ session.history steps →
      start = start' ∧ delay = delay' := by
  have lawful : Lawful paced (session.history steps) := (session.paced_world steps unseized).lawful
  refine ⟨fun id timer time before after split => ?_, fun _ _ _ _ _ _ _ _ => armed_unique lawful⟩
  rw [split] at lawful
  exact lawful.next.1

/-- A session in which a handler polls again and the interval that expired with its descriptor
is served by both polls. -/
def hurried : Session Unit where
  engine := ⟨fun _ _ => .ok fun _ => .done .null, fun _ _ => .done .null, fun _ _ => .done .null⟩
  script :=
    .ask (.newReactor 8) fun _ => .ask .pipe fun pipe => .ask (.write pipe.2 [0]) fun _ =>
      .listen 0 pipe.1 .readable
        (fun _ _ => .poll 0 (some .zero) fun _ => .done .null)
        fun _ => .schedule 0 ⟨0, 1000⟩ true (.done .null) fun _ =>
        .ask (.advance 1000) fun _ => .poll 0 (some .zero) fun _ => .done .null
  fuel := 6
  input := []
  waitLimit := none
  offers := []
  disk := .empty
  environment := .empty
  memory := ()

/-- There the callback is started twice for one expiry, and the second start is excused. -/
theorem hurried_keeps_pace :
    ∃ before after, hurried.history 40 = before ++ .ringing 0 ⟨6, 1⟩ 1000 :: after ∧
      .armed 0 ⟨6, 1⟩ true 0 ⟨0, 1000⟩ ∈ before ∧ startsOf before 0 ⟨6, 1⟩ = 1 ∧
      excusesOf before 0 ⟨6, 1⟩ = 1 ∧ 0 + (1 + 1 - 1) * max (Span.toNanos ⟨0, 1000⟩) 1 ≤ 1000 := by
  have history : hurried.history 40 =
      [.scheduled 0 ⟨6, 1⟩ true (some 4), .armed 0 ⟨6, 1⟩ true 0 ⟨0, 1000⟩,
        .handling ⟨0, 0, some 0, some 0, 2, 4294967300, 1000⟩,
        .handling ⟨0, 1, some 1, some 1, 2, 8589934598, 1000⟩, .ringing 0 ⟨6, 1⟩ 1000,
        .rang 0 ⟨6, 1⟩, .handling ⟨0, 1, some 1, some 1, 2, 8589934598, 1000⟩,
        .hollow 0 ⟨6, 1⟩] ++ .ringing 0 ⟨6, 1⟩ 1000 :: [.rang 0 ⟨6, 1⟩] := by decide +kernel
  have unseized (fd : Descriptor) : .seized fd ∉ hurried.history 40 := by
    rw [history]
    simp
  rcases hurried.intervals_keep_pace 40 unseized with ⟨pace, once⟩
  rcases pace 0 ⟨6, 1⟩ 1000 _ _ history with ⟨isRepeating, start, delay, armed, bound⟩
  refine ⟨_, _, history, by decide, by decide, by decide, ?_⟩
  have earlier := List.mem_append_left (.ringing 0 ⟨6, 1⟩ 1000 :: [.rang 0 ⟨6, 1⟩]) armed
  rcases once 0 ⟨6, 1⟩ true isRepeating 0 start ⟨0, 1000⟩ delay (by rw [history]; decide)
    (history ▸ earlier) with ⟨rfl, rfl⟩
  exact bound

end ScriptHost
