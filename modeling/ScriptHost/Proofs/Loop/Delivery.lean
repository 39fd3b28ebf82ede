import ScriptHost.Proofs.Loop.Serving

/-!
# Events reach their owner

Whatever handlers do to a loop while a batch of events is being dispatched, an event
is given only to the handler of the registration that was in force for its
descriptor when the kernel reported it.  If that registration has been removed in the
meantime, or replaced by another for the same number, the event reaches nobody.
-/

namespace ScriptHost

open World Kernel

variable {σ α : Type}

/-! ## Requests -/

theorem Dispatch.orderly_cancel (reactor : Nat) (timer : TimerHandle) :
    Keeps Orderly (cancel reactor timer : Action σ Bool) := by
  refine Keeps.get.bind fun world => ?_
  have released := orderly_onReactor (σ := σ) reactor (Reactor.upholds_release timer)
  have told := orderly_tell (σ := σ) (.cancelled reactor timer) nofun
  exact Keeps.ite (told.bind fun _ => released) released

namespace World

theorem orderly_loopRules :
    LoopRules (Orderly : World σ → World σ → Prop) fun _ _ => True where
  orderly _ _ orderly := orderly
  kernel _ _ _ := orderly_kernel
  comes := orderly_newReactor
  holds := orderly_holdReactor
  letsGo := orderly_releaseReactor
  hooks _ hook _ := orderly_changeLoop fun _ _ sound => sound.kept_rehooked hook
  modifies id fd interest :=
    orderly_onReactor id (Reactor.upholds_onLoop (EventLoop.upholds_modify fd interest))
  removes id fd world _ :=
    orderly_onReactor id (Reactor.upholds_onLoop (EventLoop.upholds_remove fd)) world
  cancels := Dispatch.orderly_cancel
  notices _ := ⟨orderly_tell _ (by nofun), orderly_tell _ (by nofun)⟩
  tells event about := orderly_tell event (by rintro _ rfl; cases about)
  drained world _ _ _ _ := orderly_tell _ (by nofun) world

theorem orderly_answer (request : Request) (concerns : request.part? = some .loops) :
    Keeps Orderly (Script.answer request : Action σ request.Reply) := by
  intro world
  have changed := Script.answer_changes request .loops concerns world
  refine Orderly.of_sound (recalls_of_changes _ _ changed) fun unseized _ => ?_
  exact orderly_loopRules.answer request concerns world
    (fun _ seizes _ _ => owns_of_answer concerns unseized seizes) fun _ _ => trivial

end World

/-! ## Handlers -/

namespace Dispatch

theorem orderly_listenFor (reactor : Nat) (fd : Descriptor) (interest : Interest)
    (handler : Descriptor → Interest → Script σ) :
    Keeps Orderly (Script.listenFor reactor fd interest handler) :=
  Keeps.bind (fun world => orderly_loopRules.noticeUse world (some fd)) fun _ =>
    orderly_onReactor reactor (Reactor.upholds_onLoop (EventLoop.upholds_add fd interest _))

section Schedules

variable {world : World σ} {id : Nat} {reactor : Reactor (Handler σ)} {delay : Span}
  {isRepeating : Bool} {callback : Script σ} {state : Kernel × Reactor (Handler σ)}

theorem schedule_of_none (gone : world.reactor? id = none) :
    schedule id delay isRepeating callback world =
      (.error (.raised (.config "the loop is gone")), world) := by
  unfold schedule
  rw [get_bind_eq]
  exact bind_of_error (onReactor_of_none _ gone)

theorem schedule_of_error {error : Error} (found : world.reactor? id = some reactor)
    (ended : Reactor.schedule (fun timer => .timer timer isRepeating callback) delay isRepeating
      (world.kernel, reactor) = (.error error, state)) :
    schedule id delay isRepeating callback world =
      (.error (.raised error), world.settled id state) := by
  have called := onReactor_of_some (Reactor.schedule
    (fun timer => Handler.timer timer isRepeating callback) delay isRepeating) found
  rw [ended] at called
  unfold schedule
  rw [get_bind_eq]
  exact bind_of_error called

/-- The world in which a timer has been started. -/
def announced (world : World σ) (id : Nat) (timer : TimerHandle) (isRepeating : Bool) (delay : Span)
    (state : Kernel × Reactor (Handler σ)) : World σ :=
  (tell (.armed id timer isRepeating world.kernel.now delay)
    (tell (.scheduled id timer isRepeating (state.1.opening? timer.fd))
      (world.settled id state)).2).2

theorem schedule_of_ok {timer : TimerHandle} (found : world.reactor? id = some reactor)
    (ended : Reactor.schedule (fun timer => .timer timer isRepeating callback) delay isRepeating
      (world.kernel, reactor) = (.ok timer, state)) :
    schedule id delay isRepeating callback world =
      (.ok timer, announced world id timer isRepeating delay state) := by
  have called := onReactor_of_some (Reactor.schedule
    (fun timer => Handler.timer timer isRepeating callback) delay isRepeating) found
  rw [ended] at called
  unfold schedule
  rw [get_bind_eq]
  refine (bind_of_ok called).trans ?_
  rw [get_bind_eq, tell_bind_eq, tell_bind_eq]
  rfl

/-- A timer is started just if the loop is there and its reactor starts it. -/
theorem schedule_eq_ok_iff {after : World σ} {timer : TimerHandle} :
    schedule id delay isRepeating callback world = (.ok timer, after) ↔
      ∃ reactor state, world.reactor? id = some reactor ∧
        Reactor.schedule (fun timer => .timer timer isRepeating callback) delay isRepeating
          (world.kernel, reactor) = (.ok timer, state) ∧
        after = announced world id timer isRepeating delay state := by
  constructor
  · intro ended
    cases found : world.reactor? id with
    | none => cases (schedule_of_none found).symm.trans ended
    | some reactor =>
        rcases called : Reactor.schedule (fun timer => Handler.timer timer isRepeating callback)
          delay isRepeating (world.kernel, reactor) with ⟨error | timer, state⟩
        · cases (schedule_of_error found called).symm.trans ended
        · cases (schedule_of_ok found called).symm.trans ended
          exact ⟨reactor, state, rfl, called, rfl⟩
  · rintro ⟨reactor, state, found, called, rfl⟩
    exact schedule_of_ok found called

/-- A timer is not started just if the loop is gone or its reactor does not start it. -/
theorem schedule_eq_error_iff {after : World σ} {failure : Failure} :
    schedule id delay isRepeating callback world = (.error failure, after) ↔
      (world.reactor? id = none ∧ failure = .raised (.config "the loop is gone") ∧
          after = world) ∨
        ∃ reactor error state, world.reactor? id = some reactor ∧
          Reactor.schedule (fun timer => .timer timer isRepeating callback) delay isRepeating
            (world.kernel, reactor) = (.error error, state) ∧
          failure = .raised error ∧ after = world.settled id state := by
  constructor
  · intro ended
    cases found : world.reactor? id with
    | none =>
        cases (schedule_of_none found).symm.trans ended
        exact .inl ⟨rfl, rfl, rfl⟩
    | some reactor =>
        rcases called : Reactor.schedule (fun timer => Handler.timer timer isRepeating callback)
          delay isRepeating (world.kernel, reactor) with ⟨error | timer, state⟩
        · cases (schedule_of_error found called).symm.trans ended
          exact .inr ⟨reactor, error, state, rfl, called, rfl, rfl⟩
        · cases (schedule_of_ok found called).symm.trans ended
  · rintro (⟨gone, rfl, rfl⟩ | ⟨reactor, error, state, found, called, rfl, rfl⟩)
    · exact schedule_of_none gone
    · exact schedule_of_error found called

end Schedules

theorem orderly_schedule (reactor : Nat) (delay : Span) (isRepeating : Bool)
    (callback : Script σ) : Keeps Orderly (schedule reactor delay isRepeating callback) := by
  refine Keeps.get.bind fun _ => ?_
  refine (orderly_onReactor reactor (Reactor.upholds_schedule _ delay isRepeating)).bind
    fun timer => Keeps.get.bind fun _ => ?_
  exact (orderly_tell _ (by nofun)).bind fun _ => (orderly_tell _ (by nofun)).bind fun _ =>
    .pure timer

theorem orderly_settle (reactor : Nat) (timer : TimerHandle) (isRepeating : Bool)
    (outcome : Except Error Unit) :
    Keeps Orderly (settle reactor timer isRepeating outcome : Action σ Unit) := by
  refine Keeps.get.bind fun world => ?_
  cases world.reactor? reactor with
  | none => exact .ofExcept outcome
  | some state =>
      exact Keeps.ite (orderly_onReactor reactor (Reactor.upholds_settle timer isRepeating outcome))
        (.ofExcept outcome)

theorem orderly_noticeHollow (reactor : Nat) (timer : TimerHandle) :
    Keeps Orderly (noticeHollow reactor timer : Action σ Unit) :=
  Keeps.get.bind fun _ => Keeps.ite (orderly_tell _ (by nofun)) (.pure ())

theorem orderly_noticeUnread (reactor : Nat) (timer : TimerHandle) :
    Keeps Orderly (noticeUnread reactor timer : Action σ Unit) :=
  Keeps.get.bind fun _ => Keeps.ite (orderly_tell _ (by nofun)) (.pure ())

variable {run : Script σ → Action σ Value}

variable (ran : ∀ script, Keeps Orderly (run script))

include ran

theorem orderly_ring (reactor : Nat) (timer : TimerHandle) (isRepeating : Bool)
    (callback : Script σ) : Keeps Orderly (ring run reactor timer isRepeating callback) := by
  refine Keeps.get.bind fun world => (orderly_tell _ (by nofun)).bind fun _ => ?_
  refine Keeps.bind (Keeps.attempt ((ran callback).bind fun _ => .pure ())) fun outcome => ?_
  refine (orderly_settle reactor timer isRepeating outcome).attempt.bind fun settled => ?_
  exact (orderly_tell _ (by nofun)).bind fun _ => .ofExcept settled

theorem orderly_alarm (reactor : Nat) (timer : TimerHandle) (isRepeating : Bool)
    (callback : Script σ) : Keeps Orderly (alarm run reactor timer isRepeating callback) :=
  (orderly_noticeHollow reactor timer).bind fun _ =>
    (orderly_ring ran reactor timer isRepeating callback).attempt.bind fun outcome =>
      (orderly_noticeUnread reactor timer).bind fun _ => .ofExcept outcome

theorem orderly_handle (reactor : Nat) (fd : Descriptor) (ready : Interest)
    (handler : Handler σ) : Keeps Orderly (handle run reactor fd ready handler) := by
  cases handler with
  | script body => exact (ran _).bind fun _ => .pure ()
  | timer timer isRepeating callback => exact orderly_alarm ran reactor timer isRepeating callback

omit ran in
/-- Taking a registration off the running ones, if it was not running in the beginning. -/
theorem orderly_finish {id serial : Nat} {before after : World σ} (orderly : Orderly before after)
    (idle : ∀ reactor, before.reactor? id = some reactor → serial ∉ reactor.loop.running) :
    Orderly before (changeLoop id (Dispatch.idle serial) after).2 := by
  rcases changeLoop_outcome id (Dispatch.idle serial) after with
    alone | ⟨reactor, found, settled⟩
  · rw [alone]
    exact orderly
  · rw [settled]
    refine ⟨orderly.recalls, fun unseized sound => ?_, fun unseized sound mirrored => ?_⟩
    case refine_2 =>
        have mirrored' := orderly.mirrors unseized sound mirrored
        exact mirrored'.settled (orderly.kept unseized sound).1 found
          ((mirrored' id reactor found).of_same rfl rfl rfl) (refl_of (Spares _) _)
    rcases orderly.kept unseized sound with ⟨sound', later⟩
    refine ⟨sound'.settled found ((sound'.reactors id reactor found).rerun _)
      (refl_of (Spares _) _) (fun _ owned => .inl owned), later.fresh, ?_⟩
    intro other reactor' old found'
    rw [reactor?_settled found] at found'
    split at found'
    next same =>
        subst same
        rw [← Option.some.inj found']
        rcases later.reactors id reactor old found with ⟨earlier, present, grown⟩
        refine ⟨earlier, present, ⟨⟨grown.loop.poller, grown.loop.serial, grown.loop.kept, ?_⟩,
          grown.ids⟩⟩
        intro running member
        have different : running ≠ serial := by
          rintro rfl
          exact idle earlier present member
        exact (List.mem_erase_of_ne different).mpr (grown.loop.running running member)
    next => exact later.reactors other reactor' old found'

omit ran in
/-- A registration with the number of one that was in force in the beginning is that one. -/
theorem registration_unique {id : Nat} {before after : World σ}
    {reactor later : Reactor (Handler σ)} {fd fd' : Descriptor}
    {registration registration' : Registration (Handler σ)} (orderly : Orderly before after)
    (unseized : after.Unseized) (sound : before.Sound)
    (present : before.reactor? id = some reactor)
    (registered : reactor.loop.registrations.get? fd = some registration)
    (present' : after.reactor? id = some later)
    (registered' : later.loop.registrations.get? fd' = some registration')
    (same : registration'.serial = registration.serial) :
    fd' = fd ∧ registration' = registration := by
  have loop := (sound.reactors id reactor present).loop
  have old := (loop.registered fd registration registered).1
  rcases (orderly.kept unseized sound).2.reactors id later (sound.fresh id reactor present) present'
    with ⟨earlier, there, grown⟩
  rw [Option.some.inj (there.symm.trans present)] at grown
  have kept := grown.loop.kept fd' registration' registered' (same ▸ old)
  have place := loop.apart fd' fd registration' registration kept registered same
  rw [place] at kept
  exact ⟨place, Option.some.inj (kept.symm.trans registered)⟩

omit ran in
/-- The handler that is started is the one that the event was reported for. -/
theorem deliveryOf_reachesOwner {world : World σ} {id : Nat} {report : Report}
    {registration : Registration (Handler σ)} (awaits : Awaits id report world)
    (unseized : world.Unseized)
    (found : ((world.loop? id).bind fun loop => loop.addressee? report.event) =
      some registration) :
    (deliveryOf world id report registration).ReachesOwner := by
  rcases awaits unseized with ⟨sound, _, grown⟩
  rcases addressee_of_loop found with ⟨reactor, present, addressed⟩
  rcases grown reactor present with ⟨reported, grown, issued, registered⟩
  have present_loop : world.loop? id = some reactor.loop := by
    rw [loop?, present]
    rfl
  unfold Delivery.ReachesOwner deliveryOf
  dsimp only
  rw [present_loop, registered]
  exact fun few => grown.inForce?_of_addressee? (sound.reactors id reactor present).loop few issued
    addressed

omit ran in
/-- A handler starts in order if the registration that is served is the owner of the event. -/
theorem orderly_begun {world : World σ} {id : Nat} {report : Report}
    {registration : Registration (Handler σ)}
    (direct : (deliveryOf world id report registration).ReachesOwner) :
    Orderly world (begun world id report registration) := by
  have pushed : Orderly world (changeLoop id (busy registration.serial) world).2 :=
    orderly_changeLoop fun _ _ sound =>
      sound.kept_rerun fun _ member => List.mem_cons_of_mem _ member
  exact trans_of Orderly pushed (orderly_tell _ (by rintro _ ⟨⟩; exact direct) _)

theorem orderly_deliver {id : Nat} {report : Report} {world : World σ}
    (awaits : Awaits id report world) : Orderly world (deliver run id report world).2 := by
  have recalls : Recalls world (deliver run id report world).2 :=
    keeps_deliver recalls_of_changes (fun script => (ran script).mono fun _ _ => Orderly.recalls)
      id report world
  refine Orderly.of_sound recalls fun unseized sound => ?_
  have earlier := unseized.earlier recalls
  refine orderly_loopRules.deliver fun registration found => ?_
  rcases addressee_of_loop found with ⟨reactor, present, addressed⟩
  refine ⟨orderly_begun (deliveryOf_reachesOwner awaits earlier found),
    orderly_handle ran id _ _ registration.handler _, fun outcome after _ whole => ?_⟩
  refine orderly_finish whole fun reactor' present' => ?_
  rw [← Option.some.inj (present.symm.trans present')]
  exact (EventLoop.addressee?_eq_some addressed).2.2

end Dispatch

/-! ## Sessions -/

/-- A relation that is kept by all that is done with loops, and that no other change concerns,
is kept by every run of every script. -/
theorem LoopRules.session {R : World σ → World σ → Prop} {Known : World σ → Descriptor → Prop}
    {Waits : Nat → Dispatch.Report → World σ → Prop} [IsPreorder (World σ) R]
    (rules : LoopRules R Known) (reporting : Reporting R Waits)
    (elsewhere : ∀ {part : Part}, part ≠ .loops → ∀ before after, Changes part before after →
      R before after)
    (answers : ∀ request : Request, request.part? = some .loops → Keeps R (Script.answer request))
    (listens : ∀ reactor fd interest handler, Keeps R (Script.listenFor reactor fd interest handler))
    (schedules : ∀ reactor delay isRepeating callback,
      Keeps R (Dispatch.schedule reactor delay isRepeating callback))
    (delivers : ∀ {run : Script σ → Action σ Value}, (∀ script, Keeps R (run script)) →
      ∀ id report world, Waits id report world → R world (Dispatch.deliver run id report world).2)
    (engine : Engine σ) : Rules engine R where
  rest := elsewhere (by decide)
  runtimes := .of_changes (elsewhere (by decide))
  request := Script.keeps_answer elsewhere answers
  require run ran := Modules.keeps_require (elsewhere (by decide)) ran
  requireNative run ran := Modules.keeps_requireNative (elsewhere (by decide)) ran
  input chunk := rules.system (still_readToEnd stdin chunk)
  listen := listens
  schedule := schedules
  poll _ ran :=
    rules.poll reporting
      (fun _ _ _ => Dispatch.orderly_deliver fun script => (ran script).mono rules.orderly)
      (delivers ran) ran
  drive _ ran :=
    rules.drive reporting
      (fun _ _ _ => Dispatch.orderly_deliver fun script => (ran script).mono rules.orderly)
      (delivers ran) ran

/-- Every run of every script keeps the reactors in order. -/
theorem World.orderly_rules (engine : Engine σ) :
    Rules engine (Orderly : World σ → World σ → Prop) :=
  orderly_loopRules.session (orderly_loopRules.reporting fun _ _ orderly _ => orderly)
    orderly_of_changes orderly_answer Dispatch.orderly_listenFor Dispatch.orderly_schedule
    (fun ran _ _ _ => Dispatch.orderly_deliver ran) engine

theorem Session.opening?_start (session : Session σ) (fd : Descriptor) :
    session.start.kernel.opening? fd = if stdin = fd then some 0 else none := by
  change Option.map _ (if stdin = fd then some _ else none) = _
  split
  · rfl
  · rfl

theorem Session.sound_start (session : Session σ) (steps : Nat) :
    ({ session.start with steps := some steps } : World σ).Sound where
  numbered fd opening found := by
    change session.start.kernel.opening? fd = some opening at found
    rw [session.opening?_start] at found
    split at found
    · rw [← Option.some.inj found]
      exact Nat.one_pos
    · cases found
  fresh _ _ found := nomatch found
  reactors _ _ found := nomatch found
  apart _ _ _ _ _ found := nomatch found
  deliveries delivery member := absurd member List.not_mem_nil

theorem Session.sound_world (session : Session σ) (steps : Nat)
    (unseized : ∀ fd, .seized fd ∉ session.history steps) : (session.world steps).Sound :=
  ((session.keeps (World.orderly_rules session.engine) steps).kept unseized
    (session.sound_start steps)).1

/-- At every moment of every session in which nobody else closes or drives what a loop or a
timer owns, each handler that was started belonged to the registration that was in force for
the descriptor when its event was reported, and that was in force still.  An event whose
registration is not in force any more invokes nothing.  Tokens tell descriptors and
generations apart, and give the descriptor back. -/
theorem Session.events_reach_owner (session : Session σ) (steps : Nat)
    (unseized : ∀ fd, .seized fd ∉ session.history steps) :
    (∀ delivery, .handling delivery ∈ session.history steps → delivery.asked ≤ 2 ^ 32 →
      delivery.reported = some delivery.serial ∧ delivery.current = some delivery.serial) ∧
    (∀ (run : Script σ → Action σ Value) (world : World σ) (id : Nat) (report : Dispatch.Report),
      Dispatch.Awaits id report world → world.Unseized →
      (∀ loop, world.loop? id = some loop → loop.serial ≤ 2 ^ 32) →
      ((world.loop? id).bind fun loop =>
        loop.inForce? (Token.descriptor report.event.token)) ≠ report.registration →
      Dispatch.deliver run id report world = (.ok false, world)) ∧
    (∀ fd fd' generation generation', Token.make fd generation = Token.make fd' generation' →
      fd = fd' ∧ generation = generation') ∧
    ∀ fd generation, Token.descriptor (Token.make fd generation) = fd := by
  refine ⟨(session.sound_world steps unseized).deliveries, ?_, fun _ _ _ _ => Token.make_injective,
    Token.descriptor_make⟩
  intro run world id report awaits quiet few changed
  refine Dispatch.deliver_of_none (Option.eq_none_iff_forall_ne_some.mpr fun registration found => ?_)
  have direct := Dispatch.deliveryOf_reachesOwner awaits quiet found
  rcases Dispatch.addressee_of_loop found with ⟨reactor, present, _⟩
  have looped : world.loop? id = some reactor.loop := by
    rw [World.loop?, present]
    rfl
  unfold Delivery.ReachesOwner Dispatch.deliveryOf at direct
  dsimp only at direct
  rw [looped] at direct changed
  have same := direct (few reactor.loop looped)
  exact changed (same.2.trans same.1.symm)

/-- A session in which a handler replaces the registration of another descriptor, on the same
number, while the event for the old one is waiting in the batch. -/
def stale : Session Unit where
  engine := ⟨fun _ _ => .ok fun _ => .done .null, fun _ _ => .done .null, fun _ _ => .done .null⟩
  script :=
    .ask (.newReactor 8) fun _ => .ask .pipe fun first => .ask .pipe fun second =>
      .ask (.write first.2 [0]) fun _ => .ask (.write second.2 [0]) fun _ =>
      .listen 0 first.1 .readable
        (fun _ _ =>
          .ask (.unlisten 0 second.1) fun _ => .ask (.close second.1) fun _ =>
            .ask .pipe fun third => .ask (.write third.2 [0]) fun _ =>
            .listen 0 third.1 .readable
              (fun _ _ => .ask (.note "new owner") fun _ => .done .null)
              fun _ => .done .null)
        fun _ => .listen 0 second.1 .readable
          (fun _ _ => .ask (.note "old owner") fun _ => .done .null)
          fun _ => .poll 0 none fun _ => .done .null
  fuel := 2
  input := []
  waitLimit := none
  offers := []
  disk := .empty
  environment := .empty
  memory := ()

/-- There the number is taken by the third registration, and only the handler of the first,
to which its event belongs, was started. -/
theorem stale_reaches_nobody :
    ((stale.world 30).loop? 0).bind (fun loop => loop.inForce? 6) = some 2 ∧
      ∃ delivery, stale.history 30 = [.handling delivery] ∧ delivery.serial = 0 ∧
        delivery.reported = some 0 ∧ delivery.current = some 0 := by
  have history : stale.history 30 =
      [.handling ⟨0, 0, some 0, some 0, 2, 4294967300, 0⟩] := by decide +kernel
  have unseized : ∀ fd, .seized fd ∉ stale.history 30 := by
    intro fd member
    rw [history] at member
    cases List.mem_singleton.mp member
  have reaches := (stale.events_reach_owner 30 unseized).1 ⟨0, 0, some 0, some 0, 2, 4294967300, 0⟩
    (by rw [history]; exact List.mem_singleton.mpr rfl) (by decide)
  exact ⟨by decide +kernel, _, history, rfl, reaches⟩

end ScriptHost
