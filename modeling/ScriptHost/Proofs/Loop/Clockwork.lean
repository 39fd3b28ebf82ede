import ScriptHost.Proofs.Loop.Pacing

/-!
# The clockwork of a world

In a run in which nobody else closes or drives what a loop or a timer owns, the
clock does not go back and the timers of every reactor keep pace with it, whatever
scripts ask for: they may cancel timers, start others on the same descriptors, read
from them or take them out of the loop.
-/

namespace ScriptHost

open World Kernel

variable {σ α : Type} {part : Part} {event : Event} {id : Nat}

/-! ## Calls on a reactor -/

namespace Reactor

variable {reactor later : Reactor (Handler σ)} {kernel after : Kernel} {history : List Event}

/-- Starting a timer touches no other timer. -/
theorem spares_schedule (handlerFor : TimerHandle → Handler σ) (delay : Span) (isRepeating : Bool)
    (sound : reactor.Sound kernel) :
    Spares (fun fd => fd = reactor.loop.poller.list) kernel
      (schedule handlerFor delay isRepeating (kernel, reactor)).2.1 := by
  have outcome := schedule_outcome handlerFor delay isRepeating kernel reactor
  generalize schedule handlerFor delay isRepeating (kernel, reactor) = ended at outcome ⊢
  have added {fd : Descriptor} {armed after : Kernel} {later : Reactor (Handler σ)}
      {answer : Except Error Unit} (opens : Opens kernel armed fd)
      (ended : onLoop (EventLoop.add fd .readable (handlerFor (reactor.nextTimer fd)))
        (armed, reactor.entered fd isRepeating) = (answer, (after, later))) :
      Spares (fun fd => fd = reactor.loop.poller.list) kernel after := by
    have spares := spares_onLoop (EventLoop.upholds_add fd .readable
      (handlerFor (reactor.nextTimer fd))) (sound.entered opens isRepeating).sound
    rw [ended] at spares
    exact trans_of (Spares _) opens.spares spares
  have closed {fd : Descriptor} {middle : Kernel} (free : kernel.opening? fd = none)
      (spares : Spares (fun fd => fd = reactor.loop.poller.list) kernel middle) :
      Spares (fun fd => fd = reactor.loop.poller.list) kernel (middle.close fd) :=
    spares.andThen (spares_close middle fd) fun other same => .inr (same ▸ free)
  cases outcome with
  | uncreated still => exact still.spares
  | unarmed opens => exact closed opens.free opens.spares
  | unregistered opens ended => exact closed opens.free (added opens ended)
  | started opens _ ended => exact added opens ended

/-- Releasing a timer touches no other timer. -/
theorem spares_release {timer : TimerHandle} (live : isLive reactor.timers timer = true)
    (sound : reactor.Sound kernel) :
    Spares (fun fd => fd = reactor.loop.poller.list ∨ fd = timer.fd) kernel
      (release timer (kernel, reactor)).2.1 := by
  have removed := spares_onLoop (EventLoop.upholds_remove timer.fd)
    (sound.kept.struck timer.fd).sound
  rw [release_world live]
  exact trans_of (Spares _) (removed.weaken fun _ same => .inl same)
    ((spares_close _ timer.fd).weaken fun _ same => .inr same)

/-- A call on the loop that registers no timer. -/
theorem Paced.onLoop {call : LoopCall (Handler σ) α} (paced : reactor.Paced id kernel history)
    (sound : reactor.Sound kernel) (upholds : Keeps EventLoop.Upholds call)
    (fewer : Fewer reactor (Reactor.onLoop call (kernel, reactor)).2.2) :
    (Reactor.onLoop call (kernel, reactor)).2.2.Paced id (Reactor.onLoop call (kernel, reactor)).2.1
      history := by
  have kept := upholds_onLoop upholds (kernel, reactor) sound
  refine paced.fewer fewer (spares_onLoop upholds sound).ticks (fun fd same => ?_)
    (kept.sited paced.sited)
  rw [same, onLoop_timers]
  exact sound.list

theorem Paced.release (paced : reactor.Paced id kernel history) (sound : reactor.Sound kernel)
    (timer : TimerHandle) :
    (Reactor.release timer (kernel, reactor)).2.2.Paced id
      (Reactor.release timer (kernel, reactor)).2.1 history := by
  cases live : isLive reactor.timers timer with
  | false =>
      rw [release_of_dead live]
      exact paced
  | true =>
      have released := released_release live kernel
      have kept := upholds_release timer (kernel, reactor) sound
      refine paced.fewer released.fewer (spares_release live sound).ticks ?_ (kept.sited paced.sited)
      rintro fd (rfl | rfl)
      · have listed := kept.sound.list
        rwa [kept.grown.loop.poller] at listed
      · rw [released.live, if_pos rfl]

theorem Paced.settle (paced : reactor.Paced id kernel history) (sound : reactor.Sound kernel)
    (timer : TimerHandle) (isRepeating : Bool) (outcome : Except Error Unit) :
    (Reactor.settle timer isRepeating outcome (kernel, reactor)).2.2.Paced id
      (Reactor.settle timer isRepeating outcome (kernel, reactor)).2.1 history := by
  have still : Still kernel (Streams.read timer.fd 8 kernel).2 :=
    keeps_named _ (still_read timer.fd 8) kernel
  have drained := paced.spared (still.spares : Spares (fun _ => False) _ _)
    fun _ impossible => impossible.elim
  rw [settle_world]
  cases isRepeating with
  | true => exact drained
  | false => exact drained.release (sound.still still).sound timer

/-- A timer that could not be started. -/
theorem Paced.unscheduled {handlerFor : TimerHandle → Handler σ} {delay : Span} {isRepeating : Bool}
    {error : Error} (paced : reactor.Paced id kernel history) (sound : reactor.Sound kernel)
    (ended : schedule handlerFor delay isRepeating (kernel, reactor) =
      (.error error, (after, later))) : later.Paced id after history := by
  have spares := spares_schedule handlerFor delay isRepeating sound
  have kept := upholds_schedule handlerFor delay isRepeating (kernel, reactor) sound
  rw [ended] at spares kept
  refine paced.fewer (harmless_schedule sound ended).fewer spares.ticks (fun fd same => ?_)
    (kept.sited paced.sited)
  have listed := kept.sound.list
  rwa [kept.grown.loop.poller, ← same] at listed

/-- A timer that is started, as it is announced. -/
theorem Paced.started {fd : Descriptor} {armed : Kernel} {delay : Span} {isRepeating : Bool}
    {callback : Script σ} {opening : Option Nat} (paced : reactor.Paced id kernel history)
    (lawful : Lawful ScriptHost.paced history) (sound : reactor.Sound kernel)
    (opens : Opens kernel armed fd) (timed : Armed armed fd kernel.now delay isRepeating)
    (added : Reactor.onLoop (EventLoop.add fd .readable
      (.timer (reactor.nextTimer fd) isRepeating callback))
      (armed, reactor.entered fd isRepeating) = (.ok (), (after, later))) :
    later.Paced id after ((history ++ [.scheduled id (reactor.nextTimer fd) isRepeating opening]) ++
      [.armed id (reactor.nextTimer fd) isRepeating kernel.now delay]) := by
  have entered := sound.entered opens isRepeating
  have upholds := EventLoop.upholds_add fd .readable
    (Handler.timer (reactor.nextTimer fd) isRepeating callback)
  have spares := spares_onLoop upholds entered.sound
  have kept := upholds_onLoop upholds _ entered.sound
  rw [added] at spares kept
  have whole : Ticks (fun fd => fd = reactor.loop.poller.list) kernel after :=
    trans_of (Ticks _) opens.ticks.beside spares.ticks
  have enrolled := enrolled_of_add added
  have silent : (Event.scheduled id (reactor.nextTimer fd) isRepeating opening).pacing? = none := rfl
  -- The number of the timer is new, so it was not armed before.
  have unarmed (isRepeating' : Bool) (start : Nat) (delay' : Span) :
      .armed id (reactor.nextTimer fd) isRepeating' start delay' ∉
        history ++ [.scheduled id (reactor.nextTimer fd) isRepeating opening] := by
    intro before
    exact Nat.lt_irrefl _ (paced.known _ _ _ _ (mem_of_mem_concat before nofun))
  constructor
  case sited => exact kept.sited (entered.sited paced.sited)
  case seated =>
      intro other registration timer isRepeating' callback' found handles
      rcases enrolled.registered_cases found handles with ⟨here, rfl, -⟩ | ⟨away, found⟩
      · exact ⟨here, enrolled.next_live⟩
      · rcases paced.seated other registration timer isRepeating' callback' found handles with
          ⟨rfl, alive⟩
        exact ⟨rfl, enrolled.stays_live (sound.dead_of_free opens.free) alive⟩
  case known =>
      intro timer isRepeating' start delay' before
      rw [enrolled.ids]
      rcases List.mem_append.mp before with old | new
      · exact Nat.lt_succ_of_lt (paced.known timer isRepeating' start delay'
          (mem_of_mem_concat old nofun))
      · cases List.mem_singleton.mp new
        exact Nat.lt_succ_self _
  case inStep =>
      intro other registration timer isRepeating' callback' found handles
      rw [enrolled.running]
      rcases enrolled.registered_cases found handles with ⟨-, rfl, rfl⟩ | ⟨away, found⟩
      · exact InStep.fresh (lawful.concat trivial) unarmed timed spares.ticks
          (sound.ne_list_of_free opens.free)
      · have step := paced.inStep other registration timer isRepeating' callback' found handles
        rcases paced.live found handles with ⟨rfl, entry, alive⟩
        refine ((step.ticks whole fun listed => ?_).told (silent ▸ nofun)).told ?_
        · rw [listed, sound.list] at alive
          cases alive
        · rintro ⟨⟩
          exact away rfl

end Reactor

/-! ## One world -/

namespace World

/-- How the callbacks of a world keep pace with its clock. -/
structure Paced (world : World σ) : Prop where
  lawful : Lawful paced world.journal.toList
  known : ∀ id timer isRepeating start delay,
    .armed id timer isRepeating start delay ∈ world.journal.toList → id < world.fresh
  reactors : ∀ id reactor, world.reactor? id = some reactor →
    reactor.Paced id world.kernel world.journal.toList

/-- What runs keep of the pace. -/
structure Pacing (before after : World σ) : Prop where
  orderly : Orderly before after
  kept : after.Unseized → before.Sound → before.Paced →
    after.Paced ∧ before.kernel.now ≤ after.kernel.now

instance : IsPreorder (World σ) Pacing where
  refl world := ⟨refl_of Orderly world, fun _ _ paced => ⟨paced, Nat.le_refl _⟩⟩
  trans _ _ _ first second := by
    refine ⟨trans_of Orderly first.orderly second.orderly, fun unseized sound paced => ?_⟩
    have earlier := unseized.earlier second.orderly.recalls
    have middle := first.kept earlier sound paced
    have last := second.kept unseized (first.orderly.kept earlier sound).1 middle.1
    exact ⟨last.1, Nat.le_trans middle.2 last.2⟩

/-- Only worlds need to be looked at whose callbacks keep pace. -/
theorem Pacing.of_paced {before after : World σ} (orderly : Orderly before after)
    (pacing : after.Unseized → before.Sound → before.Paced → Pacing before after) :
    Pacing before after :=
  ⟨orderly, fun unseized sound paced =>
    (pacing unseized sound paced).kept unseized sound paced⟩

/-! ### News -/

theorem paced_of_free (free : event.pacing? = none) (before : List Event) : paced before event := by
  cases event <;>
    first
    | exact trivial
    | cases free

theorem pacing?_of_part (elsewhere : event.part ≠ .loops) : event.pacing? = none := by
  cases event <;>
    first
    | rfl
    | exact absurd rfl elsewhere

theorem paced_append {reactor : Reactor (Handler σ)} {kernel : Kernel} {history news : List Event}
    (paced : reactor.Paced id kernel history) (free : ∀ event ∈ news, event.pacing? = none) :
    reactor.Paced id kernel (history ++ news) := by
  induction news generalizing history with
  | nil =>
      rw [List.append_nil]
      exact paced
  | cons event rest ih =>
      have none := free event List.mem_cons_self
      have told : reactor.Paced id kernel (history ++ [event]) := by
        refine paced.told ?_ fun _ _ _ _ _ about => ?_
        · rintro timer isRepeating start delay rfl
          cases none
        · rw [none] at about
          cases about
      have whole := ih told fun other member => free other (List.mem_cons_of_mem event member)
      rwa [List.append_assoc] at whole

/-- A world in which nothing happened to the loops and no news are about the pace. -/
theorem Paced.of_same {before after : World σ} {news : List Event} (paced : before.Paced)
    (fresh : before.fresh ≤ after.fresh) (kernel : after.kernel = before.kernel)
    (reactors : ∀ id, after.reactor? id = before.reactor? id)
    (grown : after.journal.toList = before.journal.toList ++ news)
    (free : ∀ event ∈ news, event.pacing? = none) : after.Paced where
  lawful := by
    rw [grown]
    exact paced.lawful.append_free fun event member => paced_of_free (free event member)
  known id timer isRepeating start delay armed := by
    rw [grown] at armed
    rcases List.mem_append.mp armed with old | new
    · exact Nat.lt_of_lt_of_le (paced.known id timer isRepeating start delay old) fresh
    · cases free _ new
  reactors id reactor found := by
    rw [reactors] at found
    rw [grown, kernel]
    exact paced_append (paced.reactors id reactor found) free

/-- News that arm no timer, and leave those in step that they are about. -/
theorem Paced.told {world : World σ} (paced : world.Paced)
    (allowed : ScriptHost.paced world.journal.toList event)
    (unarmed : ∀ id timer isRepeating start delay, event ≠ .armed id timer isRepeating start delay)
    (own : ∀ id timer reactor fd registration isRepeating callback,
      event.pacing? = some (id, timer) → world.reactor? id = some reactor →
      reactor.loop.registrations.get? fd = some registration →
      registration.handler = .timer timer isRepeating callback →
      InStep (Unserved (registration.serial ∉ reactor.loop.running)) world.kernel
        (world.journal.toList ++ [event]) id timer) : (tell event world).2.Paced := by
  have grown := journal_tell event world
  constructor
  case lawful =>
      rw [grown]
      exact paced.lawful.concat allowed
  case known =>
      intro id timer isRepeating start delay armed
      rw [grown] at armed
      exact paced.known id timer isRepeating start delay
        (mem_of_mem_concat armed (Ne.symm (unarmed id timer isRepeating start delay)))
  case reactors =>
      intro id reactor found
      rw [grown]
      exact (paced.reactors id reactor found).told (unarmed id)
        fun fd registration timer isRepeating callback about found' =>
          own id timer reactor fd registration isRepeating callback about found found'

/-! ### The kernel and one of the reactors -/

theorem Paced.spared {world : World σ} {kernel : Kernel} {touched : Descriptor → Prop}
    (paced : world.Paced) (spares : Spares touched world.kernel kernel)
    (untouched : ∀ fd, touched fd → ∀ id reactor, world.reactor? id = some reactor →
      reactor.owns fd = false) : ({ world with kernel } : World σ).Paced where
  lawful := paced.lawful
  known := paced.known
  reactors id reactor found :=
    (paced.reactors id reactor found).spared spares fun fd here => untouched fd here id reactor found

/-- Another state of a reactor, which has touched only what it owns. -/
theorem Paced.settled {world : World σ} {reactor : Reactor (Handler σ)}
    {state : Kernel × Reactor (Handler σ)} (paced : world.Paced) (sound : world.Sound)
    (found : world.reactor? id = some reactor)
    (spares : Spares (fun fd => reactor.owns fd = true) world.kernel state.1)
    (again : state.2.Paced id state.1 world.journal.toList) : (world.settled id state).Paced where
  lawful := paced.lawful
  known := paced.known
  reactors other reactor' found' := by
    rw [reactor?_settled found] at found'
    split at found'
    next same =>
        subst same
        rw [← Option.some.inj found']
        exact again
    next different =>
        exact (paced.reactors other reactor' found').spared spares
          (sound.apart id other reactor reactor' different found found')

/-- A timer that is started and announced. -/
theorem Paced.started {world : World σ} {reactor : Reactor (Handler σ)}
    {state : Kernel × Reactor (Handler σ)} {timer : TimerHandle} {isRepeating : Bool} {delay : Span}
    (paced : world.Paced) (sound : world.Sound) (found : world.reactor? id = some reactor)
    (new : timer.id = reactor.timers.nextId)
    (spares : Spares (fun fd => reactor.owns fd = true) world.kernel state.1)
    (again : state.2.Paced id state.1 ((world.journal.toList ++
      [.scheduled id timer isRepeating (state.1.opening? timer.fd)]) ++
        [.armed id timer isRepeating world.kernel.now delay])) :
    (Dispatch.announced world id timer isRepeating delay state).Paced := by
  have grown : (Dispatch.announced world id timer isRepeating delay state).journal.toList =
      (world.journal.toList ++ [.scheduled id timer isRepeating (state.1.opening? timer.fd)]) ++
        [.armed id timer isRepeating world.kernel.now delay] :=
    (journal_tell _ _).trans (congrArg (fun history => history ++ _) (journal_tell _ _))
  have first : Lawful ScriptHost.paced (world.journal.toList ++
      [.scheduled id timer isRepeating (state.1.opening? timer.fd)]) :=
    paced.lawful.concat trivial
  have old {id' : Nat} {timer' : TimerHandle} {isRepeating' : Bool} {start : Nat} {delay' : Span}
      (armed : .armed id' timer' isRepeating' start delay' ∈ world.journal.toList ++
        [.scheduled id timer isRepeating (state.1.opening? timer.fd)]) :
      .armed id' timer' isRepeating' start delay' ∈ world.journal.toList :=
    mem_of_mem_concat armed nofun
  constructor
  case lawful =>
      rw [grown]
      refine first.concat fun isRepeating' start delay' before => ?_
      have earlier := (paced.reactors id reactor found).known timer isRepeating' start delay' (old before)
      exact Nat.ne_of_lt earlier new
  case known =>
      intro id' timer' isRepeating' start delay' armed
      rw [grown] at armed
      rcases List.mem_append.mp armed with before | now
      · exact paced.known id' timer' isRepeating' start delay' (old before)
      · cases List.mem_singleton.mp now
        exact sound.fresh id reactor found
  case reactors =>
      intro other reactor' found'
      have view : (world.settled id state).reactor? other = some reactor' := found'
      rw [grown]
      rw [reactor?_settled found] at view
      split at view
      next same =>
          subst same
          rw [← Option.some.inj view]
          exact again
      next different =>
          have spared := (paced.reactors other reactor' view).spared spares
            (sound.apart id other reactor reactor' different found view)
          have told : reactor'.Paced other state.1 (world.journal.toList ++
              [.scheduled id timer isRepeating (state.1.opening? timer.fd)]) :=
            paced_append spared fun event member => by rw [List.mem_singleton.mp member]; rfl
          refine told.told ?_ fun _ _ _ _ _ about => ?_
          · rintro timer' isRepeating' start delay' ⟨⟩
            exact different rfl
          · cases about
            exact absurd rfl different

/-! ## What runs keep of the pace -/

theorem pacing_of_changes (other : part ≠ .loops) (before after : World σ)
    (changes : Changes part before after) : Pacing before after := by
  refine ⟨orderly_of_changes other before after changes, fun _ _ paced => ?_⟩
  rcases changes.loops other with ⟨kernel, reactors⟩
  rcases changes.journal with ⟨news, grown, about⟩
  refine ⟨paced.of_same changes.fresh kernel (reactor?_congr reactors) grown fun event member => ?_,
    Nat.le_of_eq (congrArg Kernel.now kernel).symm⟩
  rcases about event member with same | rest
  · exact pacing?_of_part (same ▸ other)
  · exact pacing?_of_part (by rw [rest]; exact Part.noConfusion)

theorem pacing_tell (free : event.pacing? = none)
    (direct : ∀ delivery, event = .handling delivery → delivery.ReachesOwner) :
    Keeps Pacing (tell event : Action σ Unit) := by
  intro world
  refine ⟨orderly_tell event direct world, fun _ _ paced => ⟨?_, Nat.le_refl _⟩⟩
  refine paced.of_same (Nat.le_refl _) rfl (fun _ => rfl) (journal_tell event world)
    fun other member => ?_
  rw [List.mem_singleton.mp member]
  exact free

theorem pacing_kernel {world : World σ} {kernel : Kernel} {touched : Descriptor → Prop}
    (spares : Spares touched world.kernel kernel)
    (untouched : ∀ fd, touched fd → ∀ id reactor, world.reactor? id = some reactor →
      reactor.owns fd = false) : Pacing world { world with kernel } :=
  ⟨orderly_kernel spares untouched, fun _ _ paced =>
    ⟨paced.spared spares untouched, spares.ticks.now⟩⟩

/-- A call on a reactor that keeps its callbacks in pace. -/
theorem pacing_onReactor {call : ReactorCall (Handler σ) α} {world : World σ}
    (upholds : Keeps Reactor.Upholds call)
    (keeps : ∀ reactor history, reactor.Sound world.kernel → reactor.Paced id world.kernel history →
      (call (world.kernel, reactor)).2.2.Paced id (call (world.kernel, reactor)).2.1 history) :
    Pacing world (onReactor id call world).2 := by
  refine ⟨orderly_onReactor id upholds world, fun _ sound paced => ?_⟩
  rcases onReactor_outcome id call world with same | ⟨reactor, found, same⟩ <;> rw [same]
  · exact ⟨paced, Nat.le_refl _⟩
  · have sound' := sound.reactors id reactor found
    have kept := upholds (world.kernel, reactor) sound'
    exact ⟨paced.settled sound found kept.spares
      (keeps reactor _ sound' (paced.reactors id reactor found)), kept.spares.ticks.now⟩

theorem pacing_changeLoop {world : World σ} {f : EventLoop (Handler σ) → EventLoop (Handler σ)}
    (kept : ∀ reactor, world.reactor? id = some reactor → reactor.Sound world.kernel →
      Reactor.Kept (world.kernel, reactor) (world.kernel, { reactor with loop := f reactor.loop }))
    (same : ∀ loop, (f loop).registrations = loop.registrations)
    (running : ∀ loop, ∀ serial ∈ loop.running, serial ∈ (f loop).running) :
    Pacing world (changeLoop id f world).2 := by
  refine ⟨orderly_changeLoop kept, fun _ sound paced => ?_⟩
  rcases changeLoop_outcome id f world with alone | ⟨reactor, found, settled⟩
  · rw [alone]
    exact ⟨paced, Nat.le_refl _⟩
  · have quiet := refl_of (Ticks fun _ => False) world.kernel
    have paced' := paced.reactors id reactor found
    have fewer := Reactor.harmless_of_registrations (same reactor.loop) (running reactor.loop)
    rw [settled]
    refine ⟨paced.settled sound found (refl_of (Spares _) world.kernel) ?_, Nat.le_refl _⟩
    exact paced'.fewer fewer.fewer quiet (fun _ impossible => impossible.elim)
      ((kept reactor found (sound.reactors id reactor found)).sited paced'.sited)

/-! ## Coming and going -/

theorem pacing_holdReactor (id : Nat) : Keeps Pacing (holdReactor id : Action σ Unit) := by
  intro world
  refine ⟨orderly_holdReactor id world, fun _ _ paced => ⟨?_, Nat.le_refl _⟩⟩
  have view (other : Nat) : (holdReactor id world).2.reactor? other = world.reactor? other :=
    Shared.value?_hold world.reactors id other
  exact paced.of_same (Nat.le_refl _) rfl view (List.append_nil _).symm
    fun event member => absurd member List.not_mem_nil

/-- A reactor that goes closes only what it owns. -/
theorem pacing_releaseReactor (id : Nat) :
    Keeps Pacing (releaseReactor id : Action σ Unit) := by
  intro world
  refine ⟨orderly_releaseReactor id world, fun _ sound paced => ?_⟩
  cases gone : (Shared.letGo world.reactors id).1 with
  | none =>
      have kernel := kernel_releaseReactor_of_none gone
      refine ⟨⟨paced.lawful, paced.known, fun other reactor found => ?_⟩, Nat.le_of_eq ?_⟩
      · rw [kernel]
        exact paced.reactors other reactor (reactor?_releaseReactor found).1
      · rw [kernel]
  | some state =>
      have present : world.reactor? id = some state := Shared.value?_of_letGo gone
      have spares := Reactor.spares_dismantle world.kernel state
      have kernel := kernel_releaseReactor_of_some gone
      refine ⟨⟨paced.lawful, paced.known, fun other reactor found => ?_⟩, ?_⟩
      · rcases reactor?_releaseReactor found with ⟨found', different⟩
        rw [gone] at different
        rw [kernel]
        exact (paced.reactors other reactor found').spared spares
          (sound.apart id other state reactor (different rfl) present found')
      · rw [kernel]
        exact spares.ticks.now

/-- A new reactor has no timers, and none were armed on one of its number. -/
theorem Paced.joined {world : World σ} {kernel : Kernel} {fd : Descriptor} {capacity : Nat}
    (paced : world.Paced) (spares : Spares (fun _ => False) world.kernel kernel)
    (watches : kernel.WatchesOnly fd (fun _ => False)) :
    (world.joined kernel ⟨fd, capacity⟩).Paced where
  lawful := paced.lawful
  known id timer isRepeating start delay armed :=
    Nat.lt_succ_of_lt (paced.known id timer isRepeating start delay armed)
  reactors id reactor found := by
    rw [reactor?_joined] at found
    split at found
    next same =>
        subst same
        cases found
        constructor
        case sited =>
            rcases watches with ⟨opening, table, stands, none⟩
            exact ⟨opening, table, stands, fun fd watch watched => (none fd watch watched).elim⟩
        case seated => exact fun fd registration _ _ _ found => nomatch found
        case known =>
            exact fun _ _ _ _ armed => absurd (paced.known _ _ _ _ _ armed) (Nat.lt_irrefl _)
        case inStep => exact fun fd registration _ _ _ found => nomatch found
    next =>
        exact (paced.reactors id reactor found).spared spares fun _ impossible => impossible.elim

theorem pacing_newReactor (capacity : Nat) :
    Keeps Pacing (newReactor capacity : Action σ Nat) := by
  intro world
  refine ⟨orderly_newReactor capacity world, fun _ _ paced => ?_⟩
  rcases newReactor_outcome capacity world with
    ⟨kernel, still, same⟩ | ⟨kernel, fd, opens, watches, same⟩ <;> rw [same]
  · have spares : Spares (fun _ => False) world.kernel kernel := still.spares
    exact ⟨paced.spared spares fun _ impossible => impossible.elim, spares.ticks.now⟩
  · have spares : Spares (fun _ => False) world.kernel kernel := opens.spares
    exact ⟨paced.joined spares watches, spares.ticks.now⟩

/-! ## Requests -/

theorem pacing_remove (fd : Descriptor) (world : World σ) :
    Pacing world (onReactor id (Reactor.onLoop (EventLoop.remove fd)) world).2 := by
  refine pacing_onReactor (Reactor.upholds_onLoop (EventLoop.upholds_remove fd))
    fun reactor _ sound paced => ?_
  exact paced.onLoop sound (EventLoop.upholds_remove fd) (Reactor.fewer_remove reactor fd _)

theorem pacing_modify (fd : Descriptor) (interest : Interest) (world : World σ) :
    Pacing world (onReactor id (Reactor.onLoop (EventLoop.modify fd interest)) world).2 := by
  refine pacing_onReactor (Reactor.upholds_onLoop (EventLoop.upholds_modify fd interest))
    fun reactor _ sound paced => ?_
  exact paced.onLoop sound (EventLoop.upholds_modify fd interest)
    (Reactor.harmless_modify reactor fd interest _).fewer

end World

theorem Dispatch.pacing_cancel (reactor : Nat) (timer : TimerHandle) :
    Keeps Pacing (cancel reactor timer : Action σ Bool) := by
  refine Keeps.get.bind fun world => ?_
  have released : Keeps Pacing (onReactor reactor (Reactor.release timer) : Action σ Bool) :=
    fun world => pacing_onReactor (Reactor.upholds_release timer)
      fun state _ sound paced => paced.release sound timer
  have told : Keeps Pacing (tell (.cancelled reactor timer) : Action σ Unit) := pacing_tell rfl nofun
  exact Keeps.ite (told.bind fun _ => released) released

namespace World

theorem pacing_loopRules :
    LoopRules (Pacing : World σ → World σ → Prop) fun _ _ => True where
  orderly _ _ := Pacing.orderly
  kernel _ _ _ := pacing_kernel
  comes := pacing_newReactor
  holds := pacing_holdReactor
  letsGo := pacing_releaseReactor
  hooks _ hook _ :=
    pacing_changeLoop (fun _ _ sound => sound.kept_rehooked hook) (fun _ => rfl)
      fun _ _ member => member
  modifies _ fd interest := pacing_modify fd interest
  removes _ fd world _ := pacing_remove fd world
  cancels := Dispatch.pacing_cancel
  notices _ := ⟨pacing_tell rfl (by nofun), pacing_tell rfl (by nofun)⟩
  tells event about :=
    pacing_tell (pacing?_of_part (by rw [about]; exact Part.noConfusion))
      (by rintro _ rfl; cases about)
  drained world _ _ _ _ := pacing_tell rfl (by nofun) world

theorem pacing_answer (request : Request) (concerns : request.part? = some .loops) :
    Keeps Pacing (Script.answer request : Action σ request.Reply) := by
  intro world
  refine Pacing.of_paced (orderly_answer request concerns world) fun unseized _ _ => ?_
  exact pacing_loopRules.answer request concerns world
    (fun _ seizes _ _ => owns_of_answer concerns unseized seizes) fun _ _ => trivial

end World

/-! ## Registrations and starts -/

namespace Dispatch

theorem pacing_listenFor (reactor : Nat) (fd : Descriptor) (interest : Interest)
    (handler : Descriptor → Interest → Script σ) :
    Keeps Pacing (Script.listenFor reactor fd interest handler) := by
  refine Keeps.bind (fun world => pacing_loopRules.noticeUse world (some fd)) fun _ world => ?_
  refine pacing_onReactor (Reactor.upholds_onLoop (EventLoop.upholds_add fd interest _))
    fun state _ sound paced => ?_
  exact paced.onLoop sound (EventLoop.upholds_add fd interest _)
    (Reactor.fewer_add state fd interest handler _)

theorem pacing_schedule (reactor : Nat) (delay : Span) (isRepeating : Bool)
    (callback : Script σ) : Keeps Pacing (schedule reactor delay isRepeating callback) := by
  intro world
  refine ⟨orderly_schedule reactor delay isRepeating callback world, fun _ sound paced => ?_⟩
  cases found : world.reactor? reactor with
  | none =>
      rw [schedule_of_none found]
      exact ⟨paced, Nat.le_refl _⟩
  | some state =>
      have sound' := sound.reactors reactor state found
      have paced' := paced.reactors reactor state found
      have upheld := Reactor.upholds_schedule
        (fun timer => Handler.timer timer isRepeating callback) delay isRepeating
        (world.kernel, state) sound'
      have outcome := Reactor.schedule_outcome
        (fun timer => Handler.timer timer isRepeating callback) delay isRepeating world.kernel state
      rcases ended : Reactor.schedule (fun timer => Handler.timer timer isRepeating callback) delay
        isRepeating (world.kernel, state) with ⟨error | timer, after, later⟩
      · rw [ended] at upheld
        rw [schedule_of_error found ended]
        exact ⟨paced.settled sound found upheld.spares (paced'.unscheduled sound' ended),
          upheld.spares.ticks.now⟩
      · rw [ended] at outcome upheld
        rw [schedule_of_ok found ended]
        refine ⟨?_, upheld.spares.ticks.now⟩
        cases outcome with
        | @started fd armed _ _ opens timed added =>
            exact paced.started sound found rfl upheld.spares
              (paced'.started paced.lawful sound' opens timed added)

end Dispatch

end ScriptHost
