import ScriptHost.Proofs.Loop.Lifecycle

/-!
# The timetable of a world

In a run in which only the timers themselves touch the descriptors of timers, the
timers of every reactor stand as the history of the world says, and the descriptor
that a timer was started on is closed when the timer is gone.  What scripts ask for
besides the start of a timer leaves the live timers alone or releases them.
-/

namespace ScriptHost

open World Kernel

variable {σ α : Type} {part : Part} {event : Event}

namespace World

/-- Nobody else closed, drove or used what a loop or a timer owns. -/
def Undisturbed (world : World σ) : Prop :=
  world.Unseized ∧ ∀ fd, .meddled fd ∉ world.journal.toList

/-- How the timers of a world stand, according to its history. -/
structure Timed (world : World σ) : Prop where
  lawful : Lawful timely world.journal.toList
  known : ∀ id timer isRepeating opening,
    .scheduled id timer isRepeating opening ∈ world.journal.toList → id < world.fresh
  tracks : ∀ id reactor, world.reactor? id = some reactor →
    reactor.Tracks id world.journal.toList
  /-- An opening that was made for a timer is over when the timer is. -/
  closed : ∀ id timer isRepeating opening,
    .scheduled id timer isRepeating (some opening) ∈ world.journal.toList →
    opening < world.kernel.openings ∧
      ∀ fd, world.kernel.opening? fd = some opening →
        fd = timer.fd ∧ ∃ reactor, world.reactor? id = some reactor ∧
          Reactor.isLive reactor.timers timer = true

/-- What runs keep of the timers. -/
structure Timely (before after : World σ) : Prop where
  orderly : Orderly before after
  kept : after.Undisturbed → before.Sound → before.Timed → after.Timed

theorem Undisturbed.earlier {before after : World σ} (undisturbed : after.Undisturbed)
    (recalls : Recalls before after) : before.Undisturbed :=
  ⟨undisturbed.1.earlier recalls, fun fd member => undisturbed.2 fd (recalls.subset member)⟩

instance : IsPreorder (World σ) Timely where
  refl world := ⟨refl_of Orderly world, fun _ _ timed => timed⟩
  trans _ _ _ first second := by
    refine ⟨trans_of Orderly first.orderly second.orderly, fun undisturbed sound timed => ?_⟩
    have earlier := undisturbed.earlier second.orderly.recalls
    have middle := first.kept earlier sound timed
    exact second.kept undisturbed (first.orderly.kept earlier.1 sound).1 middle

/-- Only worlds need to be looked at whose timers stand as they should. -/
theorem Timely.of_timed {before after : World σ} (orderly : Orderly before after)
    (timely : after.Undisturbed → before.Sound → before.Timed → Timely before after) :
    Timely before after :=
  ⟨orderly, fun undisturbed sound timed =>
    (timely undisturbed sound timed).kept undisturbed sound timed⟩

/-- Only sound worlds need to be looked at. -/
theorem Timely.of_orderly {before after : World σ} (orderly : Orderly before after)
    (timely : before.Sound → Timely before after) : Timely before after :=
  .of_timed orderly fun _ sound _ => timely sound

/-! ## News -/

theorem timely_of_silent (silent : event.isSilent = true) (before : List Event) :
    timely before event := by
  cases event <;>
    first
    | exact absurd silent Bool.false_ne_true
    | exact trivial

theorem timing?_of_silent (silent : event.isSilent = true) (id : Nat) :
    event.timing? ≠ some id := by
  cases event <;>
    first
    | exact absurd silent Bool.false_ne_true
    | exact (Option.some_ne_none id).symm

theorem tracks_append {reactor : Reactor (Handler σ)} {id : Nat} {history news : List Event}
    (tracks : reactor.Tracks id history) (silent : ∀ event ∈ news, event.isSilent = true) :
    reactor.Tracks id (history ++ news) := by
  induction news generalizing history with
  | nil =>
      rw [List.append_nil]
      exact tracks
  | cons event rest ih =>
      have told := tracks.told (timing?_of_silent (silent event List.mem_cons_self) id)
      have whole := ih told fun other member => silent other (List.mem_cons_of_mem event member)
      rwa [List.append_assoc] at whole

/-- A world in which nothing happened to the loops and no news are about timers. -/
theorem Timed.of_same {before after : World σ} {news : List Event} (timed : before.Timed)
    (fresh : before.fresh ≤ after.fresh) (kernel : after.kernel = before.kernel)
    (reactors : ∀ id, after.reactor? id = before.reactor? id)
    (grown : after.journal.toList = before.journal.toList ++ news)
    (silent : ∀ event ∈ news, event.isSilent = true) : after.Timed := by
  have heard {id : Nat} {timer : TimerHandle} {isRepeating : Bool} {opening : Option Nat}
      (started : .scheduled id timer isRepeating opening ∈ after.journal.toList) :
      .scheduled id timer isRepeating opening ∈ before.journal.toList := by
    rw [grown] at started
    rcases List.mem_append.mp started with old | new
    · exact old
    · cases silent _ new
  constructor
  case lawful =>
      rw [grown]
      exact timed.lawful.append_free fun event member => timely_of_silent (silent event member)
  case known =>
      exact fun id timer isRepeating opening started =>
        Nat.lt_of_lt_of_le (timed.known id timer isRepeating opening (heard started)) fresh
  case tracks =>
      intro id reactor found
      rw [reactors] at found
      rw [grown]
      exact tracks_append (timed.tracks id reactor found) silent
  case closed =>
      intro id timer isRepeating opening started
      rw [kernel, reactors]
      exact timed.closed id timer isRepeating opening (heard started)

/-- News that start no timer and that the reactor they are about can answer for. -/
theorem Timed.told {world : World σ} (timed : world.Timed)
    (allowed : timely world.journal.toList event)
    (unstarted : ∀ id timer isRepeating opening,
      event ≠ .scheduled id timer isRepeating opening)
    (own : ∀ id reactor, event.timing? = some id → world.reactor? id = some reactor →
      reactor.Tracks id (world.journal.toList ++ [event])) : (tell event world).2.Timed := by
  have grown := journal_tell event world
  have heard {id : Nat} {timer : TimerHandle} {isRepeating : Bool} {opening : Option Nat}
      (started : .scheduled id timer isRepeating opening ∈ (tell event world).2.journal.toList) :
      .scheduled id timer isRepeating opening ∈ world.journal.toList := by
    rw [grown] at started
    exact mem_of_mem_concat started (Ne.symm (unstarted id timer isRepeating opening))
  constructor
  case lawful =>
      rw [grown]
      exact timed.lawful.concat allowed
  case known =>
      exact fun id timer isRepeating opening started =>
        timed.known id timer isRepeating opening (heard started)
  case tracks =>
      intro id reactor found
      rw [grown]
      by_cases about : event.timing? = some id
      · exact own id reactor about found
      · exact (timed.tracks id reactor found).told about
  case closed =>
      exact fun id timer isRepeating opening started =>
        timed.closed id timer isRepeating opening (heard started)

/-! ## The kernel and one of the reactors -/

/-- Whatever is closed or opened in a kernel, no opening comes back. -/
theorem Timed.spared {world : World σ} {kernel : Kernel} {touched : Descriptor → Prop}
    (timed : world.Timed) (spares : Spares touched world.kernel kernel) :
    ({ world with kernel } : World σ).Timed where
  lawful := timed.lawful
  known := timed.known
  tracks := timed.tracks
  closed id timer isRepeating opening started := by
    rcases timed.closed id timer isRepeating opening started with ⟨old, owner⟩
    refine ⟨Nat.lt_of_lt_of_le old spares.openings, fun fd found => ?_⟩
    rcases spares.reopened fd opening found with before | new
    · exact owner fd before
    · exact absurd old (Nat.not_lt_of_le new)

/-- Another state of a reactor, in which what was live is live or closed. -/
theorem Timed.settled {world : World σ} {id : Nat} {reactor : Reactor (Handler σ)}
    {state : Kernel × Reactor (Handler σ)} {touched : Descriptor → Prop} (timed : world.Timed)
    (found : world.reactor? id = some reactor) (spares : Spares touched world.kernel state.1)
    (tracks : state.2.Tracks id world.journal.toList)
    (lives : ∀ timer, Reactor.isLive reactor.timers timer = true →
      Reactor.isLive state.2.timers timer = true ∨ state.1.opening? timer.fd = none) :
    (world.settled id state).Timed where
  lawful := timed.lawful
  known := timed.known
  tracks other reactor' found' := by
    rw [reactor?_settled found] at found'
    split at found'
    next same =>
        subst same
        rw [← Option.some.inj found']
        exact tracks
    next => exact timed.tracks other reactor' found'
  closed other timer isRepeating opening started := by
    rcases (timed.spared spares).closed other timer isRepeating opening started with ⟨old, owner⟩
    refine ⟨old, fun fd opened => ?_⟩
    rcases owner fd opened with ⟨rfl, reactor', found', live⟩
    refine ⟨rfl, ?_⟩
    rw [reactor?_settled found]
    by_cases same : id = other
    · subst same
      rw [Option.some.inj (found'.symm.trans found)] at live
      rcases lives timer live with still | closed
      · exact ⟨state.2, if_pos rfl, still⟩
      · exact absurd (opened.symm.trans closed) (Option.some_ne_none opening)
    · exact ⟨reactor', (if_neg same).trans found', live⟩

theorem Timed.harmless {world : World σ} {id : Nat} {reactor : Reactor (Handler σ)}
    {state : Kernel × Reactor (Handler σ)} {touched : Descriptor → Prop} (timed : world.Timed)
    (found : world.reactor? id = some reactor) (spares : Spares touched world.kernel state.1)
    (harmless : Reactor.Harmless reactor state.2) : (world.settled id state).Timed := by
  refine timed.settled found spares ((timed.tracks id reactor found).harmless harmless) ?_
  intro timer live
  rw [Reactor.isLive_congr (harmless.live timer.fd)]
  exact .inl live

/-- A timer that is started and announced. -/
theorem Timed.started {world : World σ} {id : Nat} {reactor later : Reactor (Handler σ)}
    {after armed : Kernel} {fd : Descriptor} {isRepeating : Bool} {callback : Script σ}
    (timed : world.Timed) (sound : world.Sound) (found : world.reactor? id = some reactor)
    (opens : Opens world.kernel armed fd)
    (added : Reactor.onLoop (EventLoop.add fd .readable
      (.timer (reactor.nextTimer fd) isRepeating callback))
      (armed, reactor.entered fd isRepeating) = (.ok (), (after, later)))
    (spares : Spares (fun other => other = reactor.loop.poller.list) armed after) :
    (tell (.scheduled id (reactor.nextTimer fd) isRepeating (after.opening? fd))
      (world.settled id (after, later))).2.Timed := by
  have dead := (sound.reactors id reactor found).dead_of_free opens.free
  have unlisted := (sound.reactors id reactor found).ne_list_of_free opens.free
  have opening : after.opening? fd = some world.kernel.openings :=
    spares.opened fd _ unlisted opens.opened
  have whole : Spares (fun other => other = reactor.loop.poller.list) world.kernel after :=
    trans_of (Spares _) opens.spares spares
  have tracks := timed.tracks id reactor found
  have enrolled := Reactor.enrolled_of_add added
  have grown : (tell (.scheduled id (reactor.nextTimer fd) isRepeating (after.opening? fd))
      (world.settled id (after, later))).2.journal.toList = world.journal.toList ++
        [.scheduled id (reactor.nextTimer fd) isRepeating (after.opening? fd)] :=
    journal_tell _ _
  constructor
  case lawful =>
      rw [grown]
      refine timed.lawful.concat ⟨fun isRepeating' opening' before => ?_, _, opening⟩
      exact Nat.lt_irrefl _ (tracks.known _ _ _ before)
  case known =>
      intro other timer isRepeating' opening' started
      rw [grown] at started
      rcases List.mem_append.mp started with old | new
      · exact timed.known other timer isRepeating' opening' old
      · cases List.mem_singleton.mp new
        exact sound.fresh id reactor found
  case tracks =>
      intro other reactor' found'
      rw [grown]
      have view : (world.settled id (after, later)).reactor? other = some reactor' := found'
      rw [reactor?_settled found] at view
      split at view
      next here =>
          subst here
          rw [← Option.some.inj view]
          exact tracks.started timed.lawful dead enrolled
      next away =>
          refine (timed.tracks other reactor' view).told fun about => away ?_
          exact Option.some.inj about
  case closed =>
      intro other timer isRepeating' opening' started
      rw [grown] at started
      change opening' < after.openings ∧ ∀ fd', after.opening? fd' = some opening' → fd' = timer.fd ∧
        ∃ reactor', (world.settled id (after, later)).reactor? other = some reactor' ∧ _
      rcases List.mem_append.mp started with old | new
      · rcases (timed.spared whole).closed other timer isRepeating' opening' old with ⟨before, owner⟩
        refine ⟨before, fun fd' opened => ?_⟩
        rcases owner fd' opened with ⟨rfl, reactor', found', lived⟩
        refine ⟨rfl, ?_⟩
        rw [reactor?_settled found]
        by_cases here : id = other
        · subst here
          rw [Option.some.inj (found'.symm.trans found)] at lived
          exact ⟨later, if_pos rfl, enrolled.stays_live dead lived⟩
        · exact ⟨reactor', (if_neg here).trans found', lived⟩
      · rw [opening] at new
        cases List.mem_singleton.mp new
        have counted : world.kernel.openings < armed.openings := by
          rw [opens.openings]
          exact Nat.lt_succ_self _
        refine ⟨Nat.lt_of_lt_of_le counted spares.openings, fun fd' opened => ?_⟩
        have here : fd = fd' := by
          refine Decidable.byContradiction fun different => ?_
          rcases spares.reopened fd' _ opened with before | new
          · rw [opening?_eq, opens.others fd' different, ← opening?_eq] at before
            exact Nat.lt_irrefl _ (sound.numbered fd' _ before)
          · exact absurd counted (Nat.not_lt_of_le new)
        refine ⟨here.symm, later, ?_, enrolled.next_live⟩
        rw [reactor?_settled found, if_pos rfl]

/-! ## What runs keep of the timers -/

theorem isSilent_of_part (elsewhere : event.part ≠ .loops) : event.isSilent = true := by
  cases event <;>
    first
    | rfl
    | exact absurd rfl elsewhere

theorem timely_of_changes (other : part ≠ .loops) (before after : World σ)
    (changes : Changes part before after) : Timely before after := by
  refine ⟨orderly_of_changes other before after changes, fun _ _ timed => ?_⟩
  rcases changes.loops other with ⟨kernel, reactors⟩
  rcases changes.journal with ⟨news, grown, about⟩
  refine timed.of_same changes.fresh kernel (reactor?_congr reactors) grown fun event member => ?_
  rcases about event member with same | rest
  · exact isSilent_of_part (same ▸ other)
  · exact isSilent_of_part (by rw [rest]; exact Part.noConfusion)

theorem timely_tell (silent : event.isSilent = true)
    (direct : ∀ delivery, event = .handling delivery → delivery.ReachesOwner) :
    Keeps Timely (tell event : Action σ Unit) := by
  intro world
  refine ⟨orderly_tell event direct world, fun _ _ timed => ?_⟩
  refine timed.of_same (Nat.le_refl _) rfl (fun _ => rfl) (journal_tell event world)
    fun other member => ?_
  rw [List.mem_singleton.mp member]
  exact silent

theorem timely_kernel {world : World σ} {kernel : Kernel} {touched : Descriptor → Prop}
    (spares : Spares touched world.kernel kernel)
    (untouched : ∀ fd, touched fd → ∀ id reactor, world.reactor? id = some reactor →
      reactor.owns fd = false) : Timely world { world with kernel } :=
  ⟨orderly_kernel spares untouched, fun _ _ timed => timed.spared spares⟩

/-- A call on a reactor that leaves its live timers alone. -/
theorem timely_onReactor {id : Nat} {call : ReactorCall (Handler σ) α} {world : World σ}
    (upholds : Keeps Reactor.Upholds call)
    (harmless : ∀ reactor, world.reactor? id = some reactor → reactor.Sound world.kernel →
      Reactor.Harmless reactor (call (world.kernel, reactor)).2.2) :
    Timely world (onReactor id call world).2 := by
  refine ⟨orderly_onReactor id upholds world, fun _ sound timed => ?_⟩
  rcases onReactor_outcome id call world with same | ⟨reactor, found, same⟩ <;> rw [same]
  · exact timed
  · have sound' := sound.reactors id reactor found
    have kept := upholds (world.kernel, reactor) sound'
    exact timed.harmless found kept.spares (harmless reactor found sound')

theorem timely_changeLoop {world : World σ} {id : Nat}
    {f : EventLoop (Handler σ) → EventLoop (Handler σ)}
    (kept : ∀ reactor, world.reactor? id = some reactor → reactor.Sound world.kernel →
      Reactor.Kept (world.kernel, reactor) (world.kernel, { reactor with loop := f reactor.loop }))
    (same : ∀ loop, (f loop).registrations = loop.registrations)
    (running : ∀ loop, ∀ serial ∈ loop.running, serial ∈ (f loop).running) :
    Timely world (changeLoop id f world).2 := by
  refine ⟨orderly_changeLoop kept, fun _ _ timed => ?_⟩
  rcases changeLoop_outcome id f world with alone | ⟨reactor, found, settled⟩
  · rw [alone]
    exact timed
  · rw [settled]
    exact timed.harmless found (refl_of (Spares fun _ => False) world.kernel)
      (Reactor.harmless_of_registrations (same reactor.loop) (running reactor.loop))

/-! ## Coming and going -/

theorem timely_holdReactor (id : Nat) : Keeps Timely (holdReactor id : Action σ Unit) := by
  intro world
  refine ⟨orderly_holdReactor id world, fun _ _ timed => ?_⟩
  have view (other : Nat) : (holdReactor id world).2.reactor? other = world.reactor? other :=
    Shared.value?_hold world.reactors id other
  exact timed.of_same (Nat.le_refl _) rfl view (List.append_nil _).symm
    fun event member => absurd member List.not_mem_nil

/-- A reactor that goes has its timers' descriptors closed. -/
theorem timely_releaseReactor (id : Nat) :
    Keeps Timely (releaseReactor id : Action σ Unit) := by
  intro world
  refine ⟨orderly_releaseReactor id world, fun _ _ timed => ?_⟩
  have view (other : Nat) : (releaseReactor id world).2.reactor? other = _ :=
    Shared.value?_letGo world.reactors id other
  cases gone : (Shared.letGo world.reactors id).1 with
  | none =>
      have kernel := kernel_releaseReactor_of_none gone
      refine timed.of_same (Nat.le_refl _) kernel (fun other => ?_) (List.append_nil _).symm
        fun event member => absurd member List.not_mem_nil
      rw [view, gone, if_neg fun both => Bool.noConfusion both.2]
      rfl
  | some reactor =>
      have present : world.reactor? id = some reactor := Shared.value?_of_letGo gone
      have kernel := kernel_releaseReactor_of_some gone
      constructor
      case lawful => exact timed.lawful
      case known => exact timed.known
      case tracks =>
          exact fun other reactor' found =>
            timed.tracks other reactor' (reactor?_releaseReactor found).1
      case closed =>
          intro other timer isRepeating opening started
          have before := timed.spared (Reactor.spares_dismantle world.kernel reactor)
          rcases before.closed other timer isRepeating opening started with ⟨old, owner⟩
          rw [kernel]
          refine ⟨old, fun fd opened => ?_⟩
          rcases owner fd opened with ⟨rfl, reactor', found, live⟩
          have there : Shared.value? world.reactors other = some reactor' := found
          refine ⟨rfl, reactor', ?_, live⟩
          rw [view, if_neg, there]
          rintro ⟨rfl, _⟩
          -- The descriptor was among those that were closed with the reactor.
          rw [Option.some.inj (found.symm.trans present)] at live
          rcases Reactor.isLive_iff.mp live with ⟨_, entry⟩
          have closed := Reactor.opening?_closeAll (world.kernel.close reactor.loop.poller.list)
            reactor.timers.live.keys timer.fd
          rw [if_pos ((Table.mem_keys_iff _ _).mpr ⟨_, entry⟩)] at closed
          exact Option.some_ne_none opening (opened.symm.trans closed)

/-- A new reactor has no timers, and none were started on one of its number. -/
theorem Timed.joined {world : World σ} {kernel : Kernel} {poller : Poller}
    (timed : world.Timed) (spares : Spares (fun _ => False) world.kernel kernel) :
    (world.joined kernel poller).Timed := by
  have view := reactor?_joined world kernel poller
  have strange {timer : TimerHandle} {isRepeating : Bool} {opening : Option Nat} :
      .scheduled world.fresh timer isRepeating opening ∉ world.journal.toList :=
    fun started => Nat.lt_irrefl _ (timed.known _ _ _ _ started)
  have unheard {timer : TimerHandle} {time : Nat} :
      .ringing world.fresh timer time ∉ world.journal.toList := by
    intro rings
    rcases scheduled_of_ringing timed.lawful rings with ⟨_, _, started⟩
    exact strange started
  constructor
  case lawful => exact timed.lawful
  case known =>
      exact fun id timer isRepeating opening started =>
        Nat.lt_succ_of_lt (timed.known id timer isRepeating opening started)
  case tracks =>
      intro id reactor found
      have there := (view id).symm.trans found
      split at there
      next same =>
          subst same
          rw [← Option.some.inj there]
          constructor
          case registered => exact fun fd entry live => by cases live
          case live => exact fun fd registration timer isRepeating callback found => by cases found
          case announced => exact fun fd entry live => by cases live
          case known => exact fun timer isRepeating opening started => absurd started strange
          case fate => exact fun timer isRepeating opening started => absurd started strange
          case busy => exact fun fd registration timer callback time found => by cases found
          case finished => exact fun timer opening _ started => absurd started strange
      next => exact timed.tracks id reactor there
  case closed =>
      intro id timer isRepeating opening started
      rcases (timed.spared spares).closed id timer isRepeating opening started with ⟨old, owner⟩
      refine ⟨old, fun fd opened => ?_⟩
      rcases owner fd opened with ⟨same, reactor, found, live⟩
      refine ⟨same, reactor, (view id).trans ?_, live⟩
      rw [if_neg (Nat.ne_of_gt (timed.known id timer isRepeating _ started))]
      exact found

theorem timely_newReactor (capacity : Nat) :
    Keeps Timely (newReactor capacity : Action σ Nat) := by
  intro world
  refine ⟨orderly_newReactor capacity world, fun _ _ timed => ?_⟩
  rcases newReactor_outcome capacity world with
    ⟨kernel, still, same⟩ | ⟨kernel, fd, opens, _, same⟩ <;> rw [same]
  · exact timed.spared (still.spares : Spares (fun _ => False) _ _)
  · exact timed.joined opens.spares

/-! ## Releases -/

/-- A timer that is released after it was cancelled, or after its callback was started. -/
theorem Timed.released {world : World σ} {id : Nat} {reactor : Reactor (Handler σ)}
    {timer : TimerHandle} {kernel : Kernel} (timed : world.Timed)
    (found : world.reactor? id = some reactor) (sound : reactor.Sound kernel)
    (spares : Spares (fun fd => reactor.owns fd = true) world.kernel kernel)
    (live : Reactor.isLive reactor.timers timer = true)
    (fated : (∃ time, .ringing id timer time ∈ world.journal.toList) ∨
      .cancelled id timer ∈ world.journal.toList) :
    (world.settled id (Reactor.release timer (kernel, reactor)).2).Timed := by
  have released := Reactor.released_release live kernel
  have kept := Reactor.upholds_release timer (kernel, reactor) sound
  have whole := trans_of (Spares _) spares kept.spares
  refine timed.settled found whole ((timed.tracks id reactor found).released released live fated) ?_
  intro other alive
  by_cases same : timer.fd = other.fd
  · rw [← same]
    exact .inr (Reactor.opening?_release live kernel)
  · rw [Reactor.isLive_released released, if_neg same]
    exact .inl alive

end World

theorem Dispatch.timely_cancel (reactor : Nat) (timer : TimerHandle) :
    Keeps Timely (cancel reactor timer : Action σ Bool) := by
  intro world
  refine ⟨orderly_cancel reactor timer world, fun _ sound timed => ?_⟩
  unfold cancel
  rw [get_bind_eq]
  cases found : world.reactor? reactor with
  | none =>
      have gone : (onReactor reactor (Reactor.release timer) : Action σ Bool) world = _ :=
        onReactor_of_none _ found
      rw [Option.any_none, if_neg Bool.false_ne_true]
      dsimp only
      rw [gone]
      exact timed
  | some state =>
      rw [Option.any_some]
      cases live : Reactor.isLive state.timers timer with
      | false =>
          have same : (onReactor reactor (Reactor.release timer) : Action σ Bool) world = _ :=
            onReactor_of_some _ found
          rw [if_neg Bool.false_ne_true]
          dsimp only
          rw [same, ofExcept_world, Reactor.release_of_dead live]
          exact timed.harmless found (refl_of (Spares fun _ => False) world.kernel) (.refl state)
      | true =>
          have told : (tell (.cancelled reactor timer) world).2.Timed :=
            timed.told trivial nofun nofun
          have fated := mem_of_tell (.cancelled reactor timer) world
          have next : (onReactor reactor (Reactor.release timer) : Action σ Bool)
              (tell (.cancelled reactor timer) world).2 = _ :=
            onReactor_of_some _ found
          have quiet := refl_of (Spares fun fd => state.owns fd = true) world.kernel
          rw [if_pos rfl, tell_bind_eq]
          dsimp only
          rw [next, ofExcept_world]
          exact told.released found (sound.reactors reactor state found) quiet live (.inr fated)

namespace World

/-! ## Requests -/

/-- What is used by others has no timer, unless the journal is told. -/
theorem dead_of_undisturbed {world : World σ} {fd : Descriptor} {id : Nat}
    {reactor : Reactor (Handler σ)} (undisturbed : (world.noticeUse (some fd)).Undisturbed)
    (found : world.reactor? id = some reactor) : reactor.timers.live.get? fd = none := by
  have untimed : world.times fd = false := by
    apply Bool.eq_false_iff.mpr
    intro timed
    have told : world.noticeUse (some fd) = (tell (.meddled fd) world).2 := if_pos timed
    rw [told] at undisturbed
    exact undisturbed.2 fd (mem_of_tell (.meddled fd) world)
  rcases Option.map_eq_some_iff.mp found with ⟨shared, present, rfl⟩
  have none_times := List.any_eq_false.mp untimed shared (Table.mem_values present)
  exact Option.not_isSome_iff_eq_none.mp none_times

/-- A loop with nothing registered has no live timers. -/
theorem Timed.drained {world : World σ} {id : Nat} {loop : EventLoop (Handler σ)}
    (timed : world.Timed) (found : world.loop? id = some loop) (empty : loop.isEmpty = true) :
    timely world.journal.toList (.drained id) := by
  rcases Option.map_eq_some_iff.mp found with ⟨reactor, present, rfl⟩
  intro timer opening once
  have tracks := timed.tracks id reactor present
  rcases tracks.fate timer false opening once with live | gone
  · rcases Reactor.isLive_iff.mp live with ⟨_, entry⟩
    rcases tracks.registered timer.fd _ entry with ⟨registration, _, registered, _⟩
    have absent := Table.get?_of_size_zero (of_decide_eq_true empty) timer.fd
    exact absurd (registered.symm.trans absent) (Option.some_ne_none registration)
  · exact gone

theorem timely_loopRules :
    LoopRules (Timely : World σ → World σ → Prop) fun world fd =>
      ∀ id reactor, world.reactor? id = some reactor → reactor.timers.live.get? fd = none where
  orderly _ _ := Timely.orderly
  kernel _ _ _ := timely_kernel
  comes := timely_newReactor
  holds := timely_holdReactor
  letsGo := timely_releaseReactor
  hooks _ hook _ :=
    timely_changeLoop (fun _ _ sound => sound.kept_rehooked hook) (fun _ => rfl)
      fun _ _ member => member
  modifies _ fd interest world :=
    timely_onReactor (Reactor.upholds_onLoop (EventLoop.upholds_modify fd interest))
      fun reactor _ _ => Reactor.harmless_modify reactor fd interest world.kernel
  removes id fd world dead :=
    timely_onReactor (Reactor.upholds_onLoop (EventLoop.upholds_remove fd))
      fun reactor found _ => Reactor.harmless_remove (dead id reactor found) world.kernel
  cancels := Dispatch.timely_cancel
  notices _ := ⟨timely_tell rfl (by nofun), timely_tell rfl (by nofun)⟩
  tells event about :=
    timely_tell (isSilent_of_part (by rw [about]; exact Part.noConfusion))
      (by rintro _ rfl; cases about)
  drained world _ _ found empty :=
    ⟨orderly_tell _ (by nofun) world, fun _ _ timed =>
      timed.told (timed.drained found empty) nofun nofun⟩

theorem timely_answer (request : Request) (concerns : request.part? = some .loops) :
    Keeps Timely (Script.answer request : Action σ request.Reply) := by
  intro world
  have performed := request.perform_changes .loops concerns
    ((world.noticeSeizure request.seizes?).noticeUse request.uses?)
  refine Timely.of_timed (orderly_answer request concerns world) fun undisturbed _ _ => ?_
  refine timely_loopRules.answer request concerns world
    (fun _ seizes _ _ => owns_of_answer concerns undisturbed.1 seizes) fun fd uses id reactor found => ?_
  have earlier := undisturbed.earlier (recalls_of_changes _ _ performed)
  rw [reactor?_noticeUse] at found
  rw [uses] at earlier
  exact dead_of_undisturbed earlier found

end World

/-! ## Registrations and starts -/

namespace Dispatch

theorem timely_listenFor (reactor : Nat) (fd : Descriptor) (interest : Interest)
    (handler : Descriptor → Interest → Script σ) :
    Keeps Timely (Script.listenFor reactor fd interest handler) := by
  intro world
  have whole := orderly_listenFor reactor fd interest handler world
  have used : Timely world (world.noticeUse (some fd)) :=
    timely_loopRules.noticeUse world (some fd)
  have added : Keeps (Changes .loops) (onReactor reactor
      (Reactor.onLoop (EventLoop.add fd interest (.script handler))) : Action σ Unit) :=
    changes_onReactor reactor _
  have recalls := recalls_of_changes _ _ (added (world.noticeUse (some fd)))
  have same : (Script.listenFor reactor fd interest handler world).2 =
      (onReactor reactor (Reactor.onLoop (EventLoop.add fd interest (.script handler)))
        (world.noticeUse (some fd))).2 := by
    exact congrArg Prod.snd (bind_of_ok rfl)
  rw [same] at whole ⊢
  refine Timely.of_timed whole fun undisturbed _ _ => trans_of Timely used ?_
  refine timely_onReactor (Reactor.upholds_onLoop (EventLoop.upholds_add fd interest _))
    fun state found _ => Reactor.harmless_add ?_ interest handler _
  rw [reactor?_noticeUse] at found
  exact dead_of_undisturbed (undisturbed.earlier recalls) found

theorem timely_schedule (reactor : Nat) (delay : Span) (isRepeating : Bool)
    (callback : Script σ) : Keeps Timely (schedule reactor delay isRepeating callback) := by
  intro world
  refine ⟨orderly_schedule reactor delay isRepeating callback world, fun _ sound timed => ?_⟩
  cases found : world.reactor? reactor with
  | none =>
      rw [schedule_of_none found]
      exact timed
  | some state =>
      have sound' := sound.reactors reactor state found
      have upheld := Reactor.upholds_schedule
        (fun timer => Handler.timer timer isRepeating callback) delay isRepeating
        (world.kernel, state) sound'
      have outcome := Reactor.schedule_outcome
        (fun timer => Handler.timer timer isRepeating callback) delay isRepeating world.kernel state
      rcases ended : Reactor.schedule (fun timer => Handler.timer timer isRepeating callback) delay
        isRepeating (world.kernel, state) with ⟨error | timer, after, later⟩
      · rw [ended] at upheld
        rw [schedule_of_error found ended]
        exact timed.harmless found upheld.spares (Reactor.harmless_schedule sound' ended)
      · rw [ended] at outcome
        rw [schedule_of_ok found ended]
        cases outcome with
        | @started fd armed _ _ opens _ added =>
            have entered := sound'.entered opens isRepeating
            have spares := Reactor.spares_onLoop (EventLoop.upholds_add fd .readable
              (Handler.timer (state.nextTimer fd) isRepeating callback)) entered.sound
            rw [added] at spares
            exact (timed.started sound found opens added spares).told trivial nofun nofun

end Dispatch

end ScriptHost
