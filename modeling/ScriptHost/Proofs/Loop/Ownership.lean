import ScriptHost.Proofs.Loop.Registrations

/-!
# What reactors own

A reactor owns the readiness list of its loop and the descriptors of its live
timers.  All of them are open, and what a call on the reactor closes is its own or
was opened by the same call.  So reactors that own nothing in common stay out of
each other's way, whatever numbers new descriptors take.
-/

namespace ScriptHost.Reactor

open Kernel

variable {η α : Type} {kernel after : Kernel} {reactor : Reactor η} {fd : Descriptor}

theorem owns_iff (reactor : Reactor η) (fd : Descriptor) :
    reactor.owns fd = true ↔
      reactor.loop.poller.list = fd ∨ ∃ entry, reactor.timers.live.get? fd = some entry := by
  unfold owns times Table.contains
  rw [Bool.or_eq_true, decide_eq_true_iff, Option.isSome_iff_exists]

theorem owns_list (reactor : Reactor η) : reactor.owns reactor.loop.poller.list = true :=
  (owns_iff reactor _).mpr (.inl rfl)

/-- What holds of a reactor and the kernel between any two calls. -/
structure Sound (kernel : Kernel) (reactor : Reactor η) : Prop where
  loop : reactor.loop.Sound kernel
  opened : ∀ fd entry, reactor.timers.live.get? fd = some entry → kernel.opening? fd ≠ none
  list : reactor.timers.live.get? reactor.loop.poller.list = none

/-- What a reactor keeps from one time to a later one. -/
structure Grown (before after : Reactor η) : Prop where
  loop : before.loop.Grown after.loop
  ids : before.timers.nextId ≤ after.timers.nextId

instance : IsPreorder (Reactor η) Grown where
  refl _ := ⟨refl_of EventLoop.Grown _, Nat.le_refl _⟩
  trans _ _ _ first second :=
    ⟨trans_of EventLoop.Grown first.loop second.loop, Nat.le_trans first.ids second.ids⟩

/-- What a call leaves of a sound reactor: it is sound again, everything that it did not own
has been spared, and what it owns now it owned before or it was not open. -/
structure Kept (before after : Kernel × Reactor η) : Prop where
  sound : Sound after.1 after.2
  grown : Grown before.2 after.2
  spares : Spares (fun fd => before.2.owns fd = true) before.1 after.1
  owned : ∀ fd, after.2.owns fd = true →
    before.2.owns fd = true ∨ before.1.opening? fd = none
  sited : before.2.loop.Sited before.1 → after.2.loop.Sited after.1
  mirrors : before.2.loop.Mirrors before.1 → after.2.loop.Mirrors after.1

/-- A call on a sound reactor keeps it. -/
def Upholds (before after : Kernel × Reactor η) : Prop :=
  Sound before.1 before.2 → Kept before after

theorem Sound.opened_of_owns (sound : Sound kernel reactor) (owned : reactor.owns fd = true) :
    kernel.opening? fd ≠ none := by
  rcases (owns_iff reactor fd).mp owned with rfl | ⟨entry, live⟩
  · exact sound.loop.watching.opened
  · exact sound.opened fd entry live

/-- A descriptor that is free is neither that of a timer nor the list. -/
theorem Sound.dead_of_free (sound : Sound kernel reactor) (free : kernel.opening? fd = none) :
    reactor.timers.live.get? fd = none := by
  cases live : reactor.timers.live.get? fd with
  | none => rfl
  | some entry => exact absurd free (sound.opened fd entry live)

theorem Sound.ne_list_of_free (sound : Sound kernel reactor) (free : kernel.opening? fd = none) :
    fd ≠ reactor.loop.poller.list := by
  rintro rfl
  exact sound.loop.watching.opened free

theorem Kept.trans {before middle after : Kernel × Reactor η} (first : Kept before middle)
    (second : Kept middle after) : Kept before after where
  sound := second.sound
  grown := trans_of Grown first.grown second.grown
  spares := first.spares.andThen second.spares first.owned
  owned fd owned := by
    rcases second.owned fd owned with earlier | closed
    · exact first.owned fd earlier
    · by_cases mine : before.2.owns fd = true
      · exact .inl mine
      · refine .inr (Option.eq_none_iff_forall_ne_some.mpr fun opening found => ?_)
        exact Option.some_ne_none opening
          ((first.spares.opened fd opening mine found).symm.trans closed)
  sited := second.sited ∘ first.sited
  mirrors := second.mirrors ∘ first.mirrors

theorem Sound.kept (sound : Sound kernel reactor) : Kept (kernel, reactor) (kernel, reactor) :=
  ⟨sound, refl_of Grown reactor, refl_of (Spares _) kernel, fun _ owned => .inl owned, id, id⟩

instance : IsPreorder (Kernel × Reactor η) Upholds where
  refl _ sound := sound.kept
  trans _ _ _ first second sound := (first sound).trans (second (first sound).sound)

theorem Sound.still (sound : Sound kernel reactor) (still : Still kernel after) :
    Kept (kernel, reactor) (after, reactor) where
  sound :=
    { loop := sound.loop.still still
      opened := fun fd entry live => by
        rw [still.opening?]
        exact sound.opened fd entry live
      list := sound.list }
  grown := refl_of Grown reactor
  spares := still.spares
  owned _ owned := .inl owned
  sited sited := Watches.still sited still
  mirrors mirrors := mirrors.still still

/-- Closing what the reactor does not own any more, or has opened and not kept. -/
theorem Kept.close {before after : Kernel × Reactor η} (kept : Kept before after)
    (given_up : after.2.owns fd = false)
    (free : before.2.owns fd = true ∨ before.1.opening? fd = none) :
    Kept before (after.1.close fd, after.2) := by
  have spares := spares_close after.1 fd
  have different {other : Descriptor} (owned : after.2.owns other = true) : other ≠ fd := by
    rintro rfl
    exact Bool.noConfusion (owned.symm.trans given_up)
  have still_open {other : Descriptor} (owned : after.2.owns other = true) :
      (after.1.close fd).opening? other ≠ none := by
    rw [opening?_close, if_neg (Ne.symm (different owned))]
    exact kept.sound.opened_of_owns owned
  have listed := after.2.owns_list
  refine ⟨⟨?_, ?_, kept.sound.list⟩, kept.grown, ?_, kept.owned, fun sited => ?_,
    fun mirrors => (kept.mirrors mirrors).spared spares (different listed)⟩
  · exact { kept.sound.loop with
      watching := spares.watching _ _ (different listed) kept.sound.loop.watching }
  · intro other entry live
    exact still_open ((owns_iff after.2 other).mpr (.inr ⟨entry, live⟩))
  · refine kept.spares.andThen spares fun other same => ?_
    rw [same]
    exact free
  · exact spares.watching _ _ (different listed) (kept.sited sited)

/-- What others do to a kernel does not concern a reactor that they spare. -/
theorem Sound.spared {touched : Descriptor → Prop} (sound : Sound kernel reactor)
    (spares : Spares touched kernel after)
    (untouched : ∀ fd, touched fd → reactor.owns fd = false) : Sound after reactor := by
  have spared {other : Descriptor} (owned : reactor.owns other = true) : ¬touched other :=
    fun here => Bool.noConfusion (owned.symm.trans (untouched other here))
  refine ⟨?_, fun other entry live => ?_, sound.list⟩
  · have listed := spared reactor.owns_list
    exact { sound.loop with watching := spares.watching _ _ listed sound.loop.watching }
  · rcases Option.ne_none_iff_exists'.mp (sound.opened other entry live) with ⟨opening, found⟩
    have timed := spared ((owns_iff reactor other).mpr (.inr ⟨entry, live⟩))
    rw [spares.opened other opening timed found]
    exact Option.some_ne_none opening

theorem mirrors_spared {touched : Descriptor → Prop} (mirrors : reactor.loop.Mirrors kernel)
    (spares : Spares touched kernel after)
    (untouched : ∀ fd, touched fd → reactor.owns fd = false) : reactor.loop.Mirrors after := by
  refine mirrors.spared spares fun here => ?_
  exact Bool.noConfusion (reactor.owns_list.symm.trans (untouched _ here))

/-! ## Calls on the loop of a reactor -/

/-- What a call on the loop leaves is the reactor with what it leaves of the loop. -/
theorem onLoop_eq_iff {call : LoopCall η α} {answer : Except Error α} {later : Reactor η} :
    onLoop call (kernel, reactor) = (answer, (after, later)) ↔
      ∃ loop, call (kernel, reactor.loop) = (answer, (after, loop)) ∧
        later = { reactor with loop } := by
  unfold onLoop
  dsimp only
  constructor
  · rintro ⟨⟩
    exact ⟨_, rfl, rfl⟩
  · rintro ⟨loop, ended, rfl⟩
    rw [ended]

/-- A call on the loop touches nothing but the list of the loop. -/
theorem spares_onLoop {call : LoopCall η α} (upholds : Keeps EventLoop.Upholds call)
    (sound : Sound kernel reactor) :
    Spares (fun fd => fd = reactor.loop.poller.list) kernel (onLoop call (kernel, reactor)).2.1 :=
  (upholds (kernel, reactor.loop) sound.loop).spares

theorem upholds_onLoop {call : LoopCall η α} (upholds : Keeps EventLoop.Upholds call) :
    Keeps Upholds (onLoop call) := by
  rintro ⟨kernel, reactor⟩ sound
  rcases ended : call (kernel, reactor.loop) with ⟨answer, after, loop⟩
  have kept := upholds (kernel, reactor.loop) sound.loop
  rw [ended] at kept
  rcases kept with ⟨sound', grown, spares, sited, mirrors⟩
  unfold onLoop
  dsimp only
  rw [ended]
  have same_list : loop.poller.list = reactor.loop.poller.list := congrArg Poller.list grown.poller
  have live_elsewhere {fd : Descriptor} {entry : LiveTimer}
      (live : reactor.timers.live.get? fd = some entry) : fd ≠ reactor.loop.poller.list := by
    rintro rfl
    exact Option.some_ne_none entry (live.symm.trans sound.list)
  constructor
  case sound =>
      refine ⟨sound', fun fd entry live => ?_, ?_⟩
      · rcases Option.ne_none_iff_exists'.mp (sound.opened fd entry live) with ⟨opening, found⟩
        rw [spares.opened fd opening (live_elsewhere live) found]
        exact Option.some_ne_none opening
      · change reactor.timers.live.get? loop.poller.list = none
        rw [same_list]
        exact sound.list
  case grown => exact ⟨grown, Nat.le_refl _⟩
  case spares =>
      refine spares.weaken fun fd same => (owns_iff reactor fd).mpr (.inl same.symm)
  case owned =>
      intro fd owned
      rcases (owns_iff _ fd).mp owned with same | live
      · exact .inl ((owns_iff reactor fd).mpr (.inl (same_list.symm.trans same)))
      · exact .inl ((owns_iff reactor fd).mpr (.inr live))
  case sited => exact sited
  case mirrors => exact mirrors

/-! ## Calls on timers -/

/-- The reactor with a timer in its table. -/
def entered (reactor : Reactor η) (fd : Descriptor) (isRepeating : Bool) : Reactor η :=
  { reactor with
    timers :=
      ⟨reactor.timers.live.insert fd ⟨reactor.timers.nextId, isRepeating⟩,
        reactor.timers.nextId + 1⟩ }

/-- The reactor without the timer on a descriptor. -/
def struck (reactor : Reactor η) (fd : Descriptor) : Reactor η :=
  { reactor with timers := { reactor.timers with live := reactor.timers.live.erase fd } }

/-- The number that the next timer gets. -/
def nextTimer (reactor : Reactor η) (fd : Descriptor) : TimerHandle :=
  ⟨fd, reactor.timers.nextId⟩

section Calls

variable {β : Type} {cause : SystemError} {error : Error} {reactor' : Reactor η}

theorem below_of_ok {call : SystemCall α} {value : α} (ended : call kernel = (.ok value, after)) :
    below call (kernel, reactor) = (.ok value, (after, reactor)) := by
  simp only [below, ended]

theorem below_of_error {call : SystemCall α} (ended : call kernel = (.error cause, after)) :
    below call (kernel, reactor) = (.error (.system cause), (after, reactor)) := by
  simp only [below, ended]

theorem named_of_ok {syscall : String} {call : KernelCall α} {value : α}
    (ended : call kernel = (.ok value, after)) :
    named syscall call kernel = (.ok value, after) := by
  simp only [named, ended]

theorem ok_of_named {syscall : String} {call : KernelCall α} {value : α}
    (ended : named syscall call kernel = (.ok value, after)) : call kernel = (.ok value, after) := by
  unfold named at ended
  split at ended
  next called =>
      cases ended
      exact called
  next => cases ended

theorem named_of_error {syscall : String} {call : KernelCall α} {errno : Int}
    (ended : call kernel = (.error errno, after)) :
    named syscall call kernel = (.error ⟨syscall, errno⟩, after) := by
  simp only [named, ended]

theorem onFailure_of_ok {call : ReactorCall η α} {undo : ReactorCall η Unit} {value : α}
    {state : Kernel × Reactor η} (ended : call (kernel, reactor) = (.ok value, state)) :
    onFailure call undo (kernel, reactor) = (.ok value, state) := by
  unfold onFailure afterwards
  rw [ended]
  rfl

theorem onFailure_of_error {call : ReactorCall η α} {undo : ReactorCall η Unit}
    {state state' : Kernel × Reactor η} (ended : call (kernel, reactor) = (.error error, state))
    (undone : undo state = (.ok (), state')) :
    onFailure call undo (kernel, reactor) = (.error error, state') := by
  unfold onFailure afterwards
  rw [ended]
  dsimp only
  rw [undone]

end Calls

theorem toNanos_zero : Span.zero.toNanos = 0 :=
  Nat.zero_mul nanosPerSecond

theorem eq_zero_of_toNanos {span : Span} (nothing : span.toNanos = 0) : span = .zero := by
  rcases span with ⟨seconds, nanos⟩
  rcases Nat.add_eq_zero_iff.mp nothing with ⟨whole, part⟩
  rcases Nat.mul_eq_zero.mp whole with none | impossible
  · dsimp only at none part
    rw [none, part]
    rfl
  · exact absurd impossible (by decide)

theorem armingDelay_toNanos (delay : Span) :
    (armingDelay delay).toNanos = max delay.toNanos 1 := by
  unfold armingDelay
  split
  next none =>
      rw [none, toNanos_zero]
      exact congrArg (fun whole => whole + 1) (Nat.zero_mul nanosPerSecond)
  next some =>
      refine (Nat.max_eq_left (Nat.one_le_iff_ne_zero.mpr fun nothing => some ?_)).symm
      exact eq_zero_of_toNanos nothing

/-- A descriptor is that of a timer that was armed at a time and has not expired yet. -/
def Armed (kernel : Kernel) (fd : Descriptor) (start : Nat) (delay : Span) (isRepeating : Bool) :
    Prop :=
  ∃ timer, kernel.resource? fd = some (.timer timer) ∧
    timer.Expired start (max delay.toNanos 1) isRepeating kernel.now 0

/-- Arming a timer fails, or it is armed from now on. -/
theorem arm_outcome (fd : Descriptor) (delay : Span) (isRepeating : Bool) (kernel : Kernel) :
    (∃ cause after, arm fd delay isRepeating kernel = (.error cause, after) ∧ Still kernel after) ∨
    ∃ after, arm fd delay isRepeating kernel = (.ok (), after) ∧ Stands kernel after ∧
      Ticks (fun other => other = fd) kernel after ∧
      Armed after fd kernel.now delay isRepeating := by
  rcases setTimer_outcome fd (armingDelay delay)
    (if isRepeating then armingDelay delay else .zero) kernel with
    ⟨errno, after, ended, still⟩ | ⟨after, ended, stands, now, ticks, timer, found, next, again, none⟩
  · exact .inl ⟨_, after, named_of_error ended, still⟩
  · refine .inr ⟨after, named_of_ok ended, stands, ticks, timer, found, ?_, ?_, ?_, ?_⟩
    · rw [again, ← armingDelay_toNanos]
      cases isRepeating with
      | true => rfl
      | false => exact toNanos_zero
    · rw [now, Nat.zero_mul]
      exact Nat.le_refl _
    · rw [Nat.zero_add, Nat.one_mul, ← armingDelay_toNanos]
      exact next
    · exact fun some => absurd some (Nat.not_lt_of_le (Nat.le_of_eq none))

/-- A timer that was made and then armed. -/
theorem opens_of_arm {fd : Descriptor} {delay : Span} {isRepeating : Bool} {created armed : Kernel}
    (made : createTimer kernel = (.ok fd, created))
    (set : arm fd delay isRepeating created = (.ok (), armed)) :
    Opens kernel armed fd ∧ Armed armed fd kernel.now delay isRepeating := by
  rcases createTimer_of_ok made with ⟨opens, now⟩
  rcases arm_outcome fd delay isRepeating created with
    ⟨_, _, ended, _⟩ | ⟨_, ended, stands, ticks, timed⟩
  · cases ended.symm.trans set
  · cases ended.symm.trans set
    rw [now] at timed
    exact ⟨opens.andThen stands ticks, timed⟩

/-- What starting a timer comes to, call by call. -/
inductive Started (handlerFor : TimerHandle → η) (delay : Span) (isRepeating : Bool)
    (kernel : Kernel) (reactor : Reactor η) :
    Except Error TimerHandle × (Kernel × Reactor η) → Prop where
  /-- No descriptor is made for it. -/
  | unmade {errno : Int} {error : Error} {after : Kernel}
      (failed : createTimer kernel = (.error errno, after)) :
      Started handlerFor delay isRepeating kernel reactor (.error error, (after, reactor))
  /-- The descriptor is not armed. -/
  | unarmed {fd : Descriptor} {cause : SystemError} {error : Error} {created armed : Kernel}
      (made : createTimer kernel = (.ok fd, created))
      (failed : arm fd delay isRepeating created = (.error cause, armed)) :
      Started handlerFor delay isRepeating kernel reactor (.error error, (armed.close fd, reactor))
  /-- The descriptor is not registered. -/
  | unregistered {fd : Descriptor} {error : Error} {created armed failed : Kernel}
      {later : Reactor η} (made : createTimer kernel = (.ok fd, created))
      (set : arm fd delay isRepeating created = (.ok (), armed))
      (refused : onLoop (EventLoop.add fd .readable (handlerFor (reactor.nextTimer fd)))
        (armed, reactor.entered fd isRepeating) = (.error error, (failed, later))) :
      Started handlerFor delay isRepeating kernel reactor
        (.error error, (failed.close fd, later.struck fd))
  /-- It is started. -/
  | started {fd : Descriptor} {created armed after : Kernel} {later : Reactor η}
      (made : createTimer kernel = (.ok fd, created))
      (set : arm fd delay isRepeating created = (.ok (), armed))
      (added : onLoop (EventLoop.add fd .readable (handlerFor (reactor.nextTimer fd)))
        (armed, reactor.entered fd isRepeating) = (.ok (), (after, later))) :
      Started handlerFor delay isRepeating kernel reactor
        (.ok (reactor.nextTimer fd), (after, later))

section Starts

variable {handlerFor : TimerHandle → η} {delay : Span} {isRepeating : Bool} {created armed : Kernel}

theorem schedule_of_unmade {errno : Int} (failed : createTimer kernel = (.error errno, after)) :
    schedule handlerFor delay isRepeating (kernel, reactor) =
      (.error (.system ⟨"timerfd_create", errno⟩), (after, reactor)) := by
  unfold schedule
  exact bind_of_error (below_of_error (named_of_error failed))

theorem schedule_of_unarmed {cause : SystemError} (made : createTimer kernel = (.ok fd, created))
    (failed : arm fd delay isRepeating created = (.error cause, armed)) :
    schedule handlerFor delay isRepeating (kernel, reactor) =
      (.error (.system cause), (armed.close fd, reactor)) := by
  have closed : closeDescriptor fd (armed, reactor) = (.ok (), (armed.close fd, reactor)) := rfl
  unfold schedule
  rw [bind_of_ok (below_of_ok (named_of_ok made))]
  exact bind_of_error (onFailure_of_error (below_of_error failed) closed)

/-- Once its descriptor is armed, a timer is entered and registered. -/
theorem schedule_of_armed (made : createTimer kernel = (.ok fd, created))
    (set : arm fd delay isRepeating created = (.ok (), armed)) :
    schedule handlerFor delay isRepeating (kernel, reactor) =
      (do
        onFailure (onLoop (EventLoop.add fd .readable (handlerFor (reactor.nextTimer fd)))) do
          changeTimers fun timers => { timers with live := timers.live.erase fd }
          closeDescriptor fd
        pure (reactor.nextTimer fd) : ReactorCall η TimerHandle)
        (armed, reactor.entered fd isRepeating) := by
  have taken : timersNow (armed, reactor) = (.ok reactor.timers, (armed, reactor)) := rfl
  have entry : changeTimers (fun timers =>
      ⟨timers.live.insert fd ⟨reactor.timers.nextId, isRepeating⟩, reactor.timers.nextId + 1⟩)
      (armed, reactor) = (.ok (), (armed, reactor.entered fd isRepeating)) := rfl
  unfold schedule
  rw [bind_of_ok (below_of_ok (named_of_ok made)), bind_of_ok (onFailure_of_ok (below_of_ok set)),
    bind_of_ok taken, bind_of_ok entry]
  rfl

theorem schedule_of_refused {error : Error} {failed : Kernel} {later : Reactor η}
    (made : createTimer kernel = (.ok fd, created))
    (set : arm fd delay isRepeating created = (.ok (), armed))
    (refused : onLoop (EventLoop.add fd .readable (handlerFor (reactor.nextTimer fd)))
      (armed, reactor.entered fd isRepeating) = (.error error, (failed, later))) :
    schedule handlerFor delay isRepeating (kernel, reactor) =
      (.error error, (failed.close fd, later.struck fd)) := by
  have undone : (do
      changeTimers fun timers => { timers with live := timers.live.erase fd }
      closeDescriptor fd : ReactorCall η Unit) (failed, later) =
      (.ok (), (failed.close fd, later.struck fd)) := rfl
  rw [schedule_of_armed made set]
  exact bind_of_error (onFailure_of_error refused undone)

theorem schedule_of_added {later : Reactor η} (made : createTimer kernel = (.ok fd, created))
    (set : arm fd delay isRepeating created = (.ok (), armed))
    (added : onLoop (EventLoop.add fd .readable (handlerFor (reactor.nextTimer fd)))
      (armed, reactor.entered fd isRepeating) = (.ok (), (after, later))) :
    schedule handlerFor delay isRepeating (kernel, reactor) =
      (.ok (reactor.nextTimer fd), (after, later)) := by
  rw [schedule_of_armed made set]
  exact bind_of_ok (onFailure_of_ok added)

end Starts

theorem started_schedule (handlerFor : TimerHandle → η) (delay : Span) (isRepeating : Bool)
    (kernel : Kernel) (reactor : Reactor η) :
    Started handlerFor delay isRepeating kernel reactor
      (schedule handlerFor delay isRepeating (kernel, reactor)) := by
  rcases made : createTimer kernel with ⟨errno | fd, created⟩
  · rw [schedule_of_unmade made]
    exact .unmade made
  · rcases set : arm fd delay isRepeating created with ⟨cause | _, armed⟩
    · rw [schedule_of_unarmed made set]
      exact .unarmed made set
    · rcases added : onLoop (EventLoop.add fd .readable (handlerFor (reactor.nextTimer fd)))
        (armed, reactor.entered fd isRepeating) with ⟨error | _, failed, later⟩
      · rw [schedule_of_refused made set added]
        exact .unregistered made set added
      · rw [schedule_of_added made set added]
        exact .started made set added

/-- What starting a timer can come to. -/
inductive Scheduling (handlerFor : TimerHandle → η) (delay : Span) (isRepeating : Bool)
    (kernel : Kernel) (reactor : Reactor η) : Except Error TimerHandle × (Kernel × Reactor η) → Prop where
  /-- There is no descriptor for it. -/
  | uncreated {error after} (still : Still kernel after) :
      Scheduling handlerFor delay isRepeating kernel reactor (.error error, (after, reactor))
  /-- Its descriptor cannot be armed. -/
  | unarmed {error fd armed} (opens : Opens kernel armed fd) :
      Scheduling handlerFor delay isRepeating kernel reactor (.error error, (armed.close fd, reactor))
  /-- Its descriptor cannot be registered. -/
  | unregistered {error fd armed failed later} (opens : Opens kernel armed fd)
      (added : onLoop (EventLoop.add fd .readable (handlerFor (reactor.nextTimer fd)))
        (armed, reactor.entered fd isRepeating) = (.error error, (failed, later))) :
      Scheduling handlerFor delay isRepeating kernel reactor
        (.error error, (failed.close fd, later.struck fd))
  /-- It is started. -/
  | started {fd armed after later} (opens : Opens kernel armed fd)
      (timed : Armed armed fd kernel.now delay isRepeating)
      (added : onLoop (EventLoop.add fd .readable (handlerFor (reactor.nextTimer fd)))
        (armed, reactor.entered fd isRepeating) = (.ok (), (after, later))) :
      Scheduling handlerFor delay isRepeating kernel reactor
        (.ok (reactor.nextTimer fd), (after, later))

theorem schedule_outcome (handlerFor : TimerHandle → η) (delay : Span) (isRepeating : Bool)
    (kernel : Kernel) (reactor : Reactor η) :
    Scheduling handlerFor delay isRepeating kernel reactor
      (schedule handlerFor delay isRepeating (kernel, reactor)) := by
  have calls := started_schedule handlerFor delay isRepeating kernel reactor
  generalize schedule handlerFor delay isRepeating (kernel, reactor) = ended at calls ⊢
  cases calls with
  | unmade failed => exact .uncreated (createTimer_of_error failed)
  | unarmed made failed =>
      rcases createTimer_of_ok made with ⟨opens, _⟩
      rcases arm_outcome _ delay isRepeating _ with ⟨_, _, ended, still⟩ | ⟨_, ended, _⟩
      · cases ended.symm.trans failed
        exact .unarmed (opens.andThen still.toStands still.ticks.beside)
      · cases ended.symm.trans failed
  | unregistered made set refused => exact .unregistered (opens_of_arm made set).1 refused
  | started made set added =>
      rcases opens_of_arm made set with ⟨opens, timed⟩
      exact .started opens timed added

/-- Releasing a live timer is taking it out of both tables and closing its descriptor, whether
the kernel forgets it or not. -/
theorem release_of_live {timer : TimerHandle} (live : isLive reactor.timers timer = true)
    (kernel : Kernel) :
    release timer (kernel, reactor) =
      let removed := onLoop (EventLoop.remove timer.fd) (kernel, reactor.struck timer.fd)
      (removed.1.map fun _ => true, (removed.2.1.close timer.fd, removed.2.2)) := by
  have taken : timersNow (kernel, reactor) = (.ok reactor.timers, (kernel, reactor)) := rfl
  have gone : changeTimers (fun timers => { timers with live := timers.live.erase timer.fd })
      (kernel, reactor) = (.ok (), (kernel, reactor.struck timer.fd)) := rfl
  unfold release
  rw [bind_of_ok taken, if_pos live, bind_of_ok gone]
  rcases removed : onLoop (EventLoop.remove timer.fd) (kernel, reactor.struck timer.fd) with
    ⟨error | answer, after, later⟩
  · have closed : afterwards (do let _ ← onLoop (EventLoop.remove timer.fd))
        (fun _ => closeDescriptor timer.fd) (kernel, reactor.struck timer.fd) =
        (.error error, (after.close timer.fd, later)) := by
      unfold afterwards
      rw [bind_of_error removed]
      rfl
    rw [bind_of_error closed]
    rfl
  · have closed : afterwards (do let _ ← onLoop (EventLoop.remove timer.fd))
        (fun _ => closeDescriptor timer.fd) (kernel, reactor.struck timer.fd) =
        (.ok (), (after.close timer.fd, later)) := by
      unfold afterwards
      rw [bind_of_ok removed]
      rfl
    rw [bind_of_ok closed]
    rfl

/-- What releasing a live timer leaves behind. -/
theorem release_world {timer : TimerHandle} (live : isLive reactor.timers timer = true)
    (kernel : Kernel) :
    (release timer (kernel, reactor)).2 =
      let removed :=
        (onLoop (EventLoop.remove timer.fd) (kernel, reactor.struck timer.fd)).2
      (removed.1.close timer.fd, removed.2) := by
  rw [release_of_live live]

theorem release_of_dead {timer : TimerHandle} (dead : isLive reactor.timers timer = false)
    (kernel : Kernel) : release timer (kernel, reactor) = (.ok false, (kernel, reactor)) := by
  have taken : timersNow (kernel, reactor) = (.ok reactor.timers, (kernel, reactor)) := rfl
  unfold release
  rw [bind_of_ok taken, dead]
  rfl

theorem drain_world (fd : Descriptor) (kernel : Kernel) (reactor : Reactor η) :
    (drain fd (kernel, reactor)).2 = ((Streams.read fd 8 kernel).2, reactor) := by
  unfold drain
  dsimp only
  split
  next ended => rw [ended]
  next ended =>
      rw [ended]
      split <;> rfl

/-- Settling a timer reads its expiries, and releases it unless it is to ring again. -/
theorem settle_world (timer : TimerHandle) (isRepeating : Bool) (outcome : Except Error Unit)
    (kernel : Kernel) (reactor : Reactor η) :
    (settle timer isRepeating outcome (kernel, reactor)).2 =
      let drained := (Streams.read timer.fd 8 kernel).2
      if isRepeating then (drained, reactor) else (release timer (drained, reactor)).2 := by
  have drained := drain_world timer.fd kernel reactor
  unfold settle
  generalize drain timer.fd (kernel, reactor) = ended at drained ⊢
  rcases ended with ⟨answer, state⟩
  dsimp only at drained
  subst drained
  cases isRepeating with
  | true => rfl
  | false =>
      dsimp only
      rcases release timer ((Streams.read timer.fd 8 kernel).2, reactor) with ⟨_ | _, after⟩ <;> rfl

/-! ## What calls on timers uphold -/

variable {before : Kernel × Reactor η} {armed : Kernel}

theorem Sound.opens (sound : Sound kernel reactor) (opens : Opens kernel armed fd) :
    Kept (kernel, reactor) (armed, reactor) := by
  have spares : Spares (fun _ => False) kernel armed := opens.spares
  refine ⟨⟨?_, ?_, sound.list⟩, refl_of Grown reactor, opens.spares, fun _ owned => .inl owned,
    spares.watching _ _ id, fun mirrors => mirrors.spared spares id⟩
  · exact { sound.loop with watching := spares.watching _ _ id sound.loop.watching }
  · intro fd entry live
    rcases Option.ne_none_iff_exists'.mp (sound.opened fd entry live) with ⟨opening, found⟩
    rw [spares.opened fd opening id found]
    exact Option.some_ne_none opening

theorem Sound.not_owns (sound : Sound kernel reactor) (free : kernel.opening? fd = none) :
    reactor.owns fd = false := by
  apply Bool.eq_false_iff.mpr
  intro owned
  exact sound.opened_of_owns owned free

theorem Sound.entered (sound : Sound kernel reactor) (opens : Opens kernel armed fd)
    (isRepeating : Bool) : Kept (kernel, reactor) (armed, reactor.entered fd isRepeating) := by
  have kept := sound.opens opens
  have entry {other : Descriptor} {entry : LiveTimer}
      (live : (reactor.entered fd isRepeating).timers.live.get? other = some entry) :
      fd = other ∨ reactor.timers.live.get? other = some entry := by
    unfold Reactor.entered at live
    rw [Table.get?_insert] at live
    split at live
    next same => exact .inl same
    next => exact .inr live
  refine ⟨⟨kept.sound.loop, ?_, ?_⟩, ⟨refl_of EventLoop.Grown reactor.loop, Nat.le_succ _⟩,
    kept.spares, ?_, kept.sited, kept.mirrors⟩
  · intro other timer live
    rcases entry live with rfl | old
    · change armed.opening? fd ≠ none
      rw [opens.opened]
      exact Option.some_ne_none _
    · exact kept.sound.opened other timer old
  · refine Option.eq_none_iff_forall_ne_some.mpr fun timer live => ?_
    rcases entry live with same | old
    · have owned : reactor.owns fd = true := (owns_iff reactor fd).mpr (.inl same.symm)
      exact sound.opened_of_owns owned opens.free
    · exact Option.some_ne_none timer (old.symm.trans sound.list)
  · intro other owned
    rcases (owns_iff _ other).mp owned with list | ⟨timer, live⟩
    · exact .inl ((owns_iff reactor other).mpr (.inl list))
    · rcases entry live with rfl | old
      · exact .inr opens.free
      · exact .inl ((owns_iff reactor other).mpr (.inr ⟨timer, old⟩))

theorem live_of_struck {entry : LiveTimer} {other : Descriptor}
    (live : (reactor.struck fd).timers.live.get? other = some entry) :
    fd ≠ other ∧ reactor.timers.live.get? other = some entry := by
  unfold struck at live
  rw [Table.get?_erase] at live
  split at live
  next => cases live
  next different => exact ⟨different, live⟩

theorem owns_of_struck {other : Descriptor} (owned : (reactor.struck fd).owns other = true) :
    reactor.owns other = true := by
  rcases (owns_iff _ other).mp owned with list | ⟨entry, live⟩
  · exact (owns_iff reactor other).mpr (.inl list)
  · exact (owns_iff reactor other).mpr (.inr ⟨entry, (live_of_struck live).2⟩)

theorem Kept.struck {before : Kernel × Reactor η} (kept : Kept before (kernel, reactor))
    (fd : Descriptor) : Kept before (kernel, reactor.struck fd) := by
  refine ⟨⟨kept.sound.loop, ?_, ?_⟩, ⟨kept.grown.loop, kept.grown.ids⟩, kept.spares, ?_,
    kept.sited, kept.mirrors⟩
  · exact fun other entry live => kept.sound.opened other entry (live_of_struck live).2
  · refine Option.eq_none_iff_forall_ne_some.mpr fun entry live => ?_
    exact Option.some_ne_none entry ((live_of_struck live).2.symm.trans kept.sound.list)
  · exact fun other owned => kept.owned other (owns_of_struck owned)

theorem not_owns_of (different : reactor.loop.poller.list ≠ fd)
    (dead : reactor.timers.live.get? fd = none) : reactor.owns fd = false := by
  apply Bool.eq_false_iff.mpr
  intro owned
  rcases (owns_iff reactor fd).mp owned with list | ⟨entry, live⟩
  · exact different list
  · exact Option.some_ne_none entry (live.symm.trans dead)

theorem live_struck (reactor : Reactor η) (fd : Descriptor) :
    (reactor.struck fd).timers.live.get? fd = none := by
  unfold struck
  rw [Table.get?_erase, if_pos rfl]

theorem onLoop_timers (call : LoopCall η α) (kernel : Kernel) (reactor : Reactor η) :
    (onLoop call (kernel, reactor)).2.2.timers = reactor.timers :=
  rfl

theorem upholds_schedule (handlerFor : TimerHandle → η) (delay : Span) (isRepeating : Bool) :
    Keeps Upholds (schedule handlerFor delay isRepeating) := by
  rintro ⟨kernel, reactor⟩ sound
  have outcome := schedule_outcome handlerFor delay isRepeating kernel reactor
  generalize schedule handlerFor delay isRepeating (kernel, reactor) = ended at outcome ⊢
  have added {fd : Descriptor} {armed after : Kernel} {later : Reactor η}
      {answer : Except Error Unit} (opens : Opens kernel armed fd)
      (ended : onLoop (EventLoop.add fd .readable (handlerFor (reactor.nextTimer fd)))
        (armed, reactor.entered fd isRepeating) = (answer, (after, later))) :
      Kept (kernel, reactor) (after, later) := by
    have entered := sound.entered opens isRepeating
    have kept := upholds_onLoop (EventLoop.upholds_add fd .readable
      (handlerFor (reactor.nextTimer fd))) (armed, reactor.entered fd isRepeating) entered.sound
    rw [ended] at kept
    exact entered.trans kept
  cases outcome with
  | uncreated still => exact sound.still still
  | unarmed opens =>
      exact (sound.opens opens).close (sound.not_owns opens.free) (.inr opens.free)
  | @unregistered error fd armed failed later opens ended =>
      have kept := added opens ended
      refine (kept.struck _).close (not_owns_of ?_ (live_struck _ _)) (.inr opens.free)
      change later.loop.poller.list ≠ _
      rw [kept.grown.loop.poller]
      exact (sound.ne_list_of_free opens.free).symm
  | started opens _ ended => exact added opens ended

theorem isLive_iff {timers : Timers} {timer : TimerHandle} :
    isLive timers timer = true ↔
      ∃ isRepeating, timers.live.get? timer.fd = some ⟨timer.id, isRepeating⟩ := by
  unfold isLive
  constructor
  · intro live
    split at live
    next entry found => exact ⟨entry.isRepeating, of_decide_eq_true live ▸ found⟩
    next => cases live
  · rintro ⟨isRepeating, found⟩
    rw [found]
    exact decide_eq_true rfl

theorem upholds_release (timer : TimerHandle) :
    Keeps Upholds (release timer : ReactorCall η Bool) := by
  rintro ⟨kernel, reactor⟩ sound
  cases live : isLive reactor.timers timer with
  | false =>
      rw [release_of_dead live]
      exact sound.kept
  | true =>
      rw [release_world live]
      rcases isLive_iff.mp live with ⟨isRepeating, entry⟩
      have owned : reactor.owns timer.fd = true := (owns_iff reactor _).mpr (.inr ⟨_, entry⟩)
      have struck := sound.kept.struck timer.fd
      have kept := struck.trans (upholds_onLoop (EventLoop.upholds_remove timer.fd) _ struck.sound)
      refine kept.close (not_owns_of ?_ ?_) (.inl owned)
      · rw [kept.grown.loop.poller]
        intro same
        rw [← same, sound.list] at entry
        cases entry
      · rw [onLoop_timers]
        exact live_struck reactor timer.fd

theorem upholds_settle (timer : TimerHandle) (isRepeating : Bool) (outcome : Except Error Unit) :
    Keeps Upholds (settle timer isRepeating outcome : ReactorCall η Unit) := by
  rintro ⟨kernel, reactor⟩ sound
  rw [settle_world]
  have still : Still kernel (Streams.read timer.fd 8 kernel).2 :=
    keeps_named _ (still_read timer.fd 8) kernel
  have drained := sound.still still
  cases isRepeating with
  | true => exact drained
  | false => exact drained.trans (upholds_release timer _ drained.sound)

/-! ## Making and unmaking reactors -/

/-- A reactor with nothing registered. -/
def blank (poller : Poller) : Reactor η :=
  ⟨{ poller, registrations := .empty, generation := 1, serial := 0, running := [], hook := .log,
      refused := [] },
    ⟨.empty, 1⟩⟩

theorem createPoller_of_ok {capacity : Nat} (listed : createReadyList kernel = (.ok fd, after)) :
    Poller.create capacity kernel = (.ok ⟨fd, max capacity 1⟩, after) := by
  unfold Poller.create
  rw [bind_of_ok (named_of_ok listed)]
  rfl

theorem createPoller_of_error {capacity : Nat} {errno : Int}
    (listed : createReadyList kernel = (.error errno, after)) :
    Poller.create capacity kernel = (.error ⟨"epoll_create1", errno⟩, after) := by
  unfold Poller.create
  rw [bind_of_error (named_of_error listed)]

theorem create_of_poller {capacity : Nat} {poller : Poller}
    (made : Poller.create capacity kernel = (.ok poller, after)) :
    create capacity kernel = (.ok (blank poller : Reactor η), after) := by
  have looped : (EventLoop.create capacity : SystemCall (EventLoop η)) kernel =
      (.ok (blank poller : Reactor η).loop, after) := by
    unfold EventLoop.create
    rw [bind_of_ok made]
    rfl
  unfold create
  rw [bind_of_ok looped]
  rfl

theorem create_of_unlisted {capacity : Nat} {errno : Int}
    (listed : createReadyList kernel = (.error errno, after)) :
    (create capacity : SystemCall (Reactor η)) kernel =
      (.error ⟨"epoll_create1", errno⟩, after) := by
  unfold create EventLoop.create
  exact bind_of_error (bind_of_error (createPoller_of_error listed))

/-- A reactor is made just if its list is. -/
theorem create_eq_ok_iff {capacity : Nat} :
    (create capacity : SystemCall (Reactor η)) kernel = (.ok reactor, after) ↔
      ∃ fd, createReadyList kernel = (.ok fd, after) ∧ reactor = blank ⟨fd, max capacity 1⟩ := by
  constructor
  · intro made
    rcases listed : createReadyList kernel with ⟨errno | fd, middle⟩
    · cases (create_of_unlisted listed).symm.trans made
    · cases (create_of_poller (createPoller_of_ok listed)).symm.trans made
      exact ⟨fd, rfl, rfl⟩
  · rintro ⟨fd, listed, rfl⟩
    exact create_of_poller (createPoller_of_ok listed)

theorem create_of_ok {capacity : Nat}
    (made : (create capacity : SystemCall (Reactor η)) kernel = (.ok reactor, after)) :
    ∃ fd, Opens kernel after fd ∧ after.WatchesOnly fd (fun _ => False) ∧
      reactor = blank ⟨fd, max capacity 1⟩ := by
  rcases create_eq_ok_iff.mp made with ⟨fd, listed, same⟩
  rcases createReadyList_of_ok listed with ⟨opens, watches⟩
  exact ⟨fd, opens, watches, same⟩

theorem create_of_error {capacity : Nat} {cause : SystemError}
    (made : (create capacity : SystemCall (Reactor η)) kernel = (.error cause, after)) :
    Still kernel after := by
  rcases listed : createReadyList kernel with ⟨errno | fd, middle⟩
  · cases (create_of_unlisted listed).symm.trans made
    exact createReadyList_of_error listed
  · cases (create_of_poller (createPoller_of_ok listed)).symm.trans made

theorem sound_blank {capacity : Nat} (watches : kernel.WatchesOnly fd (fun _ => False)) :
    Sound kernel (blank ⟨fd, capacity⟩ : Reactor η) where
  loop :=
    { generation := rfl
      registered := fun _ _ found => nomatch found
      apart := fun _ _ _ _ found => nomatch found
      watching := watches.mono fun _ impossible => impossible.elim }
  opened _ _ live := nomatch live
  list := rfl

theorem mirrors_blank {capacity : Nat} (numbered : kernel.Numbered)
    (watches : kernel.WatchesOnly fd (fun _ => False)) :
    (blank ⟨fd, capacity⟩ : Reactor η).loop.Mirrors kernel where
  numbered := numbered
  opened _ _ found := nomatch found
  watched _ _ found := nomatch found
  registered := by
    rcases watches with ⟨opening, table, stands, all⟩
    exact ⟨opening, table, stands, fun other watch watched => (all other watch watched).elim⟩

theorem owns_blank {capacity : Nat} {other : Descriptor}
    (owned : (blank ⟨fd, capacity⟩ : Reactor η).owns other = true) : fd = other := by
  rcases (owns_iff _ other).mp owned with list | ⟨entry, live⟩
  · exact list
  · cases live

theorem opening?_closeAll (kernel : Kernel) (fds : List Descriptor) (fd : Descriptor) :
    (fds.foldl Kernel.close kernel).opening? fd =
      if fd ∈ fds then none else kernel.opening? fd := by
  induction fds generalizing kernel with
  | nil => rfl
  | cons first rest ih =>
      rw [List.foldl_cons, ih, opening?_close]
      by_cases here : first = fd
      · subst here
        simp
      · simp [here, Ne.symm here]

theorem spares_closeAll (kernel : Kernel) (fds : List Descriptor) :
    Spares (fun fd => fd ∈ fds) kernel (fds.foldl Kernel.close kernel) := by
  induction fds generalizing kernel with
  | nil => exact refl_of (Spares _) kernel
  | cons first rest ih =>
      have closed : Spares (fun fd => fd ∈ first :: rest) kernel (kernel.close first) :=
        (spares_close kernel first).weaken fun fd same => List.mem_cons.mpr (.inl same)
      exact trans_of (Spares _) closed ((ih _).weaken fun fd => List.mem_cons_of_mem first)

theorem spares_dismantle (kernel : Kernel) (reactor : Reactor η) :
    Spares (fun fd => reactor.owns fd = true) kernel (reactor.dismantle kernel) := by
  have listed := (spares_close kernel reactor.loop.poller.list).weaken
    fun fd same => (owns_iff reactor fd).mpr (.inl same.symm)
  refine trans_of (Spares _) listed ((spares_closeAll _ _).weaken fun fd member => ?_)
  exact (owns_iff reactor fd).mpr (.inr ((Table.mem_keys_iff _ fd).mp member))

/-! ## Running handlers -/

/-- The reactor with other registrations running. -/
def rerun (reactor : Reactor η) (running : List Nat) : Reactor η :=
  { reactor with loop := { reactor.loop with running } }

theorem Sound.rerun (sound : Sound kernel reactor) (running : List Nat) :
    Sound kernel (reactor.rerun running) :=
  ⟨⟨sound.loop.generation, sound.loop.registered, sound.loop.apart, sound.loop.watching⟩,
    sound.opened, sound.list⟩

theorem Sound.kept_rerun (sound : Sound kernel reactor) {running : List Nat}
    (more : ∀ serial ∈ reactor.loop.running, serial ∈ running) :
    Kept (kernel, reactor) (kernel, reactor.rerun running) :=
  ⟨sound.rerun running, ⟨⟨rfl, Nat.le_refl _, fun _ _ found _ => found, more⟩, Nat.le_refl _⟩,
    refl_of (Spares _) kernel, fun _ owned => .inl owned, id,
    fun mirrors => mirrors.of_same rfl rfl rfl⟩

/-- The reactor with another hook for errors. -/
def rehooked (reactor : Reactor η) (hook : ErrorHook) : Reactor η :=
  { reactor with loop := { reactor.loop with hook } }

theorem Sound.kept_rehooked (sound : Sound kernel reactor) (hook : ErrorHook) :
    Kept (kernel, reactor) (kernel, reactor.rehooked hook) :=
  ⟨⟨⟨sound.loop.generation, sound.loop.registered, sound.loop.apart, sound.loop.watching⟩,
    sound.opened, sound.list⟩,
    ⟨⟨rfl, Nat.le_refl _, fun _ _ found _ => found, fun _ member => member⟩, Nat.le_refl _⟩,
    refl_of (Spares _) kernel, fun _ owned => .inl owned, id,
    fun mirrors => mirrors.of_same rfl rfl rfl⟩

end ScriptHost.Reactor
