import ScriptHost.Proofs.Kernel.Prompt
import ScriptHost.Proofs.Loop.Joining

/-!
# Loops that are kept tidy

Where the kernel accepts what it is told, a loop that is used for timers alone is tidy
between any two calls: what is registered is watched, what is watched is registered, and
what is armed is live.  A timer is then released without an error, so what comes of its
callback is all that there is to be said of it, and nothing of it is left.
-/

namespace ScriptHost

open Kernel

namespace Kernel

variable {kernel : Kernel} {list fd : Descriptor} {timer : Timer}

/-- What is closed is watched no more. -/
theorem watch?_close_self (opened : kernel.opening? fd ≠ none) (away : fd ≠ list) :
    (kernel.close fd).watch? list fd = none := by
  rw [watch?_eq, standing?_close, if_neg away, if_pos (Option.isSome_iff_ne_none.mpr opened)]
  rcases kernel.standing? list with _ | ⟨opening, _ | watches | _⟩
  case some.list => exact (Table.get?_erase watches fd fd).trans (if_pos rfl)
  all_goals rfl

/-- A willing kernel forgets a timer that it watches. -/
theorem forget_of_watched {watch : Watch} (willing : kernel.Willing)
    (timed : kernel.resource? fd = some (.timer timer)) (watched : kernel.watch? list fd = some watch) :
    ∃ after, forget list fd kernel = (.ok (), after) := by
  rcases Option.bind_eq_some_iff.mp watched with ⟨state, listed, found⟩
  have registered : registrations list fd kernel = (.ok state, kernel) := by
    unfold registrations
    rw [bind_of_ok (meetFault_of_willing willing _), get_bind_eq, timed, listed]
    rfl
  have present : (!state.watches.contains fd) = false := by
    rw [Table.contains, found]
    rfl
  unfold forget
  rw [bind_of_ok registered, present]
  exact ⟨_, rfl⟩

/-- The expiries of a timer are read, or there are none. -/
theorem read_of_timer (willing : kernel.Willing)
    (timed : kernel.resource? fd = some (.timer timer)) :
    (∃ bytes, read fd 8 kernel =
        (.ok bytes, kernel.setResource fd (.timer { timer with count := 0 }))) ∨
      read fd 8 kernel = (.error Errno.wouldBlock, kernel) := by
  have met : meetTransferFault "read" fd kernel = (.ok (), kernel) := by
    unfold meetTransferFault
    rw [get_bind_eq, timed]
    exact meetFault_of_willing willing "read"
  unfold read
  rw [bind_of_ok met, get_bind_eq, timed]
  dsimp only
  split
  next short => exact absurd short (by decide)
  next =>
      split
      · exact .inr rfl
      · exact .inl ⟨_, rfl⟩

/-- Reading from a timer does not arm it. -/
theorem calms_read (willing : kernel.Willing) (timed : kernel.resource? fd = some (.timer timer)) :
    Calms kernel (read fd 8 kernel).2 := by
  rcases read_of_timer willing timed with ⟨bytes, ended⟩ | ended <;> rw [ended]
  · refine ⟨fun willing => ⟨willing.faultless, willing.unlimited⟩, fun other unarmed => ?_⟩
    by_cases same : fd = other
    · subst same
      have kept : (kernel.setResource fd (.timer { timer with count := 0 })).resource? fd =
          some (.timer { timer with count := 0 }) := by
        rw [resource?_setResource, if_pos rfl, timed]
        rfl
      rw [alarm?_of_timer timed] at unarmed
      exact (alarm?_of_timer kept).trans unarmed
    · exact (alarm?_congr ((resource?_setResource _ _ _ _).trans (if_neg same))).trans unarmed
  · exact refl_of Calms kernel

end Kernel

namespace Reactor

variable {η : Type} {kernel after : Kernel} {reactor later : Reactor η} {timer : TimerHandle}
  {fd : Descriptor}

/-- A loop that is used for timers alone, where no call fails: its registrations and what the
kernel watches for it are the same, and nothing is armed but its timers. -/
structure Tidy (kernel : Kernel) (reactor : Reactor η) : Prop where
  willing : kernel.Willing
  roomy : 0 < reactor.loop.poller.capacity
  watched : ∀ fd registration, reactor.loop.registrations.get? fd = some registration →
    ∃ watch, kernel.watch? reactor.loop.poller.list fd = some watch
  registered : ∀ fd watch, kernel.watch? reactor.loop.poller.list fd = some watch →
    ∃ registration, reactor.loop.registrations.get? fd = some registration
  armed : ∀ fd alarm, kernel.alarm? fd = some alarm →
    ∃ entry, reactor.timers.live.get? fd = some entry
  numbered : ∀ fd entry, reactor.timers.live.get? fd = some entry → entry.id < reactor.timers.nextId

/-- A later kernel that watches the same and in which nothing was armed. -/
theorem Tidy.passed (tidy : Tidy kernel reactor) (still : Still kernel after)
    (calms : Calms kernel after) : Tidy after reactor := by
  have watching (fd : Descriptor) : after.watch? reactor.loop.poller.list fd =
      kernel.watch? reactor.loop.poller.list fd := watch?_congr (still.standing _) fd
  refine
    { willing := calms.willing tidy.willing
      roomy := tidy.roomy
      watched := fun fd registration found => ?_
      registered := fun fd watch watched => ?_
      armed := fun fd alarm armed => ?_
      numbered := tidy.numbered }
  · rw [watching]
    exact tidy.watched fd registration found
  · rw [watching] at watched
    exact tidy.registered fd watch watched
  · rcases before : kernel.alarm? fd with _ | earlier
    · exact nomatch armed.symm.trans (calms.unarmed fd before)
    · exact tidy.armed fd earlier before

/-- Reading the expiries of a timer does not fail. -/
theorem drain_of_timer {state : Kernel.Timer} (willing : kernel.Willing)
    (timed : kernel.resource? fd = some (.timer state)) (reactor : Reactor η) :
    drain fd (kernel, reactor) = (.ok (), ((Streams.read fd 8 kernel).2, reactor)) := by
  have named : Streams.read fd 8 kernel = Kernel.named "read" (Kernel.read fd 8) kernel := rfl
  unfold drain
  rcases read_of_timer willing timed with ⟨bytes, ended⟩ | ended
  · dsimp only
    rw [named, named_of_ok ended]
  · dsimp only
    rw [named, named_of_error ended]
    rfl

/-- Taking a timer out of its loop does not fail. -/
theorem remove_of_tidy {state : Kernel.Timer} {registration : Registration η}
    (tidy : Tidy kernel reactor) (timed : kernel.resource? fd = some (.timer state))
    (found : reactor.loop.registrations.get? fd = some registration) :
    ∃ forgotten, EventLoop.remove fd (kernel, reactor.loop) =
        (.ok true, (forgotten, reactor.loop.delisted fd)) := by
  rcases tidy.watched fd registration found with ⟨watch, watched⟩
  rcases forget_of_watched tidy.willing timed watched with ⟨forgotten, forgets⟩
  have present : reactor.loop.registrations.contains fd = true := by
    rw [Table.contains, found]
    rfl
  exact ⟨forgotten, EventLoop.remove_of_ok present (named_of_ok forgets)⟩

/-- What is left where a timer has gone. -/
theorem Tidy.vacated (tidy : Tidy kernel reactor) (aside : Aside reactor.loop.poller.list fd kernel after)
    (poller : later.loop.poller = reactor.loop.poller) (closed : after.opening? fd = none)
    (unwatched : after.watch? reactor.loop.poller.list fd = none)
    (ids : later.timers.nextId = reactor.timers.nextId)
    (live : ∀ other, later.timers.live.get? other =
      if fd = other then none else reactor.timers.live.get? other)
    (registrations : ∀ other, later.loop.registrations.get? other =
      if fd = other then none else reactor.loop.registrations.get? other) : Tidy after later := by
  have unarmed : after.alarm? fd = none := by
    rw [alarm?, resource?_of_free closed]
  have away {other : Descriptor} {entry : LiveTimer}
      (found : later.timers.live.get? other = some entry) :
      fd ≠ other ∧ reactor.timers.live.get? other = some entry := by
    rw [live] at found
    split at found
    · cases found
    next different => exact ⟨different, found⟩
  refine
    { willing := aside.willing tidy.willing
      roomy := poller ▸ tidy.roomy
      watched := fun other registration found => ?_
      registered := fun other watch watched => ?_
      armed := fun other alarm armed => ?_
      numbered := fun other entry found => ids ▸ tidy.numbered other entry (away found).2 }
  · rw [registrations] at found
    split at found
    · cases found
    next different =>
        rw [poller, aside.watching other different]
        exact tidy.watched other registration found
  · rw [poller] at watched
    by_cases same : fd = other
    · subst same
      cases watched.symm.trans unwatched
    · rw [aside.watching other same] at watched
      rw [registrations, if_neg same]
      exact tidy.registered other watch watched
  · by_cases same : fd = other
    · subst same
      cases armed.symm.trans unarmed
    · rw [aside.armed other same] at armed
      rw [live, if_neg same]
      exact tidy.armed other alarm armed

/-- The reactor without the timer on a descriptor and its registration. -/
def vacant (reactor : Reactor η) (fd : Descriptor) : Reactor η :=
  { reactor.struck fd with loop := reactor.loop.delisted fd }

/-- Releasing a timer does not fail. -/
theorem Tidy.release {state : Kernel.Timer} {registration : Registration η}
    (tidy : Tidy kernel reactor) (live : isLive reactor.timers timer = true)
    (timed : kernel.resource? timer.fd = some (.timer state))
    (away : timer.fd ≠ reactor.loop.poller.list)
    (found : reactor.loop.registrations.get? timer.fd = some registration) :
    ∃ after, release timer (kernel, reactor) = (.ok true, (after, reactor.vacant timer.fd)) ∧
      Tidy after (reactor.vacant timer.fd) := by
  rcases remove_of_tidy tidy timed found with ⟨forgotten, removes⟩
  have removed : onLoop (EventLoop.remove timer.fd) (kernel, reactor.struck timer.fd) =
      (.ok true, (forgotten, reactor.vacant timer.fd)) := by
    unfold onLoop
    dsimp only
    rw [show (reactor.struck timer.fd).loop = reactor.loop from rfl, removes]
    rfl
  have released : Reactor.release timer (kernel, reactor) =
      (.ok true, (forgotten.close timer.fd, reactor.vacant timer.fd)) := by
    rw [release_of_live live, removed]
    rfl
  have timed' : (EventLoop.remove timer.fd (kernel, reactor.loop)).2.1.resource? timer.fd =
      some (.timer state) := timer_of_remove timed away
  rw [removes] at timed'
  have aside := aside_release live timed away
  rw [released] at aside
  refine ⟨_, released, tidy.vacated aside rfl (opening?_close_self _ _)
    (watch?_close_self (opening?_of_resource timed') away) rfl (fun other => ?_) fun other => ?_⟩
  · exact Table.get?_erase reactor.timers.live timer.fd other
  · exact EventLoop.get?_delisted reactor.loop timer.fd other

/-- Settling a timer that rings once adds no error to that of its callback. -/
theorem Tidy.settle {state : Kernel.Timer} {registration : Registration η}
    (tidy : Tidy kernel reactor) (live : isLive reactor.timers timer = true)
    (timed : kernel.resource? timer.fd = some (.timer state))
    (away : timer.fd ≠ reactor.loop.poller.list)
    (found : reactor.loop.registrations.get? timer.fd = some registration)
    (outcome : Except Error Unit) :
    ∃ after, settle timer false outcome (kernel, reactor) = (outcome, (after, reactor.vacant timer.fd)) ∧
      Tidy after (reactor.vacant timer.fd) := by
  have still : Still kernel (Streams.read timer.fd 8 kernel).2 :=
    keeps_named "read" (still_read timer.fd 8) kernel
  have calms : Calms kernel (Streams.read timer.fd 8 kernel).2 := by
    rw [Streams.read, named_world]
    exact calms_read tidy.willing timed
  rcases still.ticks.timers timer.fd state not_false timed with ⟨state', timed', _⟩
  rcases (tidy.passed still calms).release live timed' away found with ⟨after, released, tidy'⟩
  refine ⟨after, ?_, tidy'⟩
  unfold Reactor.settle
  rw [drain_of_timer tidy.willing timed]
  dsimp only
  rw [released]
  cases outcome <;> rfl

/-! ## Starting timers -/

/-- A loop with which nothing was done yet is tidy where nothing is armed. -/
theorem tidy_create {capacity : Nat} {fresh : Reactor η}
    (made : (create capacity : SystemCall (Reactor η)) kernel = (.ok fresh, after))
    (willing : kernel.Willing) (unarmed : ∀ fd, kernel.alarm? fd = none) : Tidy after fresh := by
  have calms := calms_createReadyList willing (createReadyList_of_create made)
  rcases create_of_ok made with ⟨list, _, watches, rfl⟩
  refine
    { willing := calms.willing willing
      roomy := Nat.lt_of_lt_of_le Nat.one_pos (Nat.le_max_right _ _)
      watched := fun fd registration found => nomatch found
      registered := fun fd watch watched => ?_
      armed := fun fd alarm armed => nomatch armed.symm.trans (calms.unarmed fd (unarmed fd))
      numbered := fun fd entry found => nomatch found }
  rcases watches with ⟨opening, table, stands, all⟩
  exact (all fd watch ((watch?_of_standing stands fd).symm.trans watched)).elim

/-- A timer that is started is one more. -/
theorem Tidy.joined {σ : Type} {reactor later : Reactor (Handler σ)} {delay : Span}
    {callback : Script σ} (tidy : Tidy kernel reactor)
    (joined : Joined kernel reactor delay callback fd after later)
    (poller : later.loop.poller = reactor.loop.poller) : Tidy after later := by
  rcases joined.enrolled with ⟨armed, enrolled⟩
  refine
    { willing := joined.aside.willing tidy.willing
      roomy := poller ▸ tidy.roomy
      watched := fun other registration found => ?_
      registered := fun other watch watched => ?_
      armed := fun other alarm armed => ?_
      numbered := fun other entry found => ?_ }
  · rw [poller]
    rw [enrolled.registrations] at found
    split at found
    next same =>
        subst same
        exact ⟨_, joined.watched⟩
    next different =>
        rw [joined.aside.watching other different]
        exact tidy.watched other registration found
  · rw [poller] at watched
    rw [enrolled.registrations]
    split
    · exact ⟨_, rfl⟩
    next different =>
        rw [joined.aside.watching other different] at watched
        exact tidy.registered other watch watched
  · rw [enrolled.live]
    split
    · exact ⟨_, rfl⟩
    next different =>
        rw [joined.aside.armed other different] at armed
        exact tidy.armed other alarm armed
  · rw [enrolled.ids]
    rcases enrolled.live_cases found with ⟨-, rfl⟩ | ⟨-, before⟩
    · exact Nat.lt_succ_self _
    · exact Nat.lt_succ_of_lt (tidy.numbered other entry before)

end Reactor

end ScriptHost
