import ScriptHost.Proofs.Loop.Isolation
import ScriptHost.Proofs.Loop.Upkeep

/-!
# Loops are drained

Every wait of a loop that is being emptied comes back with events, and the first of them is for
a timer that is live still.  So each turn of the loop runs a callback that was not run before,
and there are not more turns than timers.
-/

namespace ScriptHost

open World Kernel

variable {σ : Type} {id : Nat}

/-- What a hook is told of the outcome of a callback. -/
def ErrorHook.reports (hook : ErrorHook) : Except Error Unit → List Event
  | .ok () => []
  | .error error => [hook.told error]

namespace Table

variable {κ α : Type} [DecidableEq κ]

/-- A table of some size has something in it. -/
theorem size_eq_zero_iff {table : Table κ α} : table.size = 0 ↔ ∀ key, table.get? key = none := by
  refine ⟨get?_of_size_zero, fun nothing => ?_⟩
  have none : table.keys = [] := List.eq_nil_iff_forall_not_mem.mpr fun key member => by
    rcases (mem_keys_iff table key).mp member with ⟨value, found⟩
    exact nomatch found.symm.trans (nothing key)
  have same : table.keys.length = table.size := List.length_map Prod.fst
  rw [← same, none]
  rfl

end Table

/-! ## Waits -/

/-- A wait for a tidy loop comes back with events while anything is registered. -/
theorem Reactor.Lineup.poll_reports_some {callbacks : Script σ → Prop}
    {reported : EventLoop (Handler σ)} {dues : Dues} {kernel : Kernel} {reactor : Reactor (Handler σ)}
    {history : List Event}
    (lineup : Lineup callbacks reported dues [] none id kernel reactor history)
    (tidy : Tidy kernel reactor) (full : reactor.loop.isEmpty ≠ true) :
    ∃ events after, reactor.loop.poller.poll none kernel = (.ok events, after) ∧ events ≠ [] ∧
      Calms kernel after := by
  have some_due : ∃ fd due, dues fd = some due := by
    apply Classical.byContradiction
    intro none
    refine full (decide_eq_true (Table.size_eq_zero_iff.mpr fun fd => ?_))
    cases found : reactor.loop.registrations.get? fd with
    | none => rfl
    | some registration =>
        rcases lineup.due_of_registered found with ⟨due, callback, dueAt, _⟩
        exact absurd ⟨fd, due, dueAt⟩ none
  have only : ∀ fd alarm, kernel.alarm? fd = some alarm → ∃ due, dues fd = some due := by
    intro fd alarm armed
    rcases tidy.armed fd alarm armed with ⟨entry, live⟩
    rcases lineup.covered fd entry live with line | ⟨_, member, _⟩ | none
    · exact line
    · cases member
    · cases none
  rcases some_due with ⟨fd, due, dueAt⟩
  rcases Nat.exists_eq_succ_of_ne_zero (Nat.ne_of_gt tidy.roomy) with ⟨room, capacity⟩
  rcases lineup.lined.wait_reports_some tidy.willing room dueAt only with ⟨events, after, waited, some⟩
  have calms := calms_wait reactor.loop.poller.list (room + 1) none kernel
  rw [waited] at calms
  refine ⟨events, after, Poller.poll_eq_ok_iff.mpr (.inl ?_), some, calms⟩
  rw [capacity]
  exact waited

namespace Dispatch

/-! ## Rounds -/

/-- The turn of an event in which the callback of a timer is run.  It comes back with an outcome, and
the hook for errors that is installed by then is told if that is an error. -/
inductive Round (run : Script σ → Action σ Value) (id : Nat) (timer : TimerHandle)
    (callback : Script σ) (before after : World σ) : Prop where
  | intro {report : Report} {registration : Registration (Handler σ)} {outcome : Except Error Unit}
      {returned : World σ} {hook : ErrorHook} (due : Due before id report.event registration)
      (handles : registration.handler = .timer timer false callback)
      (delivered : deliver run id report before = (.ok true, after))
      (ran : attempt (do let _ ← run callback)
        (called (begun before id report registration) id timer) = (.ok outcome, returned))
      (installed : (returned.loop? id).map EventLoop.hook = some hook)
      (told : after.journal.toList =
        returned.journal.toList ++ .rang id timer :: hook.reports outcome) :
      Round run id timer callback before after

/-- The callbacks of timers that were started were run, one after another, and nothing was done by
scripts in between. -/
inductive Rounds (run : Script σ → Action σ Value) (id : Nat)
    (started : List (TimerHandle × Script σ)) (before : World σ) :
    List TimerHandle → World σ → Prop where
  | done : Rounds run id started before [] before
  | waits {rung : List TimerHandle} {middle after : World σ}
      (rounds : Rounds run id started before rung middle) (journal : after.journal = middle.journal)
      (memory : after.memory = middle.memory) : Rounds run id started before rung after
  | next {rung : List TimerHandle} {middle after : World σ} {timer : TimerHandle}
      {callback : Script σ} (rounds : Rounds run id started before rung middle)
      (start : (timer, callback) ∈ started) (round : Round run id timer callback middle after) :
      Rounds run id started before (rung ++ [timer]) after

theorem Rounds.trans {run : Script σ → Action σ Value} {started : List (TimerHandle × Script σ)}
    {before middle after : World σ} {rung more : List TimerHandle}
    (first : Rounds run id started before rung middle)
    (second : Rounds run id started middle more after) :
    Rounds run id started before (rung ++ more) after := by
  induction second with
  | done =>
      rw [List.append_nil]
      exact first
  | waits _ journal memory ih => exact ih.waits journal memory
  | next _ start round ih =>
      rw [← List.append_assoc]
      exact ih.next start round

end Dispatch

/-! ## One round -/

namespace World.Tended

variable {started : List (TimerHandle × Script σ)} {rung : List TimerHandle} {owners asked : Nat}
  {reported : EventLoop (Handler σ)} {called : List (Descriptor × Alarm)}
  {ringing : Option TimerHandle} {world : World σ} {reactor : Reactor (Handler σ)}
  {registration : Registration (Handler σ)} {callback : Script σ} {fd : Descriptor} {due : Alarm}

/-- The handler of the timer that is called next is started. -/
theorem begun
    (tended : world.Tended started rung owners asked reported ((fd, due) :: called) none id)
    (present : world.reactor? id = some reactor)
    (found : reactor.loop.registrations.get? fd = some registration)
    (handles : registration.handler = .timer ⟨fd, due.serial⟩ false callback)
    {report : Dispatch.Report} (straight : report.registration = some registration.serial) :
    (Dispatch.begun world id report registration).Tended started rung owners asked reported
        ((fd, due) :: called) (some ⟨fd, due.serial⟩) id ∧
      ∃ later, (Dispatch.begun world id report registration).reactor? id = some later ∧
        later.loop.registrations.get? fd = some registration := by
  rcases tended.stands with ⟨reactor', dues, held, present', _⟩
  cases present.symm.trans present'
  have remark : (Event.handling (Dispatch.deliveryOf world id report registration)).IsRemark id :=
    fun _ => straight
  have inLine : (world.settled id (world.kernel, reactor.rerun
      (registration.serial :: reactor.loop.running))).InLine (Script.Times id .cancels) reported
      ((fd, due) :: called) (some ⟨fd, due.serial⟩) id :=
    tended.inLine.settled present fun dues lineup => ⟨dues, lineup.begin found handles⟩
  unfold Dispatch.begun
  rw [changeLoop_of_some _ present]
  refine ⟨(tended.reloop held inLine rfl rfl rfl).told remark, _,
    (reactor?_settled present _ id).trans (if_pos rfl), found⟩

/-- A timer that is live and is called rings for the first time. -/
theorem rings
    (tended : world.Tended started rung owners asked reported ((fd, due) :: called)
      (some ⟨fd, due.serial⟩) id)
    (present : world.reactor? id = some reactor)
    (found : reactor.loop.registrations.get? fd = some registration)
    (handles : registration.handler = .timer ⟨fd, due.serial⟩ false callback) (time : Nat) :
    (tell (.ringing id ⟨fd, due.serial⟩ time) world).2.Tended started (rung ++ [⟨fd, due.serial⟩])
        owners asked reported called (some ⟨fd, due.serial⟩) id ∧
      (⟨fd, due.serial⟩, callback) ∈ started := by
  have inLine := tended.inLine.ring present time
  rcases tended.stands with ⟨reactor', dues, held, present', tidy, ledger, asks, lawful, lineup⟩
  cases present.symm.trans present'
  have live : Reactor.isLive reactor.timers ⟨fd, due.serial⟩ = true := by
    rcases lineup.seated fd registration found with ⟨number, callback', handles', live, _⟩
    cases handles.symm.trans handles'
    exact Reactor.isLive_iff.mpr ⟨false, live⟩
  have start := ledger.own fd registration _ _ found handles
  -- what has rung was due before all that are called, and this one is called
  have unrung : (⟨fd, due.serial⟩ : TimerHandle) ∉ rung := by
    intro member
    have heard := List.count_pos_iff.mpr member
    rw [← ledger.starts] at heard
    refine Nat.ne_of_gt heard (startsOf_eq_zero.mpr fun time rang => ?_)
    have head : (fd, due) ∈ (fd, due) :: called := List.mem_cons_self
    have earlier := (lineup.rung _ time due rang (lineup.calling fd due head).1).2.1 fd due head
    rw [Alarm.before_irrefl] at earlier
    cases earlier
  refine ⟨⟨inLine, ?_, tended.unlimited, reactor, held, tidy, ?_, asks⟩, start⟩
  · rw [journal_tell]
    exact tended.direct.append fun delivery member => nomatch List.mem_singleton.mp member
  · rw [journal_tell]
    exact ledger.rings live (List.mem_map.mpr ⟨_, start, rfl⟩) unrung time

end World.Tended

namespace Dispatch

open Reactor

/-- The callback of a timer was run in some world and has come back, and the timer is settled. -/
structure Came (run : Script σ → Action σ Value) (started : List (TimerHandle × Script σ))
    (rung : List TimerHandle) (owners asked : Nat) (reported : EventLoop (Handler σ))
    (calls : List (Descriptor × Alarm)) (id : Nat) (timer : TimerHandle) (callback : Script σ)
    (begun : World σ) (outcome : Except Error Unit) (hook : ErrorHook) (returned after : World σ) :
    Prop where
  start : (timer, callback) ∈ started
  ran : attempt (do let _ ← run callback) begun = (.ok outcome, returned)
  told : after.journal.toList = returned.journal.toList ++ [.rang id timer]
  installed : (returned.loop? id).map EventLoop.hook = some hook
  kept : (after.loop? id).map EventLoop.hook = some hook
  tended : after.Tended started rung owners asked reported calls (some timer) id
  dead : ∀ reactor, after.reactor? id = some reactor → isLive reactor.timers timer = false

section Rounds

variable {started : List (TimerHandle × Script σ)} {rung : List TimerHandle} {owners asked : Nat}
  {reported : EventLoop (Handler σ)} {calls : List (Descriptor × Alarm)} {world : World σ}
  {reactor : Reactor (Handler σ)} {registration : Registration (Handler σ)} {callback : Script σ}
  {fd : Descriptor} {due : Alarm} {timer : TimerHandle}

/-- What follows the callback of a timer adds no error to its outcome. -/
theorem rung_of_tended
    (tended : world.Tended started rung owners asked reported calls (some timer) id)
    (rang : timer ∈ rung) (outcome : Except Error Unit) :
    ∃ after, Dispatch.rung id timer false outcome world = (ofExcept outcome : Action σ Unit) after ∧
      after.Tended started rung owners asked reported calls (some timer) id ∧
      after.journal.toList = world.journal.toList ++ [.rang id timer] ∧
      (after.loop? id).map EventLoop.hook = (world.loop? id).map EventLoop.hook ∧
      ∀ reactor, after.reactor? id = some reactor → isLive reactor.timers timer = false := by
  rcases tended.settle rang outcome with ⟨after, settled, tended', journal, hook, dead⟩
  have remark : (Event.rang id timer).IsRemark id := trivial
  refine ⟨(tell (.rang id timer) after).2, ?_, tended'.told remark, ?_, hook, dead⟩
  · unfold Dispatch.rung
    rw [bind_of_ok (attempt_eq_ok_iff.mpr settled), tell_bind_eq]
  · rw [journal_tell, journal]

/-- The callback of a timer that is called is run, and comes back. -/
theorem ring_of_tended (engine : Engine σ) (fuel : Nat)
    (tended : world.Tended started rung owners asked reported ((fd, due) :: calls)
      (some ⟨fd, due.serial⟩) id)
    (present : world.reactor? id = some reactor)
    (found : reactor.loop.registrations.get? fd = some registration)
    (handles : registration.handler = .timer ⟨fd, due.serial⟩ false callback)
    (good : Script.Times id .cancels callback) :
    ∃ (outcome : Except Error Unit) (hook : ErrorHook) (returned after : World σ),
      ring (Script.exec engine (fuel + 1)) id ⟨fd, due.serial⟩ false callback world =
        (ofExcept outcome : Action σ Unit) after ∧
      Came (Script.exec engine (fuel + 1)) started (rung ++ [⟨fd, due.serial⟩]) owners asked reported
        calls id ⟨fd, due.serial⟩ callback
        (tell (.ringing id ⟨fd, due.serial⟩ world.kernel.now) world).2 outcome hook returned after := by
  rcases tended.rings present found handles world.kernel.now with ⟨tended', start⟩
  have ended := ((Script.abides_tended engine fuel good).bind fun _ => Abides.pure ()).attempt _
    tended'
  rw [ring_eq]
  generalize (tell (.ringing id ⟨fd, due.serial⟩ world.kernel.now) world).2 = begun at ended ⊢
  rcases ran : attempt (do let _ ← Script.exec engine (fuel + 1) callback) begun with
    ⟨_ | outcome, returned⟩ <;> rw [ran] at ended <;> cases ended
  case error.stopped stopped => exact stopped.elim
  case error.raised => cases (attempt_eq_error_iff.mp ran).1
  case ok.returned tended =>
      rcases tended.stands with ⟨later, _, _, present', _⟩
      have installed : (returned.loop? id).map EventLoop.hook = some later.loop.hook := by
        rw [loop?, present']
        rfl
      rcases rung_of_tended tended (List.mem_append_right _ List.mem_cons_self) outcome with
        ⟨after, same, tended', told, hook, dead⟩
      exact ⟨outcome, _, returned, after, (bind_of_ok ran).trans same, start, ran, told, installed,
        hook.trans installed, tended', dead⟩

/-- The handler of a timer that is called runs its callback. -/
theorem alarm_of_tended (engine : Engine σ) (fuel : Nat)
    (tended : world.Tended started rung owners asked reported ((fd, due) :: calls)
      (some ⟨fd, due.serial⟩) id)
    (present : world.reactor? id = some reactor)
    (found : reactor.loop.registrations.get? fd = some registration)
    (handles : registration.handler = .timer ⟨fd, due.serial⟩ false callback)
    (good : Script.Times id .cancels callback) :
    ∃ (outcome : Except Error Unit) (hook : ErrorHook) (returned after : World σ),
      alarm (Script.exec engine (fuel + 1)) id ⟨fd, due.serial⟩ false callback world =
        (ofExcept outcome : Action σ Unit) after ∧
      Came (Script.exec engine (fuel + 1)) started (rung ++ [⟨fd, due.serial⟩]) owners asked reported
        calls id ⟨fd, due.serial⟩ callback
        (tell (.ringing id ⟨fd, due.serial⟩ (noticeHollow id ⟨fd, due.serial⟩ world).2.kernel.now)
          (noticeHollow id ⟨fd, due.serial⟩ world).2).2 outcome hook returned after := by
  have noticed : (noticeHollow id ⟨fd, due.serial⟩ world).2.reactor? id = some reactor ∧
      (noticeHollow id ⟨fd, due.serial⟩ world).2.Tended started rung owners asked reported
        ((fd, due) :: calls) (some ⟨fd, due.serial⟩) id := by
    have remark : (Event.hollow id ⟨fd, due.serial⟩).IsRemark id := trivial
    rw [noticeHollow_eq]
    dsimp only
    split
    · exact ⟨present, tended.told remark⟩
    · exact ⟨present, tended⟩
  rcases ring_of_tended engine fuel noticed.2 noticed.1 found handles good with
    ⟨outcome, hook, returned, after, rang, came⟩
  refine ⟨outcome, hook, returned, after, ?_, came⟩
  rcases came.tended.stands with ⟨later, _, _, found', _⟩
  have quiet : noticeUnread id ⟨fd, due.serial⟩ after = (.ok (), after) := by
    rw [noticeUnread_eq, if_neg]
    rintro ⟨live, _⟩
    rw [found'] at live
    exact Bool.false_ne_true ((came.dead later found').symm.trans live)
  rw [alarm_eq, bind_of_ok (attempt_eq_ok_iff.mpr rang), bind_of_ok quiet]

/-- The hook is told of the outcome of a callback. -/
theorem conclude_of_tended {ringing : Option TimerHandle} {hook : ErrorHook}
    (tended : world.Tended started rung owners asked reported calls ringing id)
    (installed : (world.loop? id).map EventLoop.hook = some hook) (outcome : Except Error Unit) :
    ∃ after, conclude id outcome world = (.ok true, after) ∧
      after.journal.toList = world.journal.toList ++ hook.reports outcome ∧
      after.Tended started rung owners asked reported calls ringing id := by
  cases outcome with
  | ok value => exact ⟨world, rfl, (List.append_nil _).symm, tended⟩
  | error error =>
      rcases Option.map_eq_some_iff.mp installed with ⟨loop, looped, rfl⟩
      have remark : (loop.hook.told error).IsRemark id := by cases loop.hook <;> trivial
      exact ⟨_, handedOver_iff.mp (.failed looped), journal_tell _ _, tended.told remark⟩

/-- The callback of the timer that is called next is run in its turn. -/
theorem round_of_tended (engine : Engine σ) (fuel : Nat) {report : Report}
    (fresh : reported.running = [])
    (tended : world.Tended started rung owners asked reported ((fd, due) :: calls) none id)
    (invoked : Due world id report.event registration) (present : world.reactor? id = some reactor)
    (found : reactor.loop.registrations.get? fd = some registration)
    (handles : registration.handler = .timer ⟨fd, due.serial⟩ false callback)
    (straight : report.registration = some registration.serial)
    (good : Script.Times id .cancels callback) :
    ∃ after, deliver (Script.exec engine (fuel + 1)) id report world = (.ok true, after) ∧
      Rounds (Script.exec engine (fuel + 1)) id started world [⟨fd, due.serial⟩] after ∧
      after.Tended started (rung ++ [⟨fd, due.serial⟩]) owners asked reported calls none id := by
  rcases tended.begun present found handles straight with ⟨begins, later, present', found'⟩
  rcases alarm_of_tended engine fuel begins present' found' handles good with
    ⟨outcome, hook, returned, middle, rang, came⟩
  have same : handle (Script.exec engine (fuel + 1)) id (Token.descriptor report.event.token)
      report.event.ready registration.handler =
        alarm (Script.exec engine (fuel + 1)) id ⟨fd, due.serial⟩ false callback := by
    rw [handles]
    rfl
  have inLine := World.Returning.finish ⟨came.tended.inLine, came.dead⟩ fresh registration.serial
  rcases came.tended.stands with ⟨last, _, held, found'', _⟩
  have idled : (changeLoop id (idle registration.serial) middle).2.Tended started
      (rung ++ [⟨fd, due.serial⟩]) owners asked reported calls none id := by
    rw [changeLoop_of_some _ found''] at inLine ⊢
    exact came.tended.reloop held inLine rfl rfl rfl
  have kept : ((changeLoop id (idle registration.serial) middle).2.loop? id).map EventLoop.hook =
      some hook := by
    rw [← came.kept, changeLoop_of_some _ found'', loop?, loop?, reactor?_settled found'' _ id,
      if_pos rfl, found'']
    rfl
  have journal : (changeLoop id (idle registration.serial) middle).2.journal = middle.journal := rfl
  rcases conclude_of_tended idled kept outcome with ⟨after, concluded, reports, tended'⟩
  have delivered : deliver (Script.exec engine (fuel + 1)) id report world = (.ok true, after) := by
    rw [deliver_of_due invoked, same, bind_of_ok (attempt_eq_ok_iff.mpr rang), changeLoop_bind_eq,
      concluded]
  have told : after.journal.toList =
      returned.journal.toList ++ .rang id ⟨fd, due.serial⟩ :: hook.reports outcome := by
    rw [reports, journal, came.told, List.append_assoc]
    rfl
  have round : Round (Script.exec engine (fuel + 1)) id ⟨fd, due.serial⟩ callback world after :=
    .intro invoked handles delivered came.ran came.installed told
  exact ⟨after, delivered, .next .done came.start round, tended'⟩

end Rounds

/-! ## Batches -/

section Batches

variable {started : List (TimerHandle × Script σ)} {rung : List TimerHandle} {owners asked : Nat}
  {reported : EventLoop (Handler σ)} {called : List (Descriptor × Alarm)} {world : World σ}
  {report : Report} {reports : List Report}

/-- In its turn an event is passed over, or the callback of the timer that is called next is run. -/
theorem deliver_of_tended (engine : Engine σ) (fuel : Nat) (fresh : reported.running = [])
    (all : reported.serial = asked) (summons : Summons reported (report :: reports) called)
    (tended : world.Tended started rung owners asked reported called none id) :
    ∃ left more invoked after, Summons reported reports left ∧
      deliver (Script.exec engine (fuel + 1)) id report world = (.ok invoked, after) ∧
      Rounds (Script.exec engine (fuel + 1)) id started world more after ∧
      after.Tended started (rung ++ more) owners asked reported left none id ∧
      ((∃ registration, Due world id report.event registration) → more ≠ []) := by
  by_cases invoked : ∃ registration, Due world id report.event registration
  · rcases invoked with ⟨registration, invoked⟩
    rcases tended.stands with ⟨reactor, dues, _, present, _, _, asks, _, lineup⟩
    rcases invoked.inForce with ⟨loop, looped, found, _⟩
    have same : reactor.loop = loop := by
      rw [loop?, present] at looped
      exact Option.some.inj looped
    subst same
    -- nothing was registered since the events were reported
    have old := (lineup.sound.loop.registered _ registration found).1
    rw [asks, ← all] at old
    have before := lineup.grown.kept _ registration found old
    cases summons with
    | nobody _ unregistered _ _ => cases unregistered.symm.trans before
    | timer _ site registered _ named _ handles rest =>
        rw [site] at found before
        cases registered.symm.trans before
        rcases handles with ⟨callback, handles⟩
        rcases lineup.seated _ registration found with ⟨number, callback', handles', -, good⟩
        cases handles.symm.trans handles'
        rcases round_of_tended engine fuel fresh tended invoked present found handles named good
          with ⟨after, delivered, rounds, tended'⟩
        exact ⟨_, _, true, after, rest, delivered, rounds, tended', fun _ => List.cons_ne_nil _ _⟩
  · have nobody : ∀ registration, ¬Due world id report.event registration :=
      fun registration due => invoked ⟨registration, due⟩
    have passed : deliver (Script.exec engine (fuel + 1)) id report world = (.ok false, world) :=
      deliver_of_none (Option.eq_none_iff_forall_ne_some.mpr fun registration found =>
        nobody registration (due_iff.mp found))
    rcases ended_undelivered summons tended.inLine nobody with ⟨left, rest, inLine⟩
    refine ⟨left, [], false, world, rest, passed, .done, ?_, fun due => absurd due invoked⟩
    rw [List.append_nil]
    exact { tended with inLine }

/-- All that were called have had their turns in the end. -/
theorem deliverAll_of_tended (engine : Engine σ) (fuel : Nat) (fresh : reported.running = [])
    (all : reported.serial = asked) (summons : Summons reported reports called)
    (tended : world.Tended started rung owners asked reported called none id) :
    ∃ more count after,
      deliverAll (Script.exec engine (fuel + 1)) id reports world = (.ok count, after) ∧
      Rounds (Script.exec engine (fuel + 1)) id started world more after ∧
      after.Tended started (rung ++ more) owners asked reported [] none id ∧
      ((∃ report rest registration, reports = report :: rest ∧
        Due world id report.event registration) → more ≠ []) := by
  induction reports generalizing world rung called with
  | nil =>
      cases summons
      refine ⟨[], 0, world, rfl, .done, ?_, ?_⟩
      · rw [List.append_nil]
        exact tended
      · rintro ⟨_, _, _, none, _⟩
        cases none
  | cons report rest ih =>
      rcases deliver_of_tended engine fuel fresh all summons tended with
        ⟨left, more, invoked, middle, summons', delivered, rounds, tended', some⟩
      rcases ih summons' tended' with ⟨others, count, after, delivered', rounds', tended'', -⟩
      refine ⟨more ++ others, if invoked then count + 1 else count, after, ?_, rounds.trans rounds',
        ?_, ?_⟩
      · unfold deliverAll
        rw [bind_of_ok delivered, bind_of_ok delivered']
        rfl
      · rw [← List.append_assoc]
        exact tended''
      · rintro ⟨_, _, registration, same, due⟩ none
        cases same
        exact some ⟨registration, due⟩ (List.append_eq_nil_iff.mp none).1

end Batches

/-! ## Polls -/

section Polls

variable {started : List (TimerHandle × Script σ)} {rung : List TimerHandle} {owners asked : Nat}
  {reported : EventLoop (Handler σ)} {world : World σ}

/-- Who is registered when an event is reported for a timer is to be started for it. -/
theorem due_of_reported {callbacks : Script σ → Prop} {dues : Dues} {kernel : Kernel}
    {reactor : Reactor (Handler σ)} {event : Readiness} {watch : Watch} {fd : Descriptor}
    (lineup : reactor.Lineup callbacks reported dues [] none id world.kernel world.journal.toList)
    (tidy : reactor.Tidy world.kernel) (present : world.reactor? id = some reactor)
    (still : Still world.kernel kernel)
    (watched : kernel.watch? reactor.loop.poller.list fd = some watch)
    (token : event.token = watch.token) :
    ∃ registration, Due ({ world with kernel } : World σ) id event registration := by
  rw [watch?_congr (still.standing _)] at watched
  rcases tidy.registered fd watch watched with ⟨registration, found⟩
  rcases lineup.due_of_registered found with ⟨due, callback, dueAt, handles⟩
  rcases lineup.watched fd due registration dueAt found with ⟨interest, watched'⟩
  cases watched.symm.trans watched'
  have site : Token.descriptor event.token = fd := by
    rw [token]
    exact lineup.sited.token_of_watch? watched
  refine ⟨registration, ⟨reactor.loop, ?_, ?_, fun running => ?_⟩, token.symm⟩
  · exact congrArg (Option.map Reactor.loop) present
  · rw [site]
    exact found
  · cases lineup.idle fd registration due.serial callback found handles running

/-- A wait for a loop that is not empty comes back with events, and at least one callback is
run. -/
theorem pollHeld_of_tended (engine : Engine σ) (fuel : Nat) {reactor : Reactor (Handler σ)}
    (tended : world.Tended started rung owners asked reported [] none id)
    (present : world.reactor? id = some reactor) (full : reactor.loop.isEmpty ≠ true) :
    ∃ more count reported' after,
      pollHeld (Script.exec engine (fuel + 1)) id none reactor.loop world = (.ok count, after) ∧
      Rounds (Script.exec engine (fuel + 1)) id started world more after ∧
      after.Tended started (rung ++ more) owners asked reported' [] none id ∧ more ≠ [] := by
  rcases tended.stands with ⟨reactor', dues, found, present', tidy, ledger, asks, lawful, lineup⟩
  cases present.symm.trans present'
  rcases lineup.poll_reports_some tidy full with ⟨events, kernel, polled, some, calms⟩
  have still := Poller.still_of_poll polled
  rcases Poller.fronts_of_poll lineup.lined polled with ⟨fds, fronts⟩
  have awaited : ({ world with kernel } : World σ).Tended started rung owners asked
      (Reactor.Lineup.resting reactor.loop) (Reactor.Lineup.calls dues fds) none id := by
    refine ⟨fun _ => ⟨lawful, fun later found' => ?_⟩, tended.direct, tended.unlimited, reactor, found,
      tidy.passed still calms, ledger, asks⟩
    cases present.symm.trans found'
    exact ⟨_, lineup.awaited still fronts⟩
  have summons := lineup.summons still fronts.tokens
  have all : (Reactor.Lineup.resting reactor.loop).serial = asked := asks
  rcases deliverAll_of_tended engine fuel rfl all summons awaited with
    ⟨more, count, after, delivered, rounds, tended', first⟩
  have begins : Rounds (Script.exec engine (fuel + 1)) id started world [] { world with kernel } :=
    .waits .done rfl rfl
  refine ⟨more, count, _, after, ?_, begins.trans rounds, tended', ?_⟩
  · unfold pollHeld
    rw [bind_of_ok (system_of_ok polled), delivered]
  · cases fronts.tokens with
    | nil => exact absurd rfl some
    | cons watched _ =>
        rcases watched with ⟨watch, watched, token⟩
        rcases due_of_reported lineup tidy present still watched token with ⟨registration, due⟩
        exact first ⟨_, _, registration, rfl, due⟩

theorem poll_of_tended (engine : Engine σ) (fuel : Nat) {loop : EventLoop (Handler σ)}
    (tended : world.Tended started rung (owners + 1) asked reported [] none id)
    (looped : world.loop? id = some loop) (full : loop.isEmpty ≠ true) :
    ∃ more count reported' after,
      poll (Script.exec engine (fuel + 1)) id none world = (.ok count, after) ∧
      Rounds (Script.exec engine (fuel + 1)) id started world more after ∧
      after.Tended started (rung ++ more) (owners + 1) asked reported' [] none id ∧ more ≠ [] := by
  have held : Rounds (Script.exec engine (fuel + 1)) id started world [] (holdReactor id world).2 :=
    .waits .done rfl rfl
  rw [poll_eq looped]
  rw [← loop?_holdReactor world id id] at looped
  rcases Option.map_eq_some_iff.mp looped with ⟨reactor, present, rfl⟩
  rcases pollHeld_of_tended engine fuel tended.hold present full with
    ⟨more, count, reported', after, polled, rounds, tended', some⟩
  refine ⟨more, count, reported', (releaseReactor id after).2, ?_,
    (held.trans rounds).waits rfl rfl, tended'.letGo, some⟩
  have attempted : attempt (pollHeld (Script.exec engine (fuel + 1)) id none reactor.loop)
      (holdReactor id world).2 = (.ok (.ok count), after) := attempt_eq_ok_iff.mpr polled
  rw [bind_of_ok attempted]
  rfl

/-- Each turn of the loop runs a callback that was not run before, so there are not more turns than
timers. -/
theorem turn_of_tended (engine : Engine σ) (fuel turns : Nat)
    (tended : world.Tended started rung (owners + 1) asked reported [] none id)
    (enough : started.length < rung.length + turns) :
    ∃ more reported' last,
      turn (Script.exec engine (fuel + 1)) id turns world = (.ok (), (tell (.drained id) last).2) ∧
      Rounds (Script.exec engine (fuel + 1)) id started world more last ∧
      last.Tended started (rung ++ more) (owners + 1) asked reported' [] none id ∧
      ∃ loop, last.loop? id = some loop ∧ loop.isEmpty = true := by
  induction turns generalizing world rung reported with
  | zero =>
      rcases tended.stands with ⟨_, _, _, _, _, ledger, _⟩
      exact absurd ledger.length_le (Nat.not_le_of_lt enough)
  | succ turns ih =>
      have looped : ∃ loop, world.loop? id = some loop := by
        rcases tended.stands with ⟨reactor, _, _, present, _⟩
        exact ⟨reactor.loop, by rw [loop?, present]; rfl⟩
      rcases looped with ⟨loop, looped⟩
      unfold turn
      rw [get_bind_eq, looped]
      dsimp only
      by_cases empty : loop.isEmpty = true
      · rw [if_pos empty]
        refine ⟨[], reported, world, rfl, .done, ?_, loop, looped, empty⟩
        rw [List.append_nil]
        exact tended
      · rcases poll_of_tended engine fuel tended looped empty with
          ⟨more, count, reported', middle, polled, rounds, tended', some⟩
        have fewer : started.length < (rung ++ more).length + turns := by
          have := List.length_pos_of_ne_nil some
          rw [List.length_append]
          omega
        rcases ih tended' fewer with ⟨others, reported'', last, turned, rounds', tended'', rest⟩
        rw [if_neg empty, bind_of_ok polled]
        refine ⟨more ++ others, reported'', last, turned, rounds.trans rounds', ?_, rest⟩
        rw [← List.append_assoc]
        exact tended''

end Polls

/-! ## Drives -/

/-- A loop was driven until nothing was left of its timers. -/
structure Drained (run : Script σ → Action σ Value) (id : Nat)
    (started : List (TimerHandle × Script σ)) (before : World σ) (rung : List TimerHandle)
    (after : World σ) : Prop where
  /-- The callbacks of some timers were run, and nothing else was done by scripts. -/
  rounds : ∃ last, Rounds run id started before rung last ∧ after.memory = last.memory ∧
    after.journal.toList = last.journal.toList ++ [.drained id]
  /-- None of them was run twice, and the history tells of these only. -/
  once : rung.Nodup
  starts : ∀ timer, startsOf after.journal.toList id timer = rung.count timer
  /-- They were those of the timers that had not been cancelled before. -/
  distinct : (started.map Prod.fst).Nodup
  chosen : ∀ timer ∈ started.map Prod.fst,
    timer ∈ rung ↔ ¬CalledOff after.journal.toList id timer
  /-- The loop is empty, and so is the table of live timers. -/
  empty : ∃ reactor, after.reactor? id = some reactor ∧ reactor.loop.isEmpty = true ∧
    reactor.timers.live.size = 0

/-- Driving a loop with some timers, as yet unrung, drains it. -/
theorem drive_of_tended {started : List (TimerHandle × Script σ)} {owners asked : Nat}
    {reported : EventLoop (Handler σ)} {world : World σ} (engine : Engine σ) (fuel : Nat) {turns : Nat}
    (tended : world.Tended started [] (owners + 1) asked reported [] none id)
    (enough : started.length < turns) :
    ∃ after rung, drive (Script.exec engine (fuel + 1)) id turns world = (.ok (), after) ∧
      Drained (Script.exec engine (fuel + 1)) id started world rung after := by
  have enough' : started.length < ([] : List TimerHandle).length + turns := by
    rwa [List.length_nil, Nat.zero_add]
  rcases turn_of_tended engine fuel turns tended.hold enough' with
    ⟨rung, reported', last, turned, rounds, tended', loop, looped, empty⟩
  have begins : Rounds (Script.exec engine (fuel + 1)) id started world [] (holdReactor id world).2 :=
    .waits .done rfl rfl
  have remark : (Event.drained id).IsRemark id := trivial
  have left := (tended'.told remark).letGo
  have journal : (releaseReactor id (tell (.drained id) last).2).2.journal =
      (tell (.drained id) last).2.journal := rfl
  rcases left.stands with ⟨reactor, dues, _, present, _, ledger, _, _, lineup⟩
  have same : reactor.loop = loop := by
    have before : last.reactor? id = some reactor := (reactor?_releaseReactor present).1
    rw [loop?, before] at looped
    exact Option.some.inj looped
  subst same
  have dead : ∀ fd, reactor.timers.live.get? fd = none := by
    intro fd
    cases live : reactor.timers.live.get? fd with
    | none => rfl
    | some entry =>
        rcases lineup.registered fd entry live with ⟨registration, found⟩
        cases found.symm.trans (Table.get?_of_size_zero (of_decide_eq_true empty) fd)
  have drained : ∀ timer ∈ started.map Prod.fst, timer ∈ rung ∨
      CalledOff (releaseReactor id (tell (.drained id) last).2).2.journal.toList id timer := by
    intro timer member
    rcases ledger.fate timer member with live | rest
    · rcases isLive_iff.mp live with ⟨_, found⟩
      cases found.symm.trans (dead timer.fd)
    · exact rest
  refine ⟨(releaseReactor id (tell (.drained id) last).2).2, rung, ?_,
    { rounds := ⟨last, begins.trans rounds, rfl, by rw [journal, journal_tell]⟩
      once := ledger.once
      starts := ledger.starts
      distinct := ledger.distinct
      chosen := fun timer member =>
        ⟨ledger.apart timer, fun kept => (drained timer member).resolve_right kept⟩
      empty := ⟨reactor, present, empty, Table.size_eq_zero_iff.mpr dead⟩ }⟩
  have holds : holdReactor id world = (.ok (), (holdReactor id world).2) := rfl
  have attempted : attempt (turn (Script.exec engine (fuel + 1)) id turns) (holdReactor id world).2 =
      (.ok (.ok ()), (tell (.drained id) last).2) := attempt_eq_ok_iff.mpr turned
  unfold drive withReactor
  rw [bind_of_ok holds, bind_of_ok attempted]
  rfl

end Dispatch

/-! ## Loops with some timers -/

/-- Nothing is known yet of a loop that will get some number, no call on the kernel will fail, and
no timer is armed. -/
structure World.Unused (id : Nat) (world : World σ) : Prop where
  unheard : ∀ event ∈ world.journal.toList, event.IsRemark id
  unlimited : world.steps = none
  willing : world.kernel.Willing
  unarmed : ∀ fd, world.kernel.alarm? fd = none

/-- A host has armed no timer when it starts, and knows of no loop. -/
theorem World.unused_start (input : Bytes) (disk : Disk) (environment : Table String String)
    (memory : σ) (id : Nat) :
    (World.start (Kernel.start input none) disk environment memory).Unused id where
  unheard := nofun
  unlimited := rfl
  willing := ⟨rfl, rfl⟩
  unarmed fd := by
    have opened : (Kernel.start input none).resource? fd =
        if stdin = fd then some (.reader 0) else none := by
      change Option.map _ (if stdin = fd then some _ else none) = _
      split <;> rfl
    change (Kernel.start input none).alarm? fd = none
    by_cases same : stdin = fd
    · rw [alarm?, opened, if_pos same]
    · rw [alarm?, opened, if_neg same]

/-- A loop with which nothing was done but to start some timers that ring once, and whose callbacks
only cancel timers, change the hook for errors and fail, or do what is no business of loops.
Between the starts the same may be done. -/
inductive Script.Prepared (id : Nat) : List (TimerHandle × Script σ) → World σ → Prop where
  | made {capacity : Nat} {world opened : World σ} (unused : world.Unused id)
      (made : newReactor capacity world = (.ok id, opened)) : Prepared id [] opened
  | started {started : List (TimerHandle × Script σ)} {world after : World σ} {delay : Span}
      {callback : Script σ} {timer : TimerHandle} (prepared : Prepared id started world)
      (times : Script.Times id .cancels callback)
      (ended : Dispatch.schedule id delay false callback world = (.ok timer, after)) :
      Prepared id ((timer, callback) :: started) after
  | meanwhile {started : List (TimerHandle × Script σ)} {world after : World σ} {request : Request}
      {reply : request.Reply} (prepared : Prepared id started world) (calm : request.IsCalm id)
      (ended : Script.answer request world = (.ok reply, after)) : Prepared id started after

namespace World

/-- The loop of a world is tended, and no timer has rung. -/
def Ready (started : List (TimerHandle × Script σ)) (id : Nat) (world : World σ) : Prop :=
  ∃ asked reported, world.Tended started [] 1 asked reported [] none id

theorem ready_newReactor {capacity : Nat} {world opened : World σ} (unused : world.Unused id)
    (made : newReactor capacity world = (.ok id, opened)) : opened.Ready [] id := by
  have resting : Dispatch.AtRest (Script.Times id .cancels) id opened :=
    atRest_newReactor made fun event member => (unused.unheard event member).isAside
  rcases newReactor_of_ok made with ⟨kernel, fd, created, rfl, rfl⟩
  rcases resting with ⟨reported, inLine⟩
  have tidy := Reactor.tidy_create created unused.willing unused.unarmed
  have held : (world.reactors.insert world.fresh (.one (.blank ⟨fd, max capacity 1⟩))).get?
      world.fresh = some ⟨.blank ⟨fd, max capacity 1⟩, 1⟩ :=
    (Table.get?_insert _ _ _ _).trans (if_pos rfl)
  exact ⟨0, reported, inLine, fun delivery member own _ => unused.unheard _ member own,
    unused.unlimited, _, held, tidy, .blank _ unused.unheard, rfl⟩

/-- One more timer is started. -/
theorem Ready.schedule {started : List (TimerHandle × Script σ)} {world after : World σ} {delay : Span}
    {callback : Script σ} {timer : TimerHandle} (ready : world.Ready started id)
    (times : Script.Times id .cancels callback)
    (ended : Dispatch.schedule id delay false callback world = (.ok timer, after)) :
    after.Ready ((timer, callback) :: started) id := by
  rcases ready with ⟨asked, reported, tended⟩
  have inLine := inLine_schedule delay times world tended.inLine
  rw [ended] at inLine
  rcases tended.stands with ⟨reactor, dues, found, present, tidy, ledger, _, _, lineup⟩
  rcases Dispatch.schedule_eq_ok_iff.mp ended with ⟨_, ⟨kernel, later⟩, present', called, rfl⟩
  cases present.symm.trans present'
  cases inLine with
  | returned inLine =>
      have kept := Reactor.upholds_schedule (fun timer => Handler.timer timer false callback) delay
        false (world.kernel, reactor) lineup.sound
      rw [called] at kept
      rcases Reactor.joined_of_schedule lineup.sound lineup.lined.opened called with ⟨fd, rfl, joined⟩
      rcases joined.enrolled with ⟨armed, enrolled⟩
      have ledger' := ledger.joined (lineup.sound.dead_of_free joined.free) enrolled
      refine ⟨later.loop.serial, reported, inLine, ?_, tended.unlimited, later, ?_,
        tidy.joined joined kept.grown.loop.poller, ?_, rfl⟩
      · rw [Dispatch.announced, journal_tell, journal_tell]
        refine Direct.append (Direct.append tended.direct ?_) ?_ <;> intro _ member
        all_goals cases List.mem_singleton.mp member
      · refine (Table.get?_modify world.reactors id id _).trans ?_
        rw [if_pos rfl, found]
        rfl
      · rw [Dispatch.announced, journal_tell, journal_tell]
        refine Reactor.Ledger.told (Reactor.Ledger.told ledger' ?_ ?_) ?_ ?_ <;> simp

/-- What is no business of its timers leaves the loop ready. -/
theorem Ready.answer {started : List (TimerHandle × Script σ)} {world after : World σ}
    {request : Request} {reply : request.Reply} (ready : world.Ready started id)
    (calm : request.IsCalm id) (ended : Script.answer request world = (.ok reply, after)) :
    after.Ready started id := by
  rcases ready with ⟨asked, reported, tended⟩
  have answered := composed_tended.answers request calm world tended
  rw [ended] at answered
  cases answered with
  | returned tended => exact ⟨asked, reported, tended⟩

end World

namespace Script

theorem Prepared.ready {started : List (TimerHandle × Script σ)} {world : World σ}
    (prepared : Prepared id started world) : world.Ready started id := by
  induction prepared with
  | made unused made => exact ready_newReactor unused made
  | started _ times ended ih => exact ih.schedule times ended
  | meanwhile _ calm ended ih => exact ih.answer calm ended

/-- Loops are drained.  On a loop of any capacity with nothing but some timers that ring once, for
any delays, driving comes back well after at most one turn more than there are timers, if no call
on the kernel fails and waits are not limited.  Callbacks may fail, cancel any of the timers, and
change the hook for errors.  Then nothing is left on the loop, the callbacks of those timers were
run, once each, that had not been cancelled before, and no others, and the hook was told of each of
their errors once. -/
theorem loop_drains (engine : Engine σ) (fuel : Nat) {started : List (TimerHandle × Script σ)}
    {ready : World σ} (prepared : Prepared id started ready) {turns : Nat}
    (enough : started.length < turns) :
    ∃ after rung, Dispatch.drive (exec engine (fuel + 1)) id turns ready = (.ok (), after) ∧
      Dispatch.Drained (exec engine (fuel + 1)) id started ready rung after := by
  rcases prepared.ready with ⟨asked, reported, tended⟩
  exact Dispatch.drive_of_tended engine fuel tended enough

/-- The first callback to be run cancels the last timer, has errors given to a listener, and fails. -/
def quitter : Script Unit :=
  .ask (.cancel 0 ⟨6, 3⟩) fun _ => .ask (.setHook 0 (.listener 7)) fun _ => .fail (.config "quits")

/-- The timers of a crew, the last first.  The one without a delay is the first to ring. -/
def crew : List (Span × Script Unit) :=
  [(⟨1, 0⟩, .done .null), (.zero, quitter), (⟨0, 5⟩, .done .null)]

/-- A loop that takes two events at a time, with some timers. -/
def crewStart : List (Span × Script Unit) → World Unit
  | [] => (newReactor 2 (.start (Kernel.start [] none) .empty .empty ())).2
  | (delay, callback) :: earlier =>
      (Dispatch.schedule 0 delay false callback (crewStart earlier)).2

/-- An engine without a language. -/
def mute : Engine Unit :=
  ⟨fun _ _ => .ok fun _ => .done .null, fun _ _ => .done .null, fun _ _ => .done .null⟩

theorem prepared_crew :
    Prepared 0 [(⟨6, 3⟩, .done .null), (⟨5, 2⟩, quitter), (⟨4, 1⟩, .done .null)]
      (crewStart crew) := by
  have single : Times 0 .cancels (.done .null : Script Unit) := .done _
  have quits : Times 0 .cancels quitter :=
    .ask (.cancel _) fun _ => .ask (.setHook _ _) fun _ => .fail _
  have made : newReactor 2 (.start (Kernel.start [] none) .empty .empty ()) =
      (.ok 0, crewStart []) := Prod.ext (by decide +kernel) rfl
  have first : Dispatch.schedule 0 ⟨0, 5⟩ false (.done .null) (crewStart (crew.drop 3)) =
      (.ok ⟨4, 1⟩, crewStart (crew.drop 2)) := Prod.ext (by decide +kernel) rfl
  have second : Dispatch.schedule 0 .zero false quitter (crewStart (crew.drop 2)) =
      (.ok ⟨5, 2⟩, crewStart (crew.drop 1)) := Prod.ext (by decide +kernel) rfl
  have third : Dispatch.schedule 0 ⟨1, 0⟩ false (.done .null) (crewStart (crew.drop 1)) =
      (.ok ⟨6, 3⟩, crewStart crew) := Prod.ext (by decide +kernel) rfl
  exact (((Prepared.made (unused_start _ _ _ _ _) made).started single first).started quits
    second).started single third

/-- Of the crew the one without a delay rings first, and the last does not ring.  The error of the
first goes to the listener that it has asked for. -/
theorem crew_is_drained :
    ∃ after rung, Dispatch.drive (exec mute 1) 0 4 (crewStart crew) = (.ok (), after) ∧
      Dispatch.Drained (exec mute 1) 0
        [(⟨6, 3⟩, .done .null), (⟨5, 2⟩, quitter), (⟨4, 1⟩, .done .null)] (crewStart crew) rung
        after ∧
      ⟨5, 2⟩ ∈ rung ∧ ⟨4, 1⟩ ∈ rung ∧ ⟨6, 3⟩ ∉ rung ∧
      .uncaught 7 (.config "quits") ∈ after.journal.toList := by
  have history : (Dispatch.drive (exec mute 1) 0 4 (crewStart crew)).2.journal.toList =
      [.scheduled 0 ⟨4, 1⟩ false (some 2), .armed 0 ⟨4, 1⟩ false 0 ⟨0, 5⟩,
        .scheduled 0 ⟨5, 2⟩ false (some 3), .armed 0 ⟨5, 2⟩ false 0 .zero,
        .scheduled 0 ⟨6, 3⟩ false (some 4), .armed 0 ⟨6, 3⟩ false 0 ⟨1, 0⟩,
        .handling ⟨0, 1, some 1, some 1, 3, 8589934597, 1⟩, .ringing 0 ⟨5, 2⟩ 1,
        .cancelled 0 ⟨6, 3⟩, .rang 0 ⟨5, 2⟩, .uncaught 7 (.config "quits"),
        .handling ⟨0, 0, some 0, some 0, 3, 4294967300, 5⟩, .ringing 0 ⟨4, 1⟩ 5,
        .rang 0 ⟨4, 1⟩, .drained 0] := by decide +kernel
  have drains := loop_drains mute 0 prepared_crew (by decide : 3 < 4)
  rw [Nat.zero_add] at drains
  rcases drains with ⟨after, rung, driven, drained⟩
  rw [driven] at history
  have count := drained.starts
  rw [history] at count
  refine ⟨after, rung, driven, drained, ?_, ?_, ?_, ?_⟩
  · exact List.count_pos_iff.mp (count ⟨5, 2⟩ ▸ by decide)
  · exact List.count_pos_iff.mp (count ⟨4, 1⟩ ▸ by decide)
  · exact List.count_eq_zero.mp ((count ⟨6, 3⟩).symm.trans (by decide))
  · rw [history]
    decide

end Script

end ScriptHost
