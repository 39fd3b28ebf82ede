import ScriptHost.Proofs.Loop.Timekeeping

/-!
# Timers ring in the order of their deadlines

A turn of the loop takes the front of the line.  At its turn a timer that was reported
either is gone, and is passed over, or its callback is run, and it is gone afterwards; in
either case the next that was reported is the next to ring.  So whatever the callbacks do
with the timers of the loop, as long as they do not turn it themselves, of two timers that
ring the one with the earlier deadline rings first.
-/

namespace ScriptHost

open World Kernel

variable {σ α : Type} {id : Nat}

/-! ## Waits -/

namespace Poller

variable {poller : Poller} {timeout : Option Span} {kernel after : Kernel} {dues : Dues}

/-- A wait that comes back has reported the front of the line. -/
theorem fronts_of_poll {events : List Readiness} (lined : kernel.Lined poller.list dues)
    (polled : poller.poll timeout kernel = (.ok events, after)) :
    ∃ fds, Fronts after poller.list dues events fds := by
  have awaited := lined.wait poller.capacity (timeout.map Span.toMillis)
  rcases poll_eq_ok_iff.mp polled with waited | ⟨rfl, waited⟩ <;> rw [waited] at awaited
  · cases awaited with
    | reported fronts => exact ⟨_, fronts⟩
  · cases awaited with
    | failed lined => exact ⟨[], lined.fronts_nil⟩

/-- Where a wait has failed the line stands. -/
theorem lined_of_poll {cause : SystemError} (lined : kernel.Lined poller.list dues)
    (polled : poller.poll timeout kernel = (.error cause, after)) : after.Lined poller.list dues := by
  have awaited := lined.wait poller.capacity (timeout.map Span.toMillis)
  rcases poll_eq_error_iff.mp polled with ⟨errno, waited, _⟩
  rw [waited] at awaited
  cases awaited with
  | failed lined => exact lined

end Poller

/-! ## One turn -/

namespace Reactor.Lineup

variable {callbacks : Script σ → Prop} {reported : EventLoop (Handler σ)} {dues : Dues}
  {called : List (Descriptor × Alarm)} {ringing : Option TimerHandle} {kernel : Kernel}
  {reactor : Reactor (Handler σ)} {history : List Event} {fd : Descriptor}
  {report : Dispatch.Report} {registration : Registration (Handler σ)}

/-- Who is started for an event was in force when it was reported, if events go to whom they were
reported for wherever tokens cannot tell. -/
theorem reported_of_addressed
    (lineup : Lineup callbacks reported dues called ringing id kernel reactor history)
    (issued : reported.Issued report.event.token)
    (found : reactor.loop.registrations.get? (Token.descriptor report.event.token) =
      some registration)
    (token : registration.token = report.event.token)
    (idle : registration.serial ∉ reactor.loop.running)
    (direct : 2 ^ 32 < reactor.loop.serial → registration.serial < reported.serial) :
    reported.registrations.get? (Token.descriptor report.event.token) = some registration := by
  by_cases few : reactor.loop.serial ≤ 2 ^ 32
  · have addressed := Dispatch.addressee?_eq_some_iff.mpr ⟨found, token, idle⟩
    exact lineup.grown.kept_of_addressee? lineup.sound.loop few issued addressed
  · exact lineup.grown.kept _ registration found (direct (Nat.lt_of_not_le few))

/-- A timer that is called and live is to be started. -/
theorem due_of_live {world : World σ} {due : Alarm}
    (lineup : Lineup callbacks reported dues ((fd, due) :: called) none id kernel reactor history)
    (present : world.reactor? id = some reactor)
    (site : Token.descriptor report.event.token = fd)
    (found : reported.registrations.get? fd = some registration)
    (token : registration.token = report.event.token)
    (handles : ∃ callback, registration.handler = .timer ⟨fd, due.serial⟩ false callback)
    (live : reactor.timers.live.get? fd = some ⟨due.serial, false⟩) :
    Dispatch.Due world id report.event registration := by
  have held := (lineup.held fd due List.mem_cons_self live).trans found
  rcases handles with ⟨callback, handles⟩
  refine ⟨⟨reactor.loop, ?_, ?_, fun running => ?_⟩, token⟩
  · rw [World.loop?, present]
    rfl
  · rw [site]
    exact held
  · cases lineup.idle fd registration due.serial callback held handles running

end Reactor.Lineup

namespace World

variable {callbacks : Script σ → Prop} {reported : EventLoop (Handler σ)}
  {called called' : List (Descriptor × Alarm)} {ringing ringing' : Option TimerHandle}
  {world after : World σ} {fd : Descriptor} {due : Alarm} {outcome : Except Error Unit}

/-- Where events have gone to others, nothing is said. -/
theorem ended_of_indirect {ended : Except Failure α × World σ}
    (indirect : ¬Direct ended.2.journal.toList id) :
    Ended (InTurn id) (InLine callbacks reported called ringing id) ended := by
  rcases ended with ⟨⟨_ | _⟩ | _, after⟩
  · exact .raised fun direct => absurd direct indirect
  · exact .stopped fun direct => absurd direct indirect
  · exact .returned fun direct => absurd direct indirect

/-- The callback of the timer that was called next is started. -/
theorem InLine.ring {reactor : Reactor (Handler σ)}
    (inLine : world.InLine callbacks reported ((fd, due) :: called) (some ⟨fd, due.serial⟩) id)
    (present : world.reactor? id = some reactor) (time : Nat) :
    (tell (.ringing id ⟨fd, due.serial⟩ time) world).2.InLine callbacks reported called
      (some ⟨fd, due.serial⟩) id := by
  intro direct
  rw [journal_tell] at direct ⊢
  rcases inLine (direct.earlier fun _ => List.mem_append_left _) with ⟨lawful, lines⟩
  refine ⟨lawful.concat ?_, fun reactor found => ?_⟩
  · rcases lines reactor present with ⟨dues, lineup⟩
    exact lineup.inTurn_ringing time
  · rcases lines reactor found with ⟨dues, lineup⟩
    exact ⟨dues, lineup.ring lawful time⟩

/-- The callback of a timer has come back, and the timer is settled. -/
theorem InLine.settle (inLine : world.InLine callbacks reported called ringing id)
    (timer : TimerHandle) (outcome : Except Error Unit) :
    (Dispatch.settle id timer false outcome world).2.InLine callbacks reported called ringing id := by
  rcases Dispatch.settle_cases world id timer with ⟨reactor, found, live⟩ | dead
  · rw [Dispatch.settle_of_live found live, ofExcept_world]
    exact inLine.settled found fun dues lineup => ⟨_, lineup.settle live outcome⟩
  · rw [Dispatch.settle_of_dead dead, ofExcept_world]
    exact inLine

/-- The timers stand in line while the handler of one that is gone is coming back. -/
def Returning (callbacks : Script σ → Prop) (reported : EventLoop (Handler σ))
    (called : List (Descriptor × Alarm)) (timer : TimerHandle) (id : Nat) (world : World σ) : Prop :=
  world.InLine callbacks reported called (some timer) id ∧
    ∀ reactor, world.reactor? id = some reactor → Reactor.isLive reactor.timers timer = false

theorem Returning.told {timer : TimerHandle} {event : Event}
    (returning : world.Returning callbacks reported called timer id) (aside : event.IsAside id) :
    (tell event world).2.Returning callbacks reported called timer id :=
  ⟨returning.1.told aside, returning.2⟩

/-- The handler of the timer that is called next is started. -/
theorem InLine.begun {reactor : Reactor (Handler σ)} {registration : Registration (Handler σ)}
    {callback : Script σ}
    (inLine : world.InLine callbacks reported ((fd, due) :: called) none id)
    (present : world.reactor? id = some reactor)
    (found : reactor.loop.registrations.get? fd = some registration)
    (handles : registration.handler = .timer ⟨fd, due.serial⟩ false callback)
    (report : Dispatch.Report) :
    (Dispatch.begun world id report registration).InLine callbacks reported ((fd, due) :: called)
        (some ⟨fd, due.serial⟩) id ∧
      ∃ later, (Dispatch.begun world id report registration).reactor? id = some later := by
  have aside : (Event.handling (Dispatch.deliveryOf world id report registration)).IsAside id :=
    trivial
  unfold Dispatch.begun
  rw [changeLoop_of_some _ present]
  exact ⟨(inLine.settled present fun dues lineup => ⟨dues, lineup.begin found handles⟩).told aside,
    _, (reactor?_settled present _ id).trans (if_pos rfl)⟩

/-- The handler of a timer that is gone has come back. -/
theorem Returning.finish {timer : TimerHandle}
    (returning : world.Returning callbacks reported called timer id) (fresh : reported.running = [])
    (serial : Nat) :
    (changeLoop id (Dispatch.idle serial) world).2.InLine callbacks reported called none id := by
  rcases returning with ⟨inLine, dead⟩
  rcases present : world.reactor? id with _ | reactor
  · rw [changeLoop_of_none _ present]
    exact inLine.of_none rfl present
  · rw [changeLoop_of_some _ present]
    refine inLine.settled present fun dues lineup => ⟨dues, lineup.finish (fun live => ?_) fresh serial⟩
    have alive := Reactor.isLive_iff.mpr ⟨false, live⟩
    exact Bool.false_ne_true ((dead reactor present).symm.trans alive)

/-- The hook for errors is told, or nobody is. -/
theorem inLine_conclude (outcome : Except Error Unit) :
    Abides (InTurn id) (InLine callbacks reported called ringing id)
      (Dispatch.conclude id outcome : Action σ Bool) := by
  intro world inLine
  rcases Dispatch.conclude_eq id outcome world with ⟨after, concluded⟩
  rw [concluded]
  refine .returned ?_
  cases Dispatch.handedOver_iff.mpr concluded with
  | well => exact inLine
  | @failed error loop present =>
      have aside : (loop.hook.told error).IsAside id := by cases loop.hook <;> trivial
      exact inLine.told aside
  | gone => exact inLine

end World

namespace Dispatch

section Turns

variable {callbacks : Script σ → Prop} {reported : EventLoop (Handler σ)}
  {called : List (Descriptor × Alarm)} {world : World σ} {reactor : Reactor (Handler σ)}
  {fd : Descriptor} {due : Alarm} {callback : Script σ} {run : Script σ → Action σ Value}

/-- What follows the callback of a timer leaves it gone. -/
theorem ended_rung {timer : TimerHandle}
    (inLine : world.InLine callbacks reported called (some timer) id)
    (outcome : Except Error Unit) :
    Ended (InTurn id) (Returning callbacks reported called timer id)
      (rung id timer false outcome world) := by
  rcases attempt_settle world id timer false outcome with ⟨answer, settled⟩
  have returning : (settle id timer false outcome world).2.Returning callbacks reported called timer
      id := ⟨inLine.settle timer outcome, fun reactor found => dead_of_settle found⟩
  have aside : (Event.rang id timer).IsAside id := trivial
  unfold rung
  rw [bind_of_ok settled, tell_bind_eq]
  exact Abides.ofExcept _ _ (returning.told aside)

variable (ran : ∀ callback, callbacks callback → ∀ called ringing,
  Abides (InTurn id) (InLine callbacks reported called ringing id) (run callback))

include ran

theorem ended_ring
    (inLine : world.InLine callbacks reported ((fd, due) :: called) (some ⟨fd, due.serial⟩) id)
    (present : world.reactor? id = some reactor) (good : callbacks callback) :
    Ended (InTurn id) (Returning callbacks reported called ⟨fd, due.serial⟩ id)
      (ring run id ⟨fd, due.serial⟩ false callback world) := by
  have ended := ((ran callback good called _).bind fun _ => Abides.pure ()) _
    (inLine.ring present world.kernel.now)
  rw [ring_eq]
  exact ended.attempt_bind fun outcome middle _ inLine => ended_rung inLine outcome

theorem ended_alarm
    (inLine : world.InLine callbacks reported ((fd, due) :: called) (some ⟨fd, due.serial⟩) id)
    (present : world.reactor? id = some reactor) (good : callbacks callback) :
    Ended (InTurn id) (Returning callbacks reported called ⟨fd, due.serial⟩ id)
      (alarm run id ⟨fd, due.serial⟩ false callback world) := by
  have hollow : (Event.hollow id ⟨fd, due.serial⟩).IsAside id := trivial
  have unread : (Event.unread id ⟨fd, due.serial⟩).IsAside id := trivial
  have noticed : (noticeHollow id ⟨fd, due.serial⟩ world).2.InLine callbacks reported
      ((fd, due) :: called) (some ⟨fd, due.serial⟩) id ∧
      (noticeHollow id ⟨fd, due.serial⟩ world).2.reactor? id = some reactor := by
    rw [noticeHollow_eq]
    dsimp only
    split
    · exact ⟨inLine.told hollow, present⟩
    · exact ⟨inLine, present⟩
  have ended := ended_ring ran noticed.1 noticed.2 good
  rw [alarm_eq]
  refine ended.attempt_bind fun outcome middle _ returning => ?_
  have noticed : (noticeUnread id ⟨fd, due.serial⟩ middle).2.Returning callbacks reported called
      ⟨fd, due.serial⟩ id := by
    rw [noticeUnread_eq]
    dsimp only
    split
    · exact returning.told unread
    · exact returning
  rw [bind_of_ok (noticeUnread_eq id ⟨fd, due.serial⟩ middle)]
  rw [noticeUnread_eq] at noticed
  exact Abides.ofExcept _ _ noticed

omit ran in
/-- A turn recalls that its handler was started. -/
theorem recalls_deliver {report : Report} {registration : Registration (Handler σ)}
    (orderly : ∀ script, Keeps Orderly (run script))
    (invoked : Due world id report.event registration) :
    Recalls (begun world id report registration) (deliver run id report world).2 := by
  rw [deliver_of_due invoked]
  have handled := (orderly_handle orderly id (Token.descriptor report.event.token)
    report.event.ready registration.handler).attempt.mono fun _ _ orderly => orderly.recalls
  have idle : Keeps Recalls (changeLoop id (idle registration.serial) : Action σ Unit) :=
    fun _ => List.prefix_rfl
  have concluded (outcome : Except Error Unit) :
      Keeps Recalls (conclude id outcome : Action σ Bool) :=
    (orderly_loopRules.conclude id outcome).mono fun _ _ orderly => orderly.recalls
  exact (handled.bind fun outcome => idle.bind fun _ => concluded outcome) _

omit ran in
/-- Nobody is started for the event of a timer that is gone, or of nobody. -/
theorem ended_undelivered {report : Report} {reports : List Report}
    (summons : Reactor.Summons reported (report :: reports) called)
    (inLine : world.InLine callbacks reported called none id)
    (nobody : ∀ registration, ¬Due world id report.event registration) :
    ∃ left, Reactor.Summons reported reports left ∧ world.InLine callbacks reported left none id := by
  cases summons with
  | nobody _ _ _ rest => exact ⟨called, rest, inLine⟩
  | timer _ site found token _ _ handles rest =>
      refine ⟨_, rest, fun direct => ⟨(inLine direct).1, fun reactor present => ?_⟩⟩
      rcases (inLine direct).2 reactor present with ⟨dues, lineup⟩
      exact ⟨dues, lineup.skip fun live =>
        nobody _ (lineup.due_of_live present site found token handles live)⟩

/-- The callback of the timer that is called next is run. -/
theorem ended_served {report : Report} {registration : Registration (Handler σ)}
    (fresh : reported.running = [])
    (inLine : world.InLine callbacks reported ((fd, due) :: called) none id)
    (invoked : Due world id report.event registration) (present : world.reactor? id = some reactor)
    (found : reactor.loop.registrations.get? fd = some registration)
    (handles : registration.handler = .timer ⟨fd, due.serial⟩ false callback)
    (good : callbacks callback) :
    Ended (InTurn id) (InLine callbacks reported called none id) (deliver run id report world) := by
  rcases inLine.begun present found handles report with ⟨begun, later, present'⟩
  have ended := ended_alarm ran begun present' good
  have same : handle run id (Token.descriptor report.event.token) report.event.ready
      registration.handler = alarm run id ⟨fd, due.serial⟩ false callback := by
    rw [handles]
    rfl
  rw [← same] at ended
  rw [deliver_of_due invoked]
  refine ended.attempt_bind fun outcome middle _ returning => ?_
  rw [changeLoop_bind_eq]
  exact inLine_conclude outcome _ (returning.finish fresh registration.serial)

/-- A turn passes the next timer over, or runs its callback, and the others stand in line. -/
theorem ended_deliver {report : Report} {reports : List Report}
    (orderly : ∀ script, Keeps Orderly (run script)) (fresh : reported.running = [])
    (summons : Reactor.Summons reported (report :: reports) called)
    (inLine : world.InLine callbacks reported called none id) :
    ∃ left, Reactor.Summons reported reports left ∧
      Ended (InTurn id) (InLine callbacks reported left none id) (deliver run id report world) := by
  by_cases invoked : ∃ registration, Due world id report.event registration
  · rcases invoked with ⟨registration, invoked⟩
    by_cases direct : Direct (begun world id report registration).journal.toList id
    · rcases invoked.inForce with ⟨loop, looped, found, idle⟩
      rcases Option.map_eq_some_iff.mp looped with ⟨reactor, present, rfl⟩
      have told := direct _ (mem_of_tell _ _) rfl
      have asked : (deliveryOf world id report registration).asked = reactor.loop.serial := by
        unfold deliveryOf
        dsimp only
        rw [looped]
        rfl
      rw [asked] at told
      have earlier : Direct world.journal.toList id :=
        direct.earlier fun _ member => by
          unfold begun
          rw [journal_tell]
          exact List.mem_append_left _ member
      rcases (inLine earlier).2 reactor present with ⟨dues, lineup⟩
      cases summons with
      | nobody issued unregistered unnamed _ =>
          have reported := lineup.reported_of_addressed issued found invoked.token idle
            fun many => nomatch unnamed.symm.trans (told many)
          cases unregistered.symm.trans reported
      | timer issued site registered _ named old handles rest =>
          have reported := lineup.reported_of_addressed issued found invoked.token idle fun many =>
            have same := Option.some.inj (named.symm.trans (told many))
            Nat.lt_of_le_of_lt (Nat.le_of_eq same.symm) old
          rw [site] at found reported
          cases registered.symm.trans reported
          rcases handles with ⟨callback, handles⟩
          rcases lineup.seated _ registration found with ⟨number, callback', handles', -, good⟩
          cases handles.symm.trans handles'
          exact ⟨_, rest, ended_served ran fresh inLine invoked present found handles good⟩
    · have indirect : ¬Direct (deliver run id report world).2.journal.toList id := fun direct' =>
        direct (direct'.earlier fun event member =>
          (recalls_deliver orderly invoked).subset member)
      cases summons with
      | nobody _ _ _ rest => exact ⟨_, rest, ended_of_indirect indirect⟩
      | timer _ _ _ _ _ _ _ rest => exact ⟨_, rest, ended_of_indirect indirect⟩
  · have nobody : ∀ registration, ¬Due world id report.event registration :=
      fun registration due => invoked ⟨registration, due⟩
    have passed : deliver run id report world = (.ok false, world) :=
      deliver_of_none (Option.eq_none_iff_forall_ne_some.mpr fun registration found =>
        nobody registration (due_iff.mp found))
    rcases ended_undelivered summons inLine nobody with ⟨left, rest, inLine⟩
    rw [passed]
    exact ⟨left, rest, .returned inLine⟩

/-- So does a whole batch: in the end all that were called have had their turns. -/
theorem ended_deliverAll {reports : List Report} (orderly : ∀ script, Keeps Orderly (run script))
    (fresh : reported.running = []) (summons : Reactor.Summons reported reports called)
    (inLine : world.InLine callbacks reported called none id) :
    Ended (InTurn id) (InLine callbacks reported [] none id) (deliverAll run id reports world) := by
  induction reports generalizing world called with
  | nil =>
      cases summons
      exact .returned inLine
  | cons report rest ih =>
      rcases ended_deliver ran orderly fresh summons inLine with ⟨left, summons', ended⟩
      unfold deliverAll
      refine ended.bind (fun error after delivered => ?_) fun handled middle _ inLine => ?_
      · cases (stuck_of_deliver delivered).1
      · exact (ih summons' inLine).bind (fun _ _ _ inLine => inLine) fun more last _ => .returned

end Turns

/-! ## Polls -/

/-- The timers of a loop stand in line, and none is called. -/
def AtRest (callbacks : Script σ → Prop) (id : Nat) (world : World σ) : Prop :=
  ∃ reported, world.InLine callbacks reported [] none id

/-- Whoever uses a loop lets it go afterwards. -/
theorem ended_withReactor {callbacks : Script σ → Prop} {action : Action σ α} {world : World σ}
    (ended : Ended (InTurn id) (AtRest callbacks id) (action (holdReactor id world).2)) :
    Ended (InTurn id) (AtRest callbacks id) (withReactor id action world) := by
  have held : holdReactor id world = (.ok (), (holdReactor id world).2) := rfl
  unfold withReactor
  rw [bind_of_ok held]
  refine ended.attempt_bind fun outcome after _ resting => ?_
  rcases resting with ⟨reported, inLine⟩
  exact Abides.ofExcept outcome _ ⟨reported, inLine.letGo⟩

section Polls

variable {callbacks : Script σ → Prop} {run : Script σ → Action σ Value}
  (ran : ∀ callback, callbacks callback → ∀ reported called ringing,
    Abides (InTurn id) (InLine callbacks reported called ringing id) (run callback))
  (orderly : ∀ script, Keeps Orderly (run script))

include ran orderly

/-- A wait calls the front of the line, and each of them has its turn. -/
theorem ended_pollHeld {world : World σ} {reactor : Reactor (Handler σ)} {dues : Dues}
    {reported : EventLoop (Handler σ)} (timeout : Option Span)
    (lawful : Lawful (inTurn id) world.journal.toList) (present : world.reactor? id = some reactor)
    (lineup : reactor.Lineup callbacks reported dues [] none id world.kernel world.journal.toList) :
    Ended (InTurn id) (AtRest callbacks id) (pollHeld run id timeout reactor.loop world) := by
  unfold pollHeld
  rcases polled : reactor.loop.poller.poll timeout world.kernel with ⟨cause | events, kernel⟩
  · rw [bind_of_error (system_of_error polled)]
    refine .raised ⟨reported, fun _ => ⟨lawful, fun later found => ?_⟩⟩
    cases present.symm.trans found
    exact ⟨dues, lineup.passed (Poller.still_of_poll polled) (Poller.lined_of_poll lineup.lined polled)⟩
  · rw [bind_of_ok (system_of_ok polled)]
    rcases Poller.fronts_of_poll lineup.lined polled with ⟨fds, fronts⟩
    have still := Poller.still_of_poll polled
    have inLine : ({ world with kernel } : World σ).InLine callbacks
        (Reactor.Lineup.resting reactor.loop) (Reactor.Lineup.calls dues fds) none id := by
      refine fun _ => ⟨lawful, fun later found => ?_⟩
      cases present.symm.trans found
      exact ⟨_, lineup.awaited still fronts⟩
    exact (ended_deliverAll (fun callback good called ringing => ran callback good _ called ringing)
      orderly rfl (lineup.summons still fronts.tokens) inLine).mono fun _ inLine => ⟨_, inLine⟩

/-- A poll leaves the timers in line. -/
theorem abides_poll (engine : Engine σ) (timeout : Option Span) :
    Abides (InTurn id) (AtRest callbacks id) (poll run id timeout) := by
  rintro world ⟨reported, inLine⟩
  by_cases direct : Direct world.journal.toList id
  · refine ended_withReactor ?_
    rw [get_bind_eq]
    rcases present : world.reactor? id with _ | reactor
    · have looped : (holdReactor id world).2.loop? id = none := by
        rw [loop?_holdReactor, loop?, present]
        rfl
      rw [looped]
      exact .raised ⟨reported, inLine.hold id⟩
    · have looped : (holdReactor id world).2.loop? id = some reactor.loop := by
        rw [loop?_holdReactor, loop?, present]
        rfl
      have held : (holdReactor id world).2.reactor? id = some reactor :=
        (Shared.value?_hold world.reactors id id).trans present
      rcases inLine.hold id direct with ⟨lawful, lines⟩
      rcases lines reactor held with ⟨dues, lineup⟩
      rw [looped]
      exact ended_pollHeld ran orderly timeout lawful held lineup
  · have recalls := ((orderly_rules engine).poll run orderly id timeout world).recalls
    exact (ended_of_indirect fun direct' =>
      direct (direct'.earlier fun event member => recalls.subset member)).mono
        fun _ inLine => ⟨reported, inLine⟩

/-- So does a drive. -/
theorem abides_drive (engine : Engine σ) (turns : Nat) :
    Abides (InTurn id) (AtRest callbacks id) (drive run id turns) := by
  have cuts : ∀ world, AtRest callbacks id world → World.InTurn id world := by
    rintro world ⟨reported, inLine⟩
    exact inLine.inTurn
  have turned : Abides (InTurn id) (AtRest callbacks id) (turn run id turns) := by
    induction turns with
    | zero => exact .exhausted cuts
    | succ turns ih =>
        intro world resting
        unfold turn
        rw [get_bind_eq]
        rcases world.loop? id with _ | loop
        · exact .raised resting
        · dsimp only
          split
          · rcases resting with ⟨reported, inLine⟩
            have aside : (Event.drained id).IsAside id := trivial
            exact .returned ⟨reported, inLine.told aside⟩
          · exact (abides_poll ran orderly engine none).bind (fun _ => ih) world resting
  rintro world ⟨reported, inLine⟩
  exact ended_withReactor (turned _ ⟨reported, inLine.hold id⟩)

end Polls

end Dispatch

/-! ## Runs -/

theorem Ended.inTurn {callbacks : Script σ → Prop} {ended : Except Failure α × World σ}
    (ends : Ended (World.InTurn id) (Dispatch.AtRest callbacks id) ended) : ended.2.InTurn id := by
  cases ends with
  | stopped holds => exact holds
  | raised holds | returned holds =>
      rcases holds with ⟨reported, inLine⟩
      exact inLine.inTurn

/-- The timers of a new loop stand in line: there are none. -/
theorem World.atRest_newReactor {callbacks : Script σ → Prop} {capacity : Nat}
    {world opened : World σ} (made : newReactor capacity world = (.ok id, opened))
    (unheard : ∀ event ∈ world.journal.toList, event.IsAside id) :
    Dispatch.AtRest callbacks id opened := by
  rcases newReactor_of_ok made with ⟨kernel, fd, created, rfl, rfl⟩
  refine ⟨(Reactor.blank ⟨fd, max capacity 1⟩).loop, fun _ => ⟨?_, fun reactor found => ?_⟩⟩
  · change Lawful _ world.journal.toList
    rw [← List.nil_append world.journal.toList]
    exact Lawful.nil.append_free fun event member => inTurn_of_aside (unheard event member)
  · rw [reactor?_joined, if_pos rfl] at found
    cases found
    exact ⟨_, Reactor.lineup_create created unheard⟩

namespace Script

/-- Callbacks leave the timers in line. -/
theorem abides_callback (engine : Engine σ) (fuel : Nat) {script : Script σ}
    (times : Times id .starts script) (reported : EventLoop (Handler σ))
    (called : List (Descriptor × Alarm)) (ringing : Option TimerHandle) :
    Abides (InTurn id) (InLine (Times id .starts) reported called ringing id)
      (exec engine fuel script) := by
  cases fuel with
  | zero => exact .exhausted fun world inLine => inLine.inTurn
  | succ fuel =>
      exact abides_interpret composed_inLine times (fun _ => inLine_plan)
        (fun _ delay callback rings => inLine_schedule delay rings) nofun

/-- Whatever a script does with the timers of the loop, they ring in turn. -/
theorem abides_times (engine : Engine σ) (fuel : Nat) {script : Script σ}
    (times : Times id .turns script) :
    Abides (InTurn id) (Dispatch.AtRest (Times id .starts) id) (exec engine fuel script) := by
  cases fuel with
  | zero =>
      refine .exhausted ?_
      rintro world ⟨reported, inLine⟩
      exact inLine.inTurn
  | succ fuel =>
      have composed : Composed id (InTurn id) (Dispatch.AtRest (Times (σ := σ) id .starts) id) :=
        { ticks := .indexed fun _ => composed_inLine.ticks
          stores := fun memory => .indexed fun _ => composed_inLine.stores memory
          defines := fun name body => .indexed fun _ => composed_inLine.defines name body
          answers := fun request calm => .indexed fun _ => composed_inLine.answers request calm }
      have orderly := (orderly_rules engine).exec fuel
      have ran (callback : Script σ) (good : Times id .starts callback) :=
        abides_callback engine fuel good
      exact abides_interpret composed times (fun _ fault => .indexed fun _ => inLine_plan fault)
        (fun _ delay callback rings => .indexed fun _ => inLine_schedule delay rings)
        fun _ => ⟨Dispatch.abides_poll ran orderly engine, Dispatch.abides_drive ran orderly engine fuel⟩

/-- The timers of a new loop that is turned by one script have rung in turn. -/
theorem lawful_of_times (engine : Engine σ) (fuel : Nat) {capacity : Nat} {world opened : World σ}
    (made : newReactor capacity world = (.ok id, opened))
    (unheard : ∀ event ∈ world.journal.toList, event.IsAside id) {script : Script σ}
    (times : Times id .turns script) {history : List Event}
    (ends : (exec engine fuel script opened).2.journal.toList = history)
    (direct : Direct history id) : Lawful (inTurn id) history := by
  subst ends
  exact (abides_times engine fuel times opened (atRest_newReactor made unheard)).inTurn direct

/-- Of the timers of a loop that is turned by nobody but one script, those with earlier deadlines
ring first, and those with the same deadline ring as they were started.  The deadline of a timer
is the time at which it was started and its delay, or a nanosecond if it has none.  The loop may
take any number of events at a time, kernel calls may fail, and callbacks may fail, cancel timers
and start others, but they do not turn the loop.  It is assumed that where the tokens of the loop
have come round no handler was started for an event that was reported for another registration. -/
theorem timers_ring_by_deadline (engine : Engine σ) (fuel capacity : Nat) {world opened : World σ}
    (made : newReactor capacity world = (.ok id, opened))
    (unheard : ∀ event ∈ world.journal.toList, event.IsAside id) {script : Script σ}
    (times : Times id .turns script) {history before after : List Event}
    (ends : (exec engine fuel script opened).2.journal.toList = history)
    (direct : Direct history id) {first second : TimerHandle} {start start' time time' : Nat}
    {delay delay' : Span} (armed : .armed id first false start delay ∈ history)
    (armed' : .armed id second false start' delay' ∈ history)
    (earlier : start + max delay.toNanos 1 < start' + max delay'.toNanos 1 ∨
      start + max delay.toNanos 1 = start' + max delay'.toNanos 1 ∧
        [Event.armed id first false start delay, .armed id second false start' delay'].Sublist history)
    (rang : .ringing id first time ∈ history)
    (split : history = before ++ .ringing id second time' :: after) :
    .ringing id first time ∈ before := by
  have lawful := lawful_of_times engine fuel made unheard times ends direct
  exact ringing_of_deadlines lawful armed armed' earlier rang split

/-- Three timers are to ring at the same time, one of them because it has no delay.  The callback
of the first one cancels the third, starts another on its descriptor, and fails. -/
def race : Script Unit :=
  .schedule 0 .zero false
      (.ask (.cancel 0 ⟨6, 3⟩) fun _ => .schedule 0 .zero false (.done .null) fun _ =>
        .fail (.config "failed")) fun _ =>
    .schedule 0 ⟨0, 1⟩ false (.done .null) fun _ =>
      .schedule 0 ⟨0, 1⟩ false (.done .null) fun _ => .drive 0 fun _ => .done .null

theorem times_race : Times 0 .turns race := by
  have single : ∀ {licence : Licence}, Times 0 licence (.done .null : Script Unit) := .done _
  refine .schedule (by decide) _ (.ask (.cancel _) fun _ => ?_) fun _ => ?_
  · exact .schedule (by decide) _ single fun _ => .fail _
  · exact .schedule (by decide) _ single fun _ => .schedule (by decide) _ single fun _ =>
      .drive fun _ => single

/-- The world of the race, on a loop that takes one event at a time. -/
def raceStart : Except Failure Nat × World Unit :=
  newReactor 1 (.start (Kernel.start [] none) .empty .empty ())

/-- What happens in the race. -/
def raceHistory : List Event :=
  (exec ⟨fun _ _ => .ok fun _ => .done .null, fun _ _ => .done .null, fun _ _ => .done .null⟩ 6 race
    raceStart.2).2.journal.toList

/-- The timers with the same deadline ring as they were started, and the one that was started by
the first of them rings last. -/
theorem race_rings_by_deadline :
    ∃ before between after, raceHistory =
        before ++ .ringing 0 ⟨5, 2⟩ 1 :: (between ++ .ringing 0 ⟨6, 4⟩ 2 :: after) ∧
      .ringing 0 ⟨4, 1⟩ 1 ∈ before := by
  have history : raceHistory =
      [.scheduled 0 ⟨4, 1⟩ false (some 2), .armed 0 ⟨4, 1⟩ false 0 .zero,
        .scheduled 0 ⟨5, 2⟩ false (some 3), .armed 0 ⟨5, 2⟩ false 0 ⟨0, 1⟩,
        .scheduled 0 ⟨6, 3⟩ false (some 4), .armed 0 ⟨6, 3⟩ false 0 ⟨0, 1⟩,
        .handling ⟨0, 0, some 0, some 0, 3, 4294967300, 1⟩, .ringing 0 ⟨4, 1⟩ 1,
        .cancelled 0 ⟨6, 3⟩, .scheduled 0 ⟨6, 4⟩ false (some 5), .armed 0 ⟨6, 4⟩ false 1 .zero,
        .rang 0 ⟨4, 1⟩, .log (Dispatch.uncaughtRecord (.config "failed")),
        .handling ⟨0, 1, some 1, some 1, 4, 8589934597, 1⟩] ++
      .ringing 0 ⟨5, 2⟩ 1 ::
        ([.rang 0 ⟨5, 2⟩, .handling ⟨0, 3, some 3, some 3, 4, 17179869190, 2⟩] ++
          .ringing 0 ⟨6, 4⟩ 2 :: [.rang 0 ⟨6, 4⟩, .drained 0]) := by decide +kernel
  have made : raceStart = (.ok 0, raceStart.2) := Prod.ext (by decide +kernel) rfl
  have direct : Direct raceHistory 0 := by
    refine .of_few fun delivery member _ => ?_
    rw [history] at member
    simp only [List.cons_append, List.nil_append, List.mem_cons, reduceCtorEq, false_or,
      Event.handling.injEq, List.not_mem_nil, or_false] at member
    rcases member with rfl | rfl | rfl <;> decide
  have armed : .armed 0 ⟨4, 1⟩ false 0 .zero ∈ raceHistory := by
    rw [history]
    decide
  have armed' : .armed 0 ⟨5, 2⟩ false 0 ⟨0, 1⟩ ∈ raceHistory := by
    rw [history]
    decide
  have inTurn : [Event.armed 0 ⟨4, 1⟩ false 0 .zero, .armed 0 ⟨5, 2⟩ false 0 ⟨0, 1⟩].Sublist
      raceHistory := by
    rw [history]
    decide
  have rang : .ringing 0 ⟨4, 1⟩ 1 ∈ raceHistory := by
    rw [history]
    decide
  exact ⟨_, _, _, history, timers_ring_by_deadline _ 6 1 made (fun _ member => nomatch member)
    times_race rfl direct armed armed' (.inr ⟨by decide, inTurn⟩) rang history⟩

/-- Tokens come round only after `2 ^ 32` registrations, so of a loop that was asked for no more
nothing has to be assumed. -/
theorem timers_ring_by_deadline_of_few (engine : Engine σ) (fuel capacity : Nat)
    {world opened : World σ} (made : newReactor capacity world = (.ok id, opened))
    (unheard : ∀ event ∈ world.journal.toList, event.IsAside id) {script : Script σ}
    (times : Times id .turns script) {history before after : List Event}
    (ends : (exec engine fuel script opened).2.journal.toList = history)
    (few : ∀ delivery, .handling delivery ∈ history → delivery.reactor = id →
      delivery.asked ≤ 2 ^ 32)
    {first second : TimerHandle} {start start' time time' : Nat} {delay delay' : Span}
    (armed : .armed id first false start delay ∈ history)
    (armed' : .armed id second false start' delay' ∈ history)
    (earlier : start + max delay.toNanos 1 < start' + max delay'.toNanos 1 ∨
      start + max delay.toNanos 1 = start' + max delay'.toNanos 1 ∧
        [Event.armed id first false start delay, .armed id second false start' delay'].Sublist history)
    (rang : .ringing id first time ∈ history)
    (split : history = before ++ .ringing id second time' :: after) :
    .ringing id first time ∈ before := by
  have lawful := lawful_of_times engine fuel made unheard times ends (.of_few few)
  exact ringing_of_deadlines lawful armed armed' earlier rang split

end Script

end ScriptHost
