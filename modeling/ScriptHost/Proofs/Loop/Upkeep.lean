import ScriptHost.Proofs.Loop.Ledger
import ScriptHost.Proofs.Loop.Punctuality
import ScriptHost.Proofs.Loop.Tidiness

/-!
# Loops that are being emptied

A loop that nobody adds to is tended while its timers ring: it is tidy, its timers stand in
line, and its ledger is up to date.  Callbacks may cancel timers, give the loop another hook
for errors, let time go by and fail, and they come back to a loop that is tended still.
-/

namespace ScriptHost

open World Kernel

variable {σ α : Type} {id : Nat}

/-! ## News -/

theorem Direct.append {history news : List Event} (direct : Direct history id)
    (straight : ∀ delivery, .handling delivery ∈ news → delivery.reactor = id →
      delivery.reported = some delivery.serial) : Direct (history ++ news) id := by
  intro delivery member own many
  rcases List.mem_append.mp member with old | new
  · exact direct delivery old own many
  · exact straight delivery new own

theorem Reactor.Ledger.append {started : List (TimerHandle × Script σ)} {rung : List TimerHandle}
    {reactor : Reactor (Handler σ)} {history news : List Event}
    (ledger : Ledger started rung id reactor history)
    (remarks : ∀ event ∈ news, event.IsRemark id) :
    Ledger started rung id reactor (history ++ news) := by
  induction news generalizing history with
  | nil =>
      rw [List.append_nil]
      exact ledger
  | cons event rest ih =>
      have remark := remarks event List.mem_cons_self
      rw [List.append_cons]
      refine ih (ledger.told ?_ ?_) fun other member => remarks other (List.mem_cons_of_mem _ member)
      · rintro timer time rfl
        exact remark rfl
      · rintro timer rfl
        exact remark rfl

/-- Requests that are about no loop take no step. -/
theorem Request.perform_steps (request : Request) {part : Part}
    (concerns : request.part? = some part) (other : part ≠ .loops) (world : World σ) :
    (request.perform world).2.steps = world.steps := by
  cases request <;> cases concerns
  case setMember =>
      dsimp only [perform, always]
      split <;> rfl
  all_goals first | rfl | exact absurd rfl other

theorem Script.answer_steps (request : Request) {part : Part}
    (concerns : request.part? = some part) (other : part ≠ .loops) (world : World σ) :
    (answer request world).2.steps = world.steps := by
  rcases request.notices_nothing part concerns other with ⟨seizes, uses⟩
  unfold answer
  rw [seizes, uses]
  exact request.perform_steps concerns other world

namespace Reactor.Lineup

variable {callbacks : Script σ → Prop} {reported : EventLoop (Handler σ)} {dues : Dues}
  {called : List (Descriptor × Alarm)} {ringing : Option TimerHandle} {kernel : Kernel}
  {reactor : Reactor (Handler σ)} {history : List Event} {timer : TimerHandle}

/-- What is known of a timer that is live. -/
theorem of_live (lineup : Lineup callbacks reported dues called ringing id kernel reactor history)
    (live : isLive reactor.timers timer = true) :
    ∃ registration state, reactor.loop.registrations.get? timer.fd = some registration ∧
      kernel.resource? timer.fd = some (.timer state) ∧ timer.fd ≠ reactor.loop.poller.list ∧
      ∃ entry, reactor.timers.live.get? timer.fd = some entry ∧ entry.id = timer.id := by
  rcases isLive_iff.mp live with ⟨_, entry⟩
  rcases lineup.registered timer.fd _ entry with ⟨registration, found⟩
  rcases lineup.timed timer.fd _ entry with ⟨state, timed⟩
  exact ⟨registration, state, found, timed, lineup.away_of_live entry, _, entry, rfl⟩

/-- A live timer of a tidy loop is released without an error. -/
theorem releases (lineup : Lineup callbacks reported dues called ringing id kernel reactor history)
    (tidy : Tidy kernel reactor) (live : isLive reactor.timers timer = true) :
    ∃ after, Reactor.release timer (kernel, reactor) = (.ok true, (after, reactor.vacant timer.fd)) ∧
      Tidy after (reactor.vacant timer.fd) ∧ Released timer.fd reactor (reactor.vacant timer.fd) ∧
      timer.id < reactor.timers.nextId := by
  rcases lineup.of_live live with ⟨registration, state, found, timed, away, entry, present, number⟩
  rcases tidy.release live timed away found with ⟨after, released, tidy'⟩
  have leaves := released_release live kernel
  rw [released] at leaves
  exact ⟨after, released, tidy', leaves, number ▸ tidy.numbered timer.fd entry present⟩

/-- So is one whose callback has come back. -/
theorem settles (lineup : Lineup callbacks reported dues called ringing id kernel reactor history)
    (tidy : Tidy kernel reactor) (live : isLive reactor.timers timer = true)
    (outcome : Except Error Unit) :
    ∃ after, Reactor.settle timer false outcome (kernel, reactor) =
        (outcome, (after, reactor.vacant timer.fd)) ∧
      Tidy after (reactor.vacant timer.fd) ∧ Released timer.fd reactor (reactor.vacant timer.fd) ∧
      timer.id < reactor.timers.nextId := by
  rcases lineup.of_live live with ⟨registration, state, found, timed, away, entry, present, number⟩
  rcases tidy.settle live timed away found outcome with ⟨after, settled, tidy'⟩
  rcases lineup.releases tidy live with ⟨_, _, _, leaves, numbered⟩
  exact ⟨after, settled, tidy', leaves, numbered⟩

end Reactor.Lineup

namespace World

/-! ## Worlds with a loop that is being emptied -/

/-- A loop that so many hold is there and is tended.  Of the timers that were started some have
rung, and so many registrations have been asked for. -/
structure Tended (started : List (TimerHandle × Script σ)) (rung : List TimerHandle)
    (owners asked : Nat) (reported : EventLoop (Handler σ)) (called : List (Descriptor × Alarm))
    (ringing : Option TimerHandle) (id : Nat) (world : World σ) : Prop where
  inLine : world.InLine (Script.Times id .cancels) reported called ringing id
  direct : Direct world.journal.toList id
  unlimited : world.steps = none
  present : ∃ reactor, world.reactors.get? id = some ⟨reactor, owners⟩ ∧
    reactor.Tidy world.kernel ∧ reactor.Ledger started rung id world.journal.toList ∧
      reactor.loop.serial = asked

namespace Tended

variable {started : List (TimerHandle × Script σ)} {rung : List TimerHandle} {owners asked : Nat}
  {reported : EventLoop (Handler σ)} {called called' : List (Descriptor × Alarm)}
  {ringing ringing' : Option TimerHandle} {world before after : World σ} {event : Event}
  {news : List Event} {reactor : Reactor (Handler σ)} {timer : TimerHandle}

/-- News that are not about the timers of the loop. -/
theorem grows (tended : before.Tended started rung owners asked reported called ringing id)
    (inLine : after.InLine (Script.Times id .cancels) reported called' ringing' id)
    (journal : after.journal.toList = before.journal.toList ++ news)
    (remarks : ∀ event ∈ news, event.IsRemark id) (steps : after.steps = before.steps)
    (kernel : after.kernel = before.kernel)
    (same : after.reactors.get? id = before.reactors.get? id) :
    after.Tended started rung owners asked reported called' ringing' id where
  inLine := inLine
  direct := by
    rw [journal]
    exact tended.direct.append fun delivery member => remarks _ member
  unlimited := steps.trans tended.unlimited
  present := by
    rcases tended.present with ⟨reactor, found, tidy, ledger, asks⟩
    rw [journal, kernel, same]
    exact ⟨reactor, found, tidy, ledger.append remarks, asks⟩

theorem told (tended : world.Tended started rung owners asked reported called ringing id)
    (remark : event.IsRemark id) :
    (tell event world).2.Tended started rung owners asked reported called ringing id :=
  tended.grows (tended.inLine.told remark.isAside) (journal_tell event world)
    (fun _ member => List.mem_singleton.mp member ▸ remark) rfl rfl rfl

theorem of_same (tended : before.Tended started rung owners asked reported called ringing id)
    (kernel : after.kernel = before.kernel) (journal : after.journal = before.journal)
    (reactors : after.reactors = before.reactors) (steps : after.steps = before.steps) :
    after.Tended started rung owners asked reported called ringing id := by
  have inLine := tended.inLine.of_same kernel journal fun reactor found => by
    rw [← found]
    exact (reactor?_congr reactors id).symm
  have grown : after.journal.toList = before.journal.toList ++ [] := by
    rw [journal, List.append_nil]
  exact tended.grows inLine grown (fun _ member => nomatch member) steps kernel (by rw [reactors])

/-- What stands of a tended loop. -/
theorem stands (tended : world.Tended started rung owners asked reported called ringing id) :
    ∃ reactor dues, world.reactors.get? id = some ⟨reactor, owners⟩ ∧
      world.reactor? id = some reactor ∧ reactor.Tidy world.kernel ∧
      reactor.Ledger started rung id world.journal.toList ∧ reactor.loop.serial = asked ∧
      Lawful (inTurn id) world.journal.toList ∧
      reactor.Lineup (Script.Times id .cancels) reported dues called ringing id world.kernel
        world.journal.toList := by
  rcases tended.present with ⟨reactor, found, tidy, ledger, asks⟩
  have present : world.reactor? id = some reactor := by
    rw [reactor?, Shared.value?, found]
    rfl
  rcases tended.inLine tended.direct with ⟨lawful, lines⟩
  rcases lines reactor present with ⟨dues, lineup⟩
  exact ⟨reactor, dues, found, present, tidy, ledger, asks, lawful, lineup⟩

/-- A call on the loop. -/
theorem of_settled {state : Kernel × Reactor (Handler σ)}
    (found : world.reactors.get? id = some ⟨reactor, owners⟩)
    (inLine : (world.settled id state).InLine (Script.Times id .cancels) reported called ringing id)
    (direct : Direct world.journal.toList id) (unlimited : world.steps = none)
    (tidy : state.2.Tidy state.1) (ledger : state.2.Ledger started rung id world.journal.toList)
    (asks : state.2.loop.serial = asked) :
    (world.settled id state).Tended started rung owners asked reported called ringing id where
  inLine := inLine
  direct := direct
  unlimited := unlimited
  present := by
    refine ⟨state.2, ?_, tidy, ledger, asks⟩
    refine (Table.get?_modify world.reactors id id _).trans ?_
    rw [if_pos rfl, found]
    rfl

/-- Time that goes by. -/
theorem passed {kernel : Kernel}
    (tended : world.Tended started rung owners asked reported called ringing id)
    (still : Still world.kernel kernel) (calms : Calms world.kernel kernel)
    (lined : ∀ list dues, Lined world.kernel list dues → Lined kernel list dues) :
    ({ world with kernel } : World σ).Tended started rung owners asked reported called ringing id where
  inLine := tended.inLine.passed still lined
  direct := tended.direct
  unlimited := tended.unlimited
  present := by
    rcases tended.present with ⟨reactor, found, tidy, rest⟩
    exact ⟨reactor, found, tidy.passed still calms, rest⟩

/-- A loop that differs in nothing that its timers depend on. -/
theorem reloop {loop : EventLoop (Handler σ)}
    (tended : world.Tended started rung owners asked reported called ringing id)
    (found : world.reactors.get? id = some ⟨reactor, owners⟩)
    (inLine : (world.settled id (world.kernel, { reactor with loop })).InLine
      (Script.Times id .cancels) reported called' ringing' id)
    (poller : loop.poller = reactor.loop.poller)
    (registrations : loop.registrations = reactor.loop.registrations)
    (serial : loop.serial = reactor.loop.serial) :
    (world.settled id (world.kernel, { reactor with loop })).Tended started rung owners asked reported
      called' ringing' id := by
  rcases tended.present with ⟨reactor', found', tidy, ledger, asks⟩
  cases found.symm.trans found'
  refine of_settled found inLine tended.direct tended.unlimited
    ⟨tidy.willing, ?_, ?_, ?_, tidy.armed, tidy.numbered⟩ (ledger.of_same registrations rfl)
    (serial.trans asks)
  · rw [poller]
    exact tidy.roomy
  · rw [registrations, poller]
    exact tidy.watched
  · rw [registrations, poller]
    exact tidy.registered

/-- Another hook for errors, of this loop or of another. -/
theorem setHook (tended : world.Tended started rung owners asked reported called ringing id)
    (other : Nat) (hook : ErrorHook) :
    (changeLoop other (fun loop => { loop with hook }) world).2.Tended started rung owners asked
      reported called ringing id := by
  have inLine := tended.inLine.setHook other hook
  by_cases same : other = id
  · subst same
    rcases tended.stands with ⟨reactor, _, found, present, _⟩
    rw [changeLoop_of_some _ present] at inLine ⊢
    exact tended.reloop found inLine rfl rfl rfl
  · exact tended.grows inLine (List.append_nil _).symm (fun _ member => nomatch member) rfl rfl
      ((Table.get?_modify world.reactors other id _).trans (if_neg same))

/-- A timer of this loop that is cancelled. -/
theorem cancel (tended : world.Tended started rung owners asked reported called ringing id)
    (timer : TimerHandle) :
    (Dispatch.cancel id timer world).2.Tended started rung owners asked reported called ringing id := by
  have inLine := tended.inLine.cancel timer
  rcases tended.stands with ⟨reactor, dues, found, present, tidy, ledger, asks, _, lineup⟩
  cases live : Reactor.isLive reactor.timers timer with
  | false =>
      rw [Dispatch.cancel_of_dead present live]
      exact tended
  | true =>
      rcases lineup.releases tidy live with ⟨after, released, tidy', leaves, numbered⟩
      rw [Dispatch.cancel_of_live present live, ofExcept_world, released] at inLine ⊢
      have direct : Direct (tell (.cancelled id timer) world).2.journal.toList id := by
        rw [journal_tell]
        exact tended.direct.append fun delivery member => nomatch List.mem_singleton.mp member
      have ledger' : (reactor.vacant timer.fd).Ledger started rung id
          (tell (.cancelled id timer) world).2.journal.toList := by
        rw [journal_tell]
        exact ledger.cancelled leaves live numbered
      exact of_settled found inLine direct tended.unlimited tidy' ledger' asks

/-- The callback of a timer that rang has come back, and the timer is settled. -/
theorem settle (tended : world.Tended started rung owners asked reported called ringing id)
    (rang : timer ∈ rung) (outcome : Except Error Unit) :
    ∃ after, Dispatch.settle id timer false outcome world =
        (ofExcept outcome : Action σ Unit) after ∧
      after.Tended started rung owners asked reported called ringing id ∧
      after.journal = world.journal ∧
      (after.loop? id).map EventLoop.hook = (world.loop? id).map EventLoop.hook ∧
      ∀ reactor, after.reactor? id = some reactor → Reactor.isLive reactor.timers timer = false := by
  have inLine := tended.inLine.settle timer outcome
  rcases tended.stands with ⟨reactor, dues, found, present, tidy, ledger, asks, _, lineup⟩
  cases live : Reactor.isLive reactor.timers timer with
  | false =>
      have dead : ∀ later, world.reactor? id = some later →
          Reactor.isLive later.timers timer = false := by
        intro later found'
        cases present.symm.trans found'
        exact live
      exact ⟨world, Dispatch.settle_of_dead dead, tended, rfl, rfl, dead⟩
  | true =>
      rcases lineup.settles tidy live outcome with ⟨after, settled, tidy', leaves, numbered⟩
      have same : Dispatch.settle id timer false outcome world = _ :=
        Dispatch.settle_of_live present live
      rw [settled] at same
      rw [same, ofExcept_world] at inLine
      have present' := reactor?_settled present (after, reactor.vacant timer.fd) id
      rw [if_pos rfl] at present'
      refine ⟨_, same, of_settled found inLine tended.direct tended.unlimited tidy'
        (ledger.settled leaves live rang numbered) asks, rfl, ?_, fun later found' => ?_⟩
      · rw [loop?, loop?, present, present']
        rfl
      · cases present'.symm.trans found'
        exact (Reactor.isLive_released leaves timer).trans (if_pos rfl)

/-- Whoever turns the loop holds it meanwhile. -/
theorem hold (tended : world.Tended started rung owners asked reported called ringing id) :
    (holdReactor id world).2.Tended started rung (owners + 1) asked reported called ringing id where
  inLine := tended.inLine.hold id
  direct := tended.direct
  unlimited := tended.unlimited
  present := by
    rcases tended.present with ⟨reactor, found, rest⟩
    refine ⟨reactor, ?_, rest⟩
    refine (Table.get?_modify world.reactors id id _).trans ?_
    rw [if_pos rfl, found]
    rfl

/-- The loop stays if somebody else holds it. -/
theorem letGo (tended : world.Tended started rung (owners + 2) asked reported called ringing id) :
    (releaseReactor id world).2.Tended started rung (owners + 1) asked reported called ringing id := by
  rcases tended.present with ⟨reactor, found, rest⟩
  have left : Shared.letGo world.reactors id =
      (none, world.reactors.insert id ⟨reactor, owners + 1⟩) := by
    unfold Shared.letGo
    rw [found]
    exact if_neg (Nat.not_le_of_lt (Nat.succ_lt_succ (Nat.succ_pos owners)))
  have same : (releaseReactor id world).2 =
      { world with reactors := world.reactors.insert id ⟨reactor, owners + 1⟩ } := by
    unfold releaseReactor
    rw [modify_eq, left]
  have inLine := tended.inLine.letGo
  rw [same] at inLine ⊢
  refine ⟨inLine, tended.direct, tended.unlimited, reactor, ?_, rest⟩
  exact (Table.get?_insert _ _ _ _).trans (if_pos rfl)

end Tended

variable {started : List (TimerHandle × Script σ)} {rung : List TimerHandle} {owners asked : Nat}
  {reported : EventLoop (Handler σ)} {called : List (Descriptor × Alarm)}
  {ringing : Option TimerHandle}

/-- Callbacks that start no timers leave the loop tended, and come back. -/
theorem composed_tended :
    Composed id (fun _ => False) (Tended (σ := σ) started rung owners asked reported called ringing id) where
  ticks world tended := by
    unfold tick
    rw [tended.unlimited]
    exact .returned tended
  stores memory world tended := .returned (tended.of_same rfl rfl rfl rfl)
  defines name body world tended := .returned (tended.of_same rfl rfl rfl rfl)
  answers request calm := by
    intro world tended
    cases calm with
    | @elsewhere _ part concerns other =>
        have changes := Script.answer_changes request part concerns world
        rcases changes.journal with ⟨news, journal, about⟩
        rcases changes.loops other with ⟨kernel, reactors⟩
        have remarks : ∀ event ∈ news, event.IsRemark id := by
          intro event member
          refine event.isRemark_of_part (fun loops => ?_) id
          rcases about event member with own | rest
          · exact other (own.symm.trans loops)
          · cases rest.symm.trans loops
        have steps := Script.answer_steps request concerns other world
        exact .returned (tended.grows (tended.inLine.changes other changes) journal remarks steps kernel
          (congrArg (fun reactors => Table.get? reactors id) reactors))
    | now | armed | listens | registered | timers => exact .returned tended
    | advance nanos =>
        exact .returned (tended.passed (still_advance _ nanos) (calms_advance _ nanos)
          fun list dues lined => lined.advance nanos)
    | setHook other hook => exact .returned (tended.setHook other hook)
    | cancel timer =>
        have cancelled := tended.cancel timer
        rw [← result_world] at cancelled
        exact .returned cancelled

end World

namespace Script

/-- Callbacks that start no timers leave the loop tended, and come back. -/
theorem abides_tended {started : List (TimerHandle × Script σ)} {rung : List TimerHandle}
    {owners asked : Nat} {reported : EventLoop (Handler σ)} {called : List (Descriptor × Alarm)}
    {ringing : Option TimerHandle} (engine : Engine σ) (fuel : Nat) {script : Script σ}
    (times : Times id .cancels script) :
    Abides (fun _ => False) (Tended started rung owners asked reported called ringing id)
      (exec engine (fuel + 1) script) :=
  abides_interpret composed_tended times (fun licensed => absurd rfl licensed)
    (fun licensed => absurd rfl licensed) nofun

end Script

end ScriptHost
