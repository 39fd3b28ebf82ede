import ScriptHost.Proofs.Kernel.Fronts
import ScriptHost.Proofs.Loop.Lifecycle
import ScriptHost.Proofs.Loop.Turns

/-!
# Timers that ring in turn

The timers of a loop are due at the times for which they were armed, and those of the
same time in the order of their numbers.  While a batch of events is being dispatched
there are three kinds of them: the one whose callback is being run, those that were
reported and whose turn is still to come, and those that stand in line in the kernel.
What has rung was due before all that have not, those of the batch are in order, and all
of them come before the line.  So the next one to ring is always the next one due.
-/

namespace ScriptHost

open Kernel

variable {σ : Type} {history : List Event} {event : Event} {id : Nat} {timer : TimerHandle}
  {due due' : Alarm}

/-! ## Histories -/

/-- A timer was armed and is due. -/
def DueAt (history : List Event) (id : Nat) (timer : TimerHandle) (due : Alarm) : Prop :=
  ∃ isRepeating start delay, .armed id timer isRepeating start delay ∈ history ∧
    due = ⟨start + max delay.toNanos 1, timer.id⟩

/-- When timers of a loop may be armed and ring, given what has happened: they are numbered as they
are armed, and what rings was due after all that have rung. -/
def inTurn (id : Nat) (before : List Event) : Event → Prop
  | .armed id' timer _ _ _ => id' = id → ∀ earlier due, DueAt before id earlier due →
      earlier.id < timer.id
  | .ringing id' timer _ => id' = id → ∃ due, DueAt before id timer due ∧
      ∀ earlier time due', .ringing id earlier time ∈ before → DueAt before id earlier due' →
        due'.before due = true
  | _ => True

/-- Handlers of a loop were started only for the registrations that their events were reported
for.  Only where the tokens of a loop come round again can this be otherwise. -/
def Direct (history : List Event) (id : Nat) : Prop :=
  ∀ delivery, .handling delivery ∈ history → delivery.reactor = id → 2 ^ 32 < delivery.asked →
    delivery.reported = some delivery.serial

/-- A loop that was asked for few registrations has its handlers started for nothing else. -/
theorem Direct.of_few
    (few : ∀ delivery, .handling delivery ∈ history → delivery.reactor = id →
      delivery.asked ≤ 2 ^ 32) : Direct history id :=
  fun delivery member own many => absurd (few delivery member own) (Nat.not_le_of_lt many)

theorem Direct.earlier {later : List Event} (direct : Direct later id)
    (subset : ∀ event ∈ history, event ∈ later) : Direct history id :=
  fun delivery member => direct delivery (subset _ member)

/-- Events that arm no timer of a loop and ring none. -/
def Event.IsAside (id : Nat) : Event → Prop
  | armed id' .. | ringing id' .. => id' ≠ id
  | _ => True

theorem DueAt.later {later : List Event} (dueAt : DueAt history id timer due)
    (subset : ∀ event ∈ history, event ∈ later) : DueAt later id timer due := by
  rcases dueAt with ⟨isRepeating, start, delay, armed, same⟩
  exact ⟨isRepeating, start, delay, subset _ armed, same⟩

theorem dueAt_told (aside : event.IsAside id) :
    DueAt (history ++ [event]) id timer due ↔ DueAt history id timer due := by
  refine ⟨?_, fun dueAt => dueAt.later fun _ => List.mem_append_left _⟩
  rintro ⟨isRepeating, start, delay, armed, same⟩
  refine ⟨isRepeating, start, delay, mem_of_mem_concat armed ?_, same⟩
  rintro rfl
  exact aside rfl

theorem inTurn_of_aside (aside : event.IsAside id) (before : List Event) : inTurn id before event := by
  cases event <;> first | trivial | exact fun same => absurd same aside

theorem ringing_told (aside : event.IsAside id) {time : Nat} :
    .ringing id timer time ∈ history ++ [event] ↔ .ringing id timer time ∈ history := by
  refine ⟨fun member => mem_of_mem_concat member ?_, List.mem_append_left _⟩
  rintro rfl
  exact aside rfl

section Laws

variable (lawful : Lawful (inTurn id) history)

include lawful

/-- A timer is armed once. -/
theorem dueAt_unique (first : DueAt history id timer due) (second : DueAt history id timer due') :
    due = due' := by
  rcases first with ⟨isRepeating, start, delay, armed, rfl⟩
  rcases second with ⟨isRepeating', start', delay', armed', rfl⟩
  rcases lawful.ordered armed armed' with same | ⟨before, member, allowed⟩ | ⟨before, member, allowed⟩
  · cases same
    rfl
  · exact absurd (allowed rfl _ _ ⟨isRepeating, start, delay, member, rfl⟩) (Nat.lt_irrefl _)
  · exact absurd (allowed rfl _ _ ⟨isRepeating', start', delay', member, rfl⟩) (Nat.lt_irrefl _)

/-- What has rung was armed. -/
theorem dueAt_of_ringing {time : Nat} (rang : .ringing id timer time ∈ history) :
    ∃ due, DueAt history id timer due := by
  rcases lawful.allowed_of_mem rang with ⟨before, subset, allowed⟩
  rcases allowed rfl with ⟨due, dueAt, _⟩
  exact ⟨due, dueAt.later subset⟩

end Laws

theorem dueAt_armed {isRepeating : Bool} {start : Nat} {delay : Span} {other : TimerHandle}
    (dueAt : DueAt (history ++ [.armed id timer isRepeating start delay]) id other due) :
    (other = timer ∧ due = ⟨start + max delay.toNanos 1, timer.id⟩) ∨ DueAt history id other due := by
  rcases dueAt with ⟨isRepeating', start', delay', member, rfl⟩
  rcases List.mem_append.mp member with old | new
  · exact .inr ⟨isRepeating', start', delay', old, rfl⟩
  · cases List.mem_singleton.mp new
    exact .inl ⟨rfl, rfl⟩

theorem dueAt_of_armed {isRepeating : Bool} {start : Nat} {delay : Span} :
    DueAt (history ++ [.armed id timer isRepeating start delay]) id timer
      ⟨start + max delay.toNanos 1, timer.id⟩ :=
  ⟨isRepeating, start, delay, List.mem_append_right _ List.mem_cons_self, rfl⟩

/-- Of two timers that have rung, the one that rang first was due first. -/
theorem before_of_inTurn {before after : List Event} {earlier : TimerHandle} {time time' : Nat}
    (lawful : Lawful (inTurn id) history)
    (split : history = before ++ .ringing id timer time :: after)
    (rang : .ringing id earlier time' ∈ before) (first : DueAt history id earlier due)
    (second : DueAt history id timer due') : due.before due' = true := by
  have earlier_of {timer : TimerHandle} {time : Nat} {some rest : List Event} {due : Alarm}
      (split : history = some ++ .ringing id timer time :: rest)
      (dueAt : DueAt history id timer due) : DueAt some id timer due := by
    rcases lawful some _ rest split rfl with ⟨due₁, dueAt₁, _⟩
    have whole : DueAt history id timer due₁ := dueAt₁.later fun event member => by
      rw [split]
      exact List.mem_append_left _ member
    rw [dueAt_unique lawful dueAt whole]
    exact dueAt₁
  rcases lawful before _ after split rfl with ⟨due₂, dueAt₂, all⟩
  rw [dueAt_unique lawful second (dueAt₂.later fun event member => by
    rw [split]
    exact List.mem_append_left _ member)]
  refine all earlier time' due rang ?_
  rcases List.append_of_mem rang with ⟨former, latter, split'⟩
  have split₁ : history = former ++ .ringing id earlier time' ::
      (latter ++ .ringing id timer time :: after) := by
    rw [split, split', List.append_assoc, List.cons_append]
  exact (earlier_of split₁ first).later fun event member => by
    rw [split']
    exact List.mem_append_left _ member

/-- Of two timers that ring, the one that is due first rings first. -/
theorem ringing_of_before {before after : List Event} {earlier later : TimerHandle}
    {time time' : Nat} (lawful : Lawful (inTurn id) history) (first : DueAt history id earlier due)
    (second : DueAt history id later due') (ahead : due.before due' = true)
    (rang : .ringing id earlier time ∈ history)
    (split : history = before ++ .ringing id later time' :: after) :
    .ringing id earlier time ∈ before := by
  rw [split] at rang
  rcases List.mem_append.mp rang with early | late
  · exact early
  · exfalso
    rcases List.mem_cons.mp late with same | late
    · cases same
      rw [dueAt_unique lawful second first, Alarm.before_irrefl] at ahead
      cases ahead
    · rcases List.append_of_mem late with ⟨former, latter, split'⟩
      have again : history =
          (before ++ .ringing id later time' :: former) ++ .ringing id earlier time :: latter := by
        rw [split, split', List.append_assoc, List.cons_append]
      have behind := before_of_inTurn lawful again
        (List.mem_append_right _ List.mem_cons_self) second first
      have circle := Alarm.before_trans ahead behind
      rw [Alarm.before_irrefl] at circle
      cases circle

/-- Timers are due at their deadlines, and those with the same deadline as they were armed. -/
theorem before_of_deadlines {first second : TimerHandle} {isRepeating isRepeating' : Bool}
    {start start' : Nat} {delay delay' : Span} (lawful : Lawful (inTurn id) history)
    (earlier : start + max delay.toNanos 1 < start' + max delay'.toNanos 1 ∨
      start + max delay.toNanos 1 = start' + max delay'.toNanos 1 ∧
        [Event.armed id first isRepeating start delay,
          .armed id second isRepeating' start' delay'].Sublist history) :
    Alarm.before ⟨start + max delay.toNanos 1, first.id⟩
      ⟨start' + max delay'.toNanos 1, second.id⟩ = true := by
  rw [Alarm.before_iff]
  refine earlier.imp (fun sooner => sooner) fun tie => ⟨tie.1, ?_⟩
  rcases List.cons_sublist_iff.mp tie.2 with ⟨former, latter, split, member, later⟩
  rcases List.append_of_mem (List.singleton_sublist.mp later) with ⟨between, rest, split'⟩
  have allowed := lawful (former ++ between) _ rest (by rw [split, split', List.append_assoc])
  exact allowed rfl first _ ⟨_, _, _, List.mem_append_left _ member, rfl⟩

/-- So of two timers that ring, the one with the earlier deadline rings first, and of two with the
same deadline the one that was armed first. -/
theorem ringing_of_deadlines {before after : List Event} {first second : TimerHandle}
    {isRepeating isRepeating' : Bool} {start start' time time' : Nat} {delay delay' : Span}
    (lawful : Lawful (inTurn id) history)
    (armed : .armed id first isRepeating start delay ∈ history)
    (armed' : .armed id second isRepeating' start' delay' ∈ history)
    (earlier : start + max delay.toNanos 1 < start' + max delay'.toNanos 1 ∨
      start + max delay.toNanos 1 = start' + max delay'.toNanos 1 ∧
        [Event.armed id first isRepeating start delay,
          .armed id second isRepeating' start' delay'].Sublist history)
    (rang : .ringing id first time ∈ history)
    (split : history = before ++ .ringing id second time' :: after) :
    .ringing id first time ∈ before := by
  have ahead := before_of_deadlines lawful earlier
  exact ringing_of_before lawful ⟨_, _, _, armed, rfl⟩ ⟨_, _, _, armed', rfl⟩ ahead rang split

/-! ## One reactor -/

namespace Reactor

/-- How the timers of a loop stand that are to ring in turn.  Those that were reported in the
batch that is being dispatched are called in order; `reported` is the loop as it was then. -/
structure Lineup (callbacks : Script σ → Prop) (reported : EventLoop (Handler σ)) (dues : Dues)
    (called : List (Descriptor × Alarm)) (ringing : Option TimerHandle) (id : Nat)
    (kernel : Kernel) (reactor : Reactor (Handler σ)) (history : List Event) : Prop where
  sound : reactor.Sound kernel
  sited : reactor.loop.Sited kernel
  lined : kernel.Lined reactor.loop.poller.list dues
  /-- Only timers that ring once are registered, and they are live. -/
  seated : ∀ fd registration, reactor.loop.registrations.get? fd = some registration →
    ∃ number callback, registration.handler = .timer ⟨fd, number⟩ false callback ∧
      reactor.timers.live.get? fd = some ⟨number, false⟩ ∧ callbacks callback
  registered : ∀ fd entry, reactor.timers.live.get? fd = some entry →
    ∃ registration, reactor.loop.registrations.get? fd = some registration
  timed : ∀ fd entry, reactor.timers.live.get? fd = some entry →
    ∃ timer, kernel.resource? fd = some (.timer timer)
  watched : ∀ fd due registration, dues fd = some due →
    reactor.loop.registrations.get? fd = some registration →
    ∃ interest, kernel.watch? reactor.loop.poller.list fd = some ⟨registration.token, interest⟩
  known : ∀ timer due, DueAt history id timer due → timer.id < reactor.timers.nextId
  /-- What stands in line is live and due. -/
  standing : ∀ fd due, dues fd = some due →
    reactor.timers.live.get? fd = some ⟨due.serial, false⟩ ∧ DueAt history id ⟨fd, due.serial⟩ due
  /-- What is called is due. -/
  calling : ∀ fd due, (fd, due) ∈ called →
    DueAt history id ⟨fd, due.serial⟩ due ∧ due.expiry ≤ kernel.now
  /-- What is called and live is registered as it was when it was reported. -/
  held : ∀ fd due, (fd, due) ∈ called → reactor.timers.live.get? fd = some ⟨due.serial, false⟩ →
    reactor.loop.registrations.get? fd = reported.registrations.get? fd
  grown : reported.Grown reactor.loop
  sorted : called.Pairwise fun call call' => call.2.before call'.2 = true
  front : ∀ fd due fd' due', (fd, due) ∈ called → dues fd' = some due' → due.before due' = true
  /-- What is live stands in line, is called, or is ringing. -/
  covered : ∀ fd entry, reactor.timers.live.get? fd = some entry →
    (∃ due, dues fd = some due) ∨ (∃ due, (fd, due) ∈ called ∧ due.serial = entry.id) ∨
      ringing = some ⟨fd, entry.id⟩
  /-- What has rung was due before. -/
  rung : ∀ timer time due, .ringing id timer time ∈ history → DueAt history id timer due →
    due.expiry ≤ kernel.now ∧ (∀ fd' due', (fd', due') ∈ called → due.before due' = true) ∧
      ∀ fd' due', dues fd' = some due' → due.before due' = true
  /-- The handlers that are being run are not those of timers whose turn is still to come. -/
  idle : ∀ fd registration number callback,
    reactor.loop.registrations.get? fd = some registration →
    registration.handler = .timer ⟨fd, number⟩ false callback →
    registration.serial ∈ reactor.loop.running → ringing = some ⟨fd, number⟩
  past : ∀ serial ∈ reactor.loop.running, serial < reactor.loop.serial

/-- The reports of a batch call timers in order: each is for the registration of the timer that
it calls, or for nobody. -/
inductive Summons (reported : EventLoop (Handler σ)) :
    List Dispatch.Report → List (Descriptor × Alarm) → Prop where
  | done : Summons reported [] []
  | nobody {report : Dispatch.Report} {reports : List Dispatch.Report}
      {called : List (Descriptor × Alarm)} (issued : reported.Issued report.event.token)
      (unregistered :
        reported.registrations.get? (Token.descriptor report.event.token) = none)
      (unnamed : report.registration = none) (rest : Summons reported reports called) :
      Summons reported (report :: reports) called
  | timer {report : Dispatch.Report} {reports : List Dispatch.Report} {fd : Descriptor}
      {due : Alarm} {called : List (Descriptor × Alarm)} {registration : Registration (Handler σ)}
      (issued : reported.Issued report.event.token)
      (site : Token.descriptor report.event.token = fd)
      (found : reported.registrations.get? fd = some registration)
      (token : registration.token = report.event.token)
      (named : report.registration = some registration.serial)
      (old : registration.serial < reported.serial)
      (handles : ∃ callback, registration.handler = .timer ⟨fd, due.serial⟩ false callback)
      (rest : Summons reported reports called) :
      Summons reported (report :: reports) ((fd, due) :: called)

/-- What is left of a reactor from which the timer on a descriptor is gone, if there was one. -/
structure Vacates (fd : Descriptor) (before after : Reactor (Handler σ)) : Prop where
  ids : before.timers.nextId ≤ after.timers.nextId
  live : ∀ other, after.timers.live.get? other =
    if fd = other then none else before.timers.live.get? other
  registrations : ∀ other, after.loop.registrations.get? other =
    if fd = other then none else before.loop.registrations.get? other
  running : after.loop.running = before.loop.running

theorem Released.vacates {fd : Descriptor} {before after : Reactor (Handler σ)}
    (released : Released fd before after) : Vacates fd before after :=
  ⟨Nat.le_of_eq released.ids.symm, released.live, released.registrations, released.running⟩

section Vacates

variable {fd other : Descriptor} {before after : Reactor (Handler σ)}
  (vacates : Vacates fd before after)

include vacates

theorem Vacates.was_live {entry : LiveTimer} (live : after.timers.live.get? other = some entry) :
    fd ≠ other ∧ before.timers.live.get? other = some entry := by
  rw [vacates.live] at live
  split at live
  · cases live
  next different => exact ⟨different, live⟩

theorem Vacates.was_registered {registration : Registration (Handler σ)}
    (found : after.loop.registrations.get? other = some registration) :
    fd ≠ other ∧ before.loop.registrations.get? other = some registration := by
  rw [vacates.registrations] at found
  split at found
  · cases found
  next different => exact ⟨different, found⟩

end Vacates

namespace Lineup

variable {callbacks : Script σ → Prop} {reported : EventLoop (Handler σ)} {dues : Dues}
  {called : List (Descriptor × Alarm)} {ringing : Option TimerHandle} {kernel after : Kernel}
  {reactor later : Reactor (Handler σ)} {fd : Descriptor}

/-- News that are not about the turns of timers. -/
theorem told (lineup : Lineup callbacks reported dues called ringing id kernel reactor history)
    (aside : event.IsAside id) :
    Lineup callbacks reported dues called ringing id kernel reactor (history ++ [event]) :=
  { lineup with
    known := fun timer due dueAt => lineup.known timer due ((dueAt_told aside).mp dueAt)
    standing := fun fd due found =>
      ⟨(lineup.standing fd due found).1, (dueAt_told aside).mpr (lineup.standing fd due found).2⟩
    calling := fun fd due member =>
      ⟨(dueAt_told aside).mpr (lineup.calling fd due member).1, (lineup.calling fd due member).2⟩
    rung := fun timer time due rang dueAt =>
      lineup.rung timer time due ((ringing_told aside).mp rang) ((dueAt_told aside).mp dueAt) }

/-- A later kernel in which the reactor and its line stand. -/
theorem passed (lineup : Lineup callbacks reported dues called ringing id kernel reactor history)
    (still : Still kernel after) (lined : after.Lined reactor.loop.poller.list dues) :
    Lineup callbacks reported dues called ringing id after reactor history :=
  have passed : kernel.now ≤ after.now := still.ticks.now
  { lineup with
    sound := (lineup.sound.still still).sound
    sited := (lineup.sound.still still).sited lineup.sited
    lined
    timed := fun fd entry live => by
      rcases lineup.timed fd entry live with ⟨timer, timed⟩
      rcases still.ticks.timers fd timer not_false timed with ⟨later, timed', _⟩
      exact ⟨later, timed'⟩
    watched := fun fd due registration found registered => by
      rw [watch?_congr (still.standing _)]
      exact lineup.watched fd due registration found registered
    calling := fun fd due member =>
      ⟨(lineup.calling fd due member).1, Nat.le_trans (lineup.calling fd due member).2 passed⟩
    rung := fun timer time due rang dueAt =>
      ⟨Nat.le_trans (lineup.rung timer time due rang dueAt).1 passed,
        (lineup.rung timer time due rang dueAt).2⟩ }

/-- A loop that differs in nothing that the timers depend on. -/
theorem rehooked (lineup : Lineup callbacks reported dues called ringing id kernel reactor history)
    (hook : ErrorHook) :
    Lineup callbacks reported dues called ringing id kernel (reactor.rehooked hook) history :=
  have kept := lineup.sound.kept_rehooked hook
  { lineup with
    sound := kept.sound
    sited := lineup.sited
    lined := lineup.lined
    grown := trans_of EventLoop.Grown lineup.grown kept.grown.loop }

/-- The timer on a descriptor goes, or is not there. -/
theorem vacate (lineup : Lineup callbacks reported dues called ringing id kernel reactor history)
    (kept : Kept (kernel, reactor) (after, later)) (vacates : Vacates fd reactor later)
    (aside : Aside reactor.loop.poller.list fd kernel after) :
    Lineup callbacks reported (dues.without fd) called ringing id after later history := by
  have poller : later.loop.poller = reactor.loop.poller := kept.grown.loop.poller
  constructor
  case sound => exact kept.sound
  case sited => exact kept.sited lineup.sited
  case lined =>
      rw [poller]
      exact (lineup.lined.leave fun other due found => (Lined.due_of_without found).2).aside
        (Lined.without_self dues fd) aside
  case seated =>
      intro other registration found
      rcases vacates.was_registered found with ⟨different, found⟩
      rw [vacates.live, if_neg different]
      exact lineup.seated other registration found
  case registered =>
      intro other entry found
      rcases vacates.was_live found with ⟨different, found⟩
      rw [vacates.registrations, if_neg different]
      exact lineup.registered other entry found
  case timed =>
      intro other entry found
      rcases vacates.was_live found with ⟨different, found⟩
      rcases lineup.timed other entry found with ⟨timer, timed⟩
      exact ⟨timer, aside.timers other timer different timed⟩
  case watched =>
      intro other due registration found there
      rcases vacates.was_registered there with ⟨different, there⟩
      rw [poller, aside.watching other different]
      exact lineup.watched other due registration (Lined.due_of_without found).2 there
  case known =>
      exact fun timer due dueAt => Nat.lt_of_lt_of_le (lineup.known timer due dueAt) vacates.ids
  case standing =>
      intro other due found
      rcases Lined.due_of_without found with ⟨different, found⟩
      rw [vacates.live, if_neg different.symm]
      exact lineup.standing other due found
  case calling =>
      intro other due member
      rw [aside.now]
      exact lineup.calling other due member
  case held =>
      intro other due member found
      rcases vacates.was_live found with ⟨different, found⟩
      rw [vacates.registrations, if_neg different]
      exact lineup.held other due member found
  case grown => exact trans_of EventLoop.Grown lineup.grown kept.grown.loop
  case sorted => exact lineup.sorted
  case front =>
      exact fun other due other' due' member found =>
        lineup.front other due other' due' member (Lined.due_of_without found).2
  case covered =>
      intro other entry found
      rcases vacates.was_live found with ⟨different, found⟩
      rw [Lined.without_of_ne dues different.symm]
      exact lineup.covered other entry found
  case rung =>
      intro timer time due rang dueAt
      rcases lineup.rung timer time due rang dueAt with ⟨past, calls, line⟩
      rw [aside.now]
      exact ⟨past, calls, fun other due' found => line other due' (Lined.due_of_without found).2⟩
  case idle =>
      intro other registration number callback found handles member
      rw [vacates.running] at member
      exact lineup.idle other registration number callback (vacates.was_registered found).2 handles
        member
  case past =>
      intro serial member
      rw [vacates.running] at member
      exact Nat.lt_of_lt_of_le (lineup.past serial member) kept.grown.loop.serial

/-- All timers that are live are to ring once. -/
theorem once (lineup : Lineup callbacks reported dues called ringing id kernel reactor history)
    {entry : LiveTimer} (live : reactor.timers.live.get? fd = some entry) :
    entry = ⟨entry.id, false⟩ := by
  rcases lineup.registered fd entry live with ⟨registration, found⟩
  rcases lineup.seated fd registration found with ⟨number, callback, -, live', -⟩
  cases live.symm.trans live'
  rfl

/-! ### A timer is started -/

section Start

variable {armed : Kernel} {callback : Script σ} {delay : Span} {token : Token}

/-- The number of the next timer was never given to another. -/
theorem unarmed (lineup : Lineup callbacks reported dues called ringing id kernel reactor history)
    (fd : Descriptor) (due : Alarm) : ¬DueAt history id (reactor.nextTimer fd) due :=
  fun dueAt => Nat.lt_irrefl _ (lineup.known _ due dueAt)

/-- What is free stands in no line. -/
theorem undue_of_free (lineup : Lineup callbacks reported dues called ringing id kernel reactor history)
    (free : kernel.opening? fd = none) : dues fd = none := by
  apply Option.eq_none_iff_forall_ne_some.mpr
  intro due found
  exact Option.some_ne_none _
    ((lineup.standing fd due found).1.symm.trans (lineup.sound.dead_of_free free))

/-- A timer that was made, armed and registered stands in line. -/
theorem enroll (lineup : Lineup callbacks reported dues called ringing id kernel reactor history)
    (lawful : Lawful (inTurn id) history) (kept : Kept (kernel, reactor) (after, later))
    (free : kernel.opening? fd = none) (enrolled : Enrolled armed fd false callback reactor later)
    (good : callbacks callback) (aside : Aside reactor.loop.poller.list fd kernel after)
    (watched : after.watch? reactor.loop.poller.list fd =
      some ⟨(Token.make fd reactor.loop.generation), Interest.readable.requested⟩)
    (absent : fd ∉ after.queueOf reactor.loop.poller.list) {serial : Nat}
    (newest : kernel.alarms ≤ serial) (counted : serial < after.alarms)
    (timed : after.resource? fd =
      some (.timer ⟨some ⟨kernel.now + max delay.toNanos 1, serial⟩, 0, 0⟩)) :
    Lineup callbacks reported
      (dues.put fd ⟨kernel.now + max delay.toNanos 1, reactor.timers.nextId⟩) called ringing id after
      later (history ++ [.armed id (reactor.nextTimer fd) false kernel.now delay]) := by
  have poller : later.loop.poller = reactor.loop.poller := kept.grown.loop.poller
  have positive : 0 < max delay.toNanos 1 := Nat.lt_of_lt_of_le Nat.one_pos (Nat.le_max_right _ _)
  have old {timer : TimerHandle} {due : Alarm} (dueAt : DueAt history id timer due) :
      DueAt (history ++ [.armed id (reactor.nextTimer fd) false kernel.now delay]) id timer due :=
    dueAt.later fun _ => List.mem_append_left _
  have rang {timer : TimerHandle} {time : Nat}
      (rang : .ringing id timer time ∈
        history ++ [.armed id (reactor.nextTimer fd) false kernel.now delay]) :
      .ringing id timer time ∈ history := mem_of_mem_concat rang nofun
  constructor
  case sound => exact kept.sound
  case sited => exact kept.sited lineup.sited
  case lined =>
      rw [poller]
      refine lineup.lined.join (lineup.undue_of_free free) aside ⟨_, watched⟩ absent timed newest counted ?_ ?_
      · rw [aside.now]
        exact Nat.lt_add_of_pos_right positive
      · intro other due found
        exact lineup.known _ due (lineup.standing other due found).2
  case seated =>
      intro other registration found
      rw [enrolled.registrations] at found
      rw [enrolled.live]
      split at found
      next here =>
          cases found
          rw [if_pos here, ← here]
          exact ⟨_, callback, rfl, rfl, good⟩
      next away =>
          rw [if_neg away]
          exact lineup.seated other registration found
  case registered =>
      intro other entry found
      rw [enrolled.registrations]
      rcases enrolled.live_cases found with ⟨rfl, -⟩ | ⟨away, found⟩
      · exact ⟨_, if_pos rfl⟩
      · rw [if_neg away]
        exact lineup.registered other entry found
  case timed =>
      intro other entry found
      rcases enrolled.live_cases found with ⟨rfl, -⟩ | ⟨away, found⟩
      · exact ⟨_, timed⟩
      · rcases lineup.timed other entry found with ⟨timer, timed'⟩
        exact ⟨timer, aside.timers other timer away timed'⟩
  case watched =>
      intro other due registration found there
      rw [poller]
      rw [enrolled.registrations] at there
      rcases Lined.due_of_put found with ⟨rfl, -⟩ | ⟨away, found⟩
      · rw [if_pos rfl] at there
        cases there
        exact ⟨_, watched⟩
      · rw [if_neg away.symm] at there
        rw [aside.watching other away.symm]
        exact lineup.watched other due registration found there
  case known =>
      intro timer due dueAt
      rw [enrolled.ids]
      rcases dueAt_armed dueAt with ⟨rfl, -⟩ | dueAt
      · exact Nat.lt_succ_self _
      · exact Nat.lt_succ_of_lt (lineup.known timer due dueAt)
  case standing =>
      intro other due found
      rw [enrolled.live]
      rcases Lined.due_of_put found with ⟨rfl, rfl⟩ | ⟨away, found⟩
      · rw [if_pos rfl]
        exact ⟨rfl, dueAt_of_armed⟩
      · rw [if_neg away.symm]
        exact ⟨(lineup.standing other due found).1, old (lineup.standing other due found).2⟩
  case calling =>
      intro other due member
      rw [aside.now]
      exact ⟨old (lineup.calling other due member).1, (lineup.calling other due member).2⟩
  case held =>
      intro other due member found
      rw [enrolled.registrations]
      rcases enrolled.live_cases found with ⟨-, new⟩ | ⟨away, found⟩
      · have number : due.serial = reactor.timers.nextId := congrArg LiveTimer.id new
        exact absurd number (Nat.ne_of_lt (lineup.known _ due (lineup.calling other due member).1))
      · rw [if_neg away]
        exact lineup.held other due member found
  case grown => exact trans_of EventLoop.Grown lineup.grown kept.grown.loop
  case sorted => exact lineup.sorted
  case front =>
      intro other due other' due' member found
      rcases Lined.due_of_put found with ⟨-, rfl⟩ | ⟨-, found⟩
      · rw [Alarm.before_iff]
        exact .inl (Nat.lt_of_le_of_lt (lineup.calling other due member).2
          (Nat.lt_add_of_pos_right positive))
      · exact lineup.front other due other' due' member found
  case covered =>
      intro other entry found
      rcases enrolled.live_cases found with ⟨rfl, -⟩ | ⟨away, found⟩
      · exact .inl ⟨_, if_pos rfl⟩
      · rcases lineup.covered other entry found with ⟨due, found⟩ | rest
        · exact .inl ⟨due, (Lined.put_of_ne dues _ away.symm).trans found⟩
        · exact .inr rest
  case rung =>
      intro timer time due ringing' dueAt
      have before := rang ringing'
      rcases dueAt_of_ringing lawful before with ⟨due₁, dueAt₁⟩
      rcases dueAt_armed dueAt with ⟨rfl, -⟩ | dueAt
      · exact absurd dueAt₁ (lineup.unarmed fd due₁)
      · rcases lineup.rung timer time due before dueAt with ⟨past, calls, line⟩
        rw [aside.now]
        refine ⟨past, calls, fun other due' found => ?_⟩
        rcases Lined.due_of_put found with ⟨-, rfl⟩ | ⟨-, found⟩
        · rw [Alarm.before_iff]
          exact .inl (Nat.lt_of_le_of_lt past (Nat.lt_add_of_pos_right positive))
        · exact line other due' found
  case idle =>
      intro other registration number callback' found handles member
      rw [enrolled.running] at member
      rw [enrolled.registrations] at found
      split at found
      next =>
          cases found
          exact absurd (lineup.past _ member) (Nat.lt_irrefl _)
      next => exact lineup.idle other registration number callback' found handles member
  case past =>
      intro serial' member
      rw [enrolled.running] at member
      exact Nat.lt_of_lt_of_le (lineup.past serial' member) kept.grown.loop.serial

end Start

/-! ### A timer rings -/

/-- A handler is started for the timer that is called next. -/
theorem begin {due : Alarm} {registration : Registration (Handler σ)} {callback : Script σ}
    (lineup : Lineup callbacks reported dues ((fd, due) :: called) none id kernel reactor history)
    (found : reactor.loop.registrations.get? fd = some registration)
    (handles : registration.handler = .timer ⟨fd, due.serial⟩ false callback) :
    Lineup callbacks reported dues ((fd, due) :: called) (some ⟨fd, due.serial⟩) id kernel
      (reactor.rerun (registration.serial :: reactor.loop.running)) history :=
  have running : ∀ serial ∈ reactor.loop.running,
      serial ∈ registration.serial :: reactor.loop.running :=
    fun _ member => List.mem_cons_of_mem _ member
  have kept := lineup.sound.kept_rerun running
  { lineup with
    sound := kept.sound
    sited := lineup.sited
    lined := lineup.lined
    grown := trans_of EventLoop.Grown lineup.grown kept.grown.loop
    covered := fun other entry live => by
      rcases lineup.covered other entry live with line | call | none
      · exact .inl line
      · exact .inr (.inl call)
      · cases none
    idle := fun other registration' number callback' found' handles' member => by
      rcases List.mem_cons.mp member with same | running
      · cases lineup.sound.loop.apart other fd registration' registration found' found same
        cases found'.symm.trans found
        rw [handles] at handles'
        cases handles'
        rfl
      · cases lineup.idle other registration' number callback' found' handles' running
    past := fun serial member => by
      rcases List.mem_cons.mp member with rfl | running
      · exact (lineup.sound.loop.registered fd registration found).1
      · exact lineup.past serial running }

/-- The callback of the timer that was called next is started. -/
theorem ring {due : Alarm}
    (lineup : Lineup callbacks reported dues ((fd, due) :: called) (some ⟨fd, due.serial⟩) id kernel
      reactor history) (lawful : Lawful (inTurn id) history) (time : Nat) :
    Lineup callbacks reported dues called (some ⟨fd, due.serial⟩) id kernel reactor
      (history ++ [.ringing id ⟨fd, due.serial⟩ time]) := by
  have told {timer : TimerHandle} {due' : Alarm} :
      DueAt (history ++ [.ringing id ⟨fd, due.serial⟩ time]) id timer due' ↔
        DueAt history id timer due' := by
    refine ⟨?_, fun dueAt => dueAt.later fun _ => List.mem_append_left _⟩
    rintro ⟨isRepeating, start, delay, armed, same⟩
    exact ⟨isRepeating, start, delay, mem_of_mem_concat armed nofun, same⟩
  have head : (fd, due) ∈ (fd, due) :: called := List.mem_cons_self
  have rest {call : Descriptor × Alarm} (member : call ∈ called) : call ∈ (fd, due) :: called :=
    List.mem_cons_of_mem _ member
  exact
    { lineup with
      known := fun timer due' dueAt => lineup.known timer due' (told.mp dueAt)
      standing := fun other due' found =>
        ⟨(lineup.standing other due' found).1, told.mpr (lineup.standing other due' found).2⟩
      calling := fun other due' member =>
        ⟨told.mpr (lineup.calling other due' (rest member)).1,
          (lineup.calling other due' (rest member)).2⟩
      held := fun other due' member => lineup.held other due' (rest member)
      sorted := (List.pairwise_cons.mp lineup.sorted).2
      front := fun other due' other' due'' member => lineup.front other due' other' due'' (rest member)
      covered := fun other entry live => by
        rcases lineup.covered other entry live with line | ⟨due', member, number⟩ | ringing
        · exact .inl line
        · rcases List.mem_cons.mp member with same | later
          · cases same
            rw [number]
            exact .inr (.inr rfl)
          · exact .inr (.inl ⟨due', later, number⟩)
        · exact .inr (.inr ringing)
      rung := fun timer time' due' rang dueAt => by
        have dueAt := told.mp dueAt
        rcases List.mem_append.mp rang with old | new
        · rcases lineup.rung timer time' due' old dueAt with ⟨past, calls, line⟩
          exact ⟨past, fun other due'' member => calls other due'' (rest member), line⟩
        · cases List.mem_singleton.mp new
          rcases lineup.calling fd due head with ⟨dueAt₁, past⟩
          cases dueAt_unique lawful dueAt dueAt₁
          exact ⟨past, fun other due'' member => (List.pairwise_cons.mp lineup.sorted).1 _ member,
            fun other due'' found => lineup.front fd _ other due'' head found⟩ }

/-- What rings next was due after all that have rung. -/
theorem inTurn_ringing {due : Alarm}
    (lineup : Lineup callbacks reported dues ((fd, due) :: called) ringing id kernel reactor history)
    (time : Nat) : inTurn id history (.ringing id ⟨fd, due.serial⟩ time) := by
  have head : (fd, due) ∈ (fd, due) :: called := List.mem_cons_self
  exact fun _ => ⟨due, (lineup.calling fd due head).1, fun earlier time' due' rang dueAt =>
    (lineup.rung earlier time' due' rang dueAt).2.1 fd due head⟩

/-- A timer that is gone is called in vain. -/
theorem skip {due : Alarm}
    (lineup : Lineup callbacks reported dues ((fd, due) :: called) ringing id kernel reactor history)
    (dead : reactor.timers.live.get? fd ≠ some ⟨due.serial, false⟩) :
    Lineup callbacks reported dues called ringing id kernel reactor history := by
  have rest {call : Descriptor × Alarm} (member : call ∈ called) : call ∈ (fd, due) :: called :=
    List.mem_cons_of_mem _ member
  exact
    { lineup with
      calling := fun other due' member => lineup.calling other due' (rest member)
      held := fun other due' member => lineup.held other due' (rest member)
      sorted := (List.pairwise_cons.mp lineup.sorted).2
      front := fun other due' other' due'' member => lineup.front other due' other' due'' (rest member)
      covered := fun other entry live => by
        rcases lineup.covered other entry live with line | ⟨due', member, number⟩ | ringing
        · exact .inl line
        · rcases List.mem_cons.mp member with same | later
          · cases same
            rw [number, ← lineup.once live] at dead
            exact absurd live dead
          · exact .inr (.inl ⟨due', later, number⟩)
        · exact .inr (.inr ringing)
      rung := fun timer time due' rang dueAt => by
        rcases lineup.rung timer time due' rang dueAt with ⟨past, calls, line⟩
        exact ⟨past, fun other due'' member => calls other due'' (rest member), line⟩ }

/-- The handler of a timer that is gone has come back. -/
theorem finish {number : Nat}
    (lineup : Lineup callbacks reported dues called (some ⟨fd, number⟩) id kernel reactor history)
    (dead : reactor.timers.live.get? fd ≠ some ⟨number, false⟩) (fresh : reported.running = [])
    (serial : Nat) :
    Lineup callbacks reported dues called none id kernel
      (reactor.rerun (reactor.loop.running.erase serial)) history :=
  { lineup with
    sound := lineup.sound.rerun _
    sited := lineup.sited
    lined := lineup.lined
    grown := ⟨lineup.grown.poller, lineup.grown.serial, lineup.grown.kept, by rw [fresh]; nofun⟩
    covered := fun other entry live => by
      rcases lineup.covered other entry live with line | call | ringing
      · exact .inl line
      · exact .inr (.inl call)
      · cases ringing
        rw [← lineup.once live] at dead
        exact absurd live dead
    idle := fun other registration number' callback found handles member => by
      cases lineup.idle other registration number' callback found handles
        (List.mem_of_mem_erase member)
      rcases lineup.seated fd registration found with ⟨number', callback', handles', live, -⟩
      rw [handles] at handles'
      cases handles'
      exact absurd live dead
    past := fun serial' member => lineup.past serial' (List.mem_of_mem_erase member) }

/-! ### A batch is reported -/

/-- The timers that are called by what has been reported. -/
def calls (dues : Dues) (reported : List Descriptor) : List (Descriptor × Alarm) :=
  reported.filterMap fun fd => (dues fd).map fun due => (fd, due)

theorem mem_calls {fds : List Descriptor} {due : Alarm} :
    (fd, due) ∈ calls dues fds ↔ fd ∈ fds ∧ dues fd = some due := by
  unfold calls
  rw [List.mem_filterMap]
  constructor
  · rintro ⟨other, member, found⟩
    rcases Option.map_eq_some_iff.mp found with ⟨due', dueAt, same⟩
    cases same
    exact ⟨member, dueAt⟩
  · rintro ⟨member, found⟩
    exact ⟨fd, member, by rw [found]; rfl⟩

theorem map_calls (dues : Dues) (fds : List Descriptor) :
    (calls dues fds).map Prod.snd = fds.filterMap dues := by
  unfold calls
  rw [List.map_filterMap]
  congr 1
  funext fd
  cases dues fd <;> rfl

/-- The loop at the time of a report, when no handler was being run. -/
def resting (loop : EventLoop (Handler σ)) : EventLoop (Handler σ) :=
  { loop with running := [] }

/-- With the reports of a wait, the front of the line is called. -/
theorem awaited {events : List Readiness} {fds : List Descriptor}
    (lineup : Lineup callbacks reported dues [] none id kernel reactor history)
    (still : Still kernel after)
    (fronts : Fronts after reactor.loop.poller.list dues events fds) :
    Lineup callbacks (resting reactor.loop) (dues.outside fds) (calls dues fds) none id after reactor
      history := by
  have passed : kernel.now ≤ after.now := still.ticks.now
  have outside {fd : Descriptor} {due : Alarm} (found : dues.outside fds fd = some due) :=
    due_of_outside found
  have kept := lineup.sound.still still
  exact
    { lineup with
      sound := kept.sound
      sited := kept.sited lineup.sited
      lined := fronts.rest
      timed := fun fd entry live => by
        rcases lineup.timed fd entry live with ⟨timer, timed⟩
        rcases still.ticks.timers fd timer not_false timed with ⟨later, timed', _⟩
        exact ⟨later, timed'⟩
      watched := fun fd due registration found registered => by
        rw [watch?_congr (still.standing _)]
        exact lineup.watched fd due registration (outside found).2 registered
      standing := fun fd due found => lineup.standing fd due (outside found).2
      calling := fun fd due member =>
        ⟨(lineup.standing fd due (mem_calls.mp member).2).2,
          fronts.lapsed fd (mem_calls.mp member).1 due (mem_calls.mp member).2⟩
      held := fun _ _ _ _ => rfl
      grown := ⟨rfl, Nat.le_refl _, fun _ _ found _ => found, nofun⟩
      sorted := by
        have sorted := fronts.sorted
        rw [← map_calls, List.pairwise_map] at sorted
        exact sorted
      front := fun fd due fd' due' member found =>
        fronts.first fd (mem_calls.mp member).1 due (mem_calls.mp member).2 fd' due'
          (outside found).1 (outside found).2
      covered := fun fd entry live => by
        rcases lineup.covered fd entry live with ⟨due, found⟩ | ⟨_, member, _⟩ | none
        · by_cases member : fd ∈ fds
          · refine .inr (.inl ⟨due, mem_calls.mpr ⟨member, found⟩, ?_⟩)
            have live' := (lineup.standing fd due found).1
            cases live.symm.trans live'
            rfl
          · exact .inl ⟨due, (if_neg member).trans found⟩
        · cases member
        · cases none
      rung := fun timer time due rang dueAt => by
        rcases lineup.rung timer time due rang dueAt with ⟨past, _, line⟩
        exact ⟨Nat.le_trans past passed, fun fd due' member => line fd due' (mem_calls.mp member).2,
          fun fd due' found => line fd due' (outside found).2⟩ }

/-- What is registered where nothing is called and nothing rings stands in line. -/
theorem due_of_registered
    (lineup : Lineup callbacks reported dues [] none id kernel reactor history)
    {registration : Registration (Handler σ)}
    (found : reactor.loop.registrations.get? fd = some registration) :
    ∃ due callback, dues fd = some due ∧
      registration.handler = .timer ⟨fd, due.serial⟩ false callback := by
  rcases lineup.seated fd registration found with ⟨number, callback, handles, live, _⟩
  rcases lineup.covered fd _ live with ⟨due, dueAt⟩ | ⟨_, member, _⟩ | none
  · refine ⟨due, callback, dueAt, ?_⟩
    cases live.symm.trans (lineup.standing fd due dueAt).1
    exact handles
  · cases member
  · cases none

/-- The reports of a wait are for the timers that are called by it. -/
theorem summons {events : List Readiness} {fds : List Descriptor}
    (lineup : Lineup callbacks reported dues [] none id kernel reactor history)
    (still : Still kernel after)
    (tokens : List.Forall₂ (fun event fd => ∃ watch,
      after.watch? reactor.loop.poller.list fd = some watch ∧ event.token = watch.token) events fds) :
    Summons (resting reactor.loop) (events.map (Dispatch.Report.by reactor.loop)) (calls dues fds) := by
  have kept := lineup.sound.still still
  induction tokens with
  | nil => exact .done
  | @cons event fd events fds watched _ ih =>
      rcases watched with ⟨watch, watched, token⟩
      have site : Token.descriptor event.token = fd := by
        rw [token]
        exact (kept.sited lineup.sited).token_of_watch? watched
      have issued : (resting reactor.loop).Issued event.token := by
        rw [token]
        exact kept.sound.loop.watching.token_of_watch? watched
      rcases found : reactor.loop.registrations.get? fd with _ | registration
      · have undue : dues fd = none := by
          cases dueAt : dues fd with
          | none => rfl
          | some due =>
              rcases lineup.registered fd _ (lineup.standing fd due dueAt).1 with ⟨other, found'⟩
              cases found.symm.trans found'
        have gone : (resting reactor.loop).registrations.get? (Token.descriptor event.token) = none := by
          rw [site]
          exact found
        have unnamed : (Dispatch.Report.by reactor.loop event).registration = none := by
          change reactor.loop.inForce? (Token.descriptor event.token) = none
          rw [EventLoop.inForce?, site, found]
          rfl
        have uncalled : calls dues (fd :: fds) = calls dues fds := by
          rw [calls, List.filterMap_cons, undue]
          rfl
        rw [uncalled]
        exact .nobody issued gone unnamed ih
      · rcases lineup.due_of_registered found with ⟨due, callback, dueAt, handles⟩
        have called : calls dues (fd :: fds) = (fd, due) :: calls dues fds := by
          rw [calls, List.filterMap_cons, dueAt]
          rfl
        have named : (Dispatch.Report.by reactor.loop event).registration = some registration.serial := by
          change reactor.loop.inForce? (Token.descriptor event.token) = some registration.serial
          rw [EventLoop.inForce?, site, found]
          rfl
        rcases lineup.watched fd due registration dueAt found with ⟨interest, watched'⟩
        rw [← watch?_congr (still.standing _), watched] at watched'
        rw [called]
        refine .timer issued site found ?_ named (lineup.sound.loop.registered fd registration found).1
          ⟨callback, handles⟩ ih
        change registration.token = event.token
        rw [token, Option.some.inj watched']

end Lineup

end Reactor

end ScriptHost
