import ScriptHost.Proofs.Loop.Cancelling
import ScriptHost.Proofs.Loop.Joining

/-!
# Scripts that keep to timers

A script may use a loop for timers that ring once and for nothing else: it starts them,
it cancels them, it lets time go by, and if it may it turns the loop.  Whatever it does
between two turns, the timers of the loop stay in line.  Where it is cut off in the
middle, they have rung in turn until then.
-/

namespace ScriptHost

open World Kernel

variable {σ α β : Type} {id : Nat}

/-! ## Scripts -/

/-- What a script may do with a loop, besides cancelling its timers. -/
inductive Licence where
  /-- Nothing. -/
  | cancels
  /-- It may start timers that ring once, and plan faults. -/
  | starts
  /-- It may also turn the loop. -/
  | turns
deriving DecidableEq

/-- Requests that are about no loop, that only look or let time go by, that give a loop another
hook for errors, or that cancel timers of this one. -/
inductive Request.IsCalm (id : Nat) : Request → Prop where
  | elsewhere {request : Request} {part : Part} (concerns : request.part? = some part)
      (other : part ≠ .loops) : IsCalm id request
  | now : IsCalm id .now
  | advance (nanos : Nat) : IsCalm id (.advance nanos)
  | armed : IsCalm id .armed
  | listens (reactor : Nat) (fd : Descriptor) : IsCalm id (.listens reactor fd)
  | registered (reactor : Nat) : IsCalm id (.registered reactor)
  | timers (reactor : Nat) : IsCalm id (.timers reactor)
  | setHook (reactor : Nat) (hook : ErrorHook) : IsCalm id (.setHook reactor hook)
  | cancel (timer : TimerHandle) : IsCalm id (.cancel id timer)

/-- Scripts that use a loop for timers that ring once.  Whoever has the licence may turn the loop,
but no callback has it. -/
inductive Script.Times (id : Nat) : Licence → Script σ → Prop where
  | done {licence : Licence} (value : Value) : Times id licence (.done value)
  | fail {licence : Licence} (error : Error) : Times id licence (.fail error)
  | ask {licence : Licence} {request : Request} {next : request.Reply → Script σ}
      (calm : request.IsCalm id) (goesOn : ∀ reply, Times id licence (next reply)) :
      Times id licence (.ask request next)
  | fetch {licence : Licence} {next : σ → Script σ}
      (goesOn : ∀ memory, Times id licence (next memory)) : Times id licence (.fetch next)
  | store {licence : Licence} (memory : σ) {next : Script σ} (goesOn : Times id licence next) :
      Times id licence (.store memory next)
  | define {licence : Licence} (name : String) (body : List Value → Script σ)
      {next : Value → Script σ} (goesOn : ∀ function, Times id licence (next function)) :
      Times id licence (.define name body next)
  | plan {licence : Licence} {next : Unit → Script σ} (licensed : licence ≠ .cancels)
      (fault : PlannedFault) (goesOn : ∀ reply, Times id licence (next reply)) :
      Times id licence (.ask (.plan fault) next)
  | schedule {licence : Licence} {callback : Script σ}
      {next : Except Error TimerHandle → Script σ} (licensed : licence ≠ .cancels) (delay : Span)
      (rings : Times id .starts callback) (goesOn : ∀ outcome, Times id licence (next outcome)) :
      Times id licence (.schedule id delay false callback next)
  | poll (timeout : Option Span) {next : Except Error Nat → Script σ}
      (goesOn : ∀ outcome, Times id .turns (next outcome)) :
      Times id .turns (.poll id timeout next)
  | drive {next : Except Error Unit → Script σ} (goesOn : ∀ outcome, Times id .turns (next outcome)) :
      Times id .turns (.drive id next)

/-! ## What actions abide by -/

/-- What an action that keeps to something comes to: it is cut off, or it comes back. -/
inductive Ended (cut P : World σ → Prop) : Except Failure α × World σ → Prop where
  | stopped {after : World σ} (holds : cut after) : Ended cut P (.error .exhausted, after)
  | raised {error : Error} {after : World σ} (holds : P after) :
      Ended cut P (.error (.raised error), after)
  | returned {value : α} {after : World σ} (holds : P after) : Ended cut P (.ok value, after)

theorem Ended.mono {cut P Q : World σ → Prop} {ended : Except Failure α × World σ}
    (ends : Ended cut P ended) (weaker : ∀ world, P world → Q world) : Ended cut Q ended := by
  cases ends with
  | stopped holds => exact .stopped holds
  | raised holds => exact .raised (weaker _ holds)
  | returned holds => exact .returned (weaker _ holds)

/-- What goes on with the value of an action, if it has one. -/
theorem Ended.bind {cut P Q : World σ → Prop} {x : Action σ α} {world : World σ}
    {f : α → Action σ β} (ended : Ended cut P (x world))
    (raised : ∀ error after, x world = (.error (.raised error), after) → P after → Q after)
    (rest : ∀ value after, x world = (.ok value, after) → P after → Ended cut Q (f value after)) :
    Ended cut Q ((x >>= f) world) := by
  rcases begun : x world with ⟨_ | value, after⟩ <;> rw [begun] at ended
  · rw [bind_of_error begun]
    cases ended with
    | stopped holds => exact .stopped holds
    | raised holds => exact .raised (raised _ after begun holds)
  · rw [bind_of_ok begun]
    cases ended with
    | returned holds => exact rest value after begun holds

theorem Ended.attempt {cut P : World σ → Prop} {action : Action σ α} {world : World σ}
    (ended : Ended cut P (action world)) : Ended cut P (attempt action world) := by
  unfold World.attempt
  generalize action world = outcome at ended ⊢
  cases ended with
  | stopped holds => exact .stopped holds
  | raised holds => exact .returned holds
  | returned holds => exact .returned holds

/-- What goes on with the outcome of an action, which may be an error. -/
theorem Ended.attempt_bind {cut P Q : World σ → Prop} {action : Action σ α} {world : World σ}
    {f : Except Error α → Action σ β} (ended : Ended cut P (action world))
    (rest : ∀ outcome after, World.attempt action world = (.ok outcome, after) → P after →
      Ended cut Q (f outcome after)) : Ended cut Q ((World.attempt action >>= f) world) :=
  ended.attempt.bind (fun _ _ returned => nomatch (attempt_eq_error_iff.mp returned).1) rest

/-- An action that begins with something ends with it, unless it is cut off. -/
def Abides (cut P : World σ → Prop) (action : Action σ α) : Prop :=
  ∀ world, P world → Ended cut P (action world)

namespace Abides

variable {cut P : World σ → Prop}

protected theorem pure (value : α) : Abides cut P (pure value : Action σ α) :=
  fun _ begins => .returned begins

protected theorem raise (error : Error) : Abides cut P (raise error : Action σ α) :=
  fun _ begins => .raised begins

protected theorem ofExcept (outcome : Except Error α) : Abides cut P (ofExcept outcome) := by
  cases outcome with
  | ok value => exact .pure value
  | error error => exact .raise error

/-- There is no fuel left. -/
protected theorem exhausted (cuts : ∀ world, P world → cut world) :
    Abides cut P (throw .exhausted : Action σ α) :=
  fun world begins => .stopped (cuts world begins)

protected theorem bind {x : Action σ α} {f : α → Action σ β} (first : Abides cut P x)
    (rest : ∀ value, Abides cut P (f value)) : Abides cut P (x >>= f) :=
  fun world begins => (first world begins).bind (fun _ _ _ holds => holds)
    fun value after _ holds => rest value after holds

protected theorem attempt {action : Action σ α} (abides : Abides cut P action) :
    Abides cut P (attempt action) :=
  fun world begins => (abides world begins).attempt

/-- What holds in one way or another is kept if each of the ways is. -/
protected theorem indexed {ι : Type} {Q : ι → World σ → Prop} {action : Action σ α}
    (abides : ∀ index, Abides cut (Q index) action) :
    Abides cut (fun world => ∃ index, Q index world) action := by
  rintro world ⟨index, begins⟩
  exact (abides index world begins).mono fun _ holds => ⟨index, holds⟩

end Abides

/-- What is kept by whatever a script does that starts no timer and turns no loop. -/
structure Composed (id : Nat) (cut P : World σ → Prop) : Prop where
  ticks : Abides cut P tick
  stores : ∀ memory, Abides cut P (modify fun world => { world with memory } : Action σ PUnit)
  defines : ∀ name body, Abides cut P (Script.newFunction name body)
  answers : ∀ request, Request.IsCalm id request → Abides cut P (Script.answer request)

/-- Following a script, if what it has the licence for is kept. -/
theorem Script.abides_interpret {cut P : World σ → Prop} {context : Startup.Context σ}
    {licence : Licence} {script : Script σ} (composed : Composed id cut P)
    (times : Script.Times id licence script)
    (plans : licence ≠ .cancels → ∀ fault, Abides cut P (answer (.plan fault)))
    (starts : licence ≠ .cancels → ∀ delay callback, Script.Times id .starts callback →
      Abides cut P (Dispatch.schedule id delay false callback))
    (turns : licence = .turns → (∀ timeout, Abides cut P (Dispatch.poll context.run id timeout)) ∧
      Abides cut P (Dispatch.drive context.run id context.turns)) :
    Abides cut P (interpret context script) := by
  induction times with
  | done value => exact composed.ticks.bind fun _ => .pure value
  | fail error => exact composed.ticks.bind fun _ => .raise error
  | ask calm _ ih =>
      exact composed.ticks.bind fun _ => (composed.answers _ calm).bind fun reply =>
        ih reply plans starts turns
  | fetch _ ih =>
      refine composed.ticks.bind fun _ world begins => ?_
      rw [get_bind_eq]
      exact ih world.memory plans starts turns world begins
  | store memory _ ih =>
      exact composed.ticks.bind fun _ => (composed.stores memory).bind fun _ => ih plans starts turns
  | define name body _ ih =>
      exact composed.ticks.bind fun _ => (composed.defines name body).bind fun function =>
        ih function plans starts turns
  | plan licensed fault _ ih =>
      exact composed.ticks.bind fun _ => (plans licensed fault).bind fun reply =>
        ih reply plans starts turns
  | schedule licensed delay rings _ _ ih =>
      exact composed.ticks.bind fun _ => (starts licensed delay _ rings).attempt.bind fun outcome =>
        ih outcome plans starts turns
  | poll timeout _ ih =>
      exact composed.ticks.bind fun _ => ((turns rfl).1 timeout).attempt.bind fun outcome =>
        ih outcome plans starts turns
  | drive _ ih =>
      exact composed.ticks.bind fun _ => (turns rfl).2.attempt.bind fun outcome =>
        ih outcome plans starts turns

/-! ## Worlds in line -/

theorem Event.isAside_of_part {event : Event} (other : event.part ≠ .loops) (id : Nat) :
    event.IsAside id := by
  cases event <;> trivial

theorem Reactor.Lineup.toldAll {callbacks : Script σ → Prop} {reported : EventLoop (Handler σ)}
    {dues : Dues} {called : List (Descriptor × Alarm)} {ringing : Option TimerHandle}
    {kernel : Kernel} {reactor : Reactor (Handler σ)} {history news : List Event}
    (lineup : Lineup callbacks reported dues called ringing id kernel reactor history)
    (aside : ∀ event ∈ news, event.IsAside id) :
    Lineup callbacks reported dues called ringing id kernel reactor (history ++ news) := by
  induction news generalizing history with
  | nil =>
      rw [List.append_nil]
      exact lineup
  | cons event rest ih =>
      rw [List.append_cons]
      exact ih (lineup.told (aside event List.mem_cons_self))
        fun other member => aside other (List.mem_cons_of_mem event member)

namespace World

/-- The timers of a loop have rung in turn. -/
def InTurn (id : Nat) (world : World σ) : Prop :=
  Direct world.journal.toList id → Lawful (inTurn id) world.journal.toList

/-- The timers of a loop have rung in turn, and if it is there they stand in line. -/
def InLine (callbacks : Script σ → Prop) (reported : EventLoop (Handler σ))
    (called : List (Descriptor × Alarm)) (ringing : Option TimerHandle) (id : Nat)
    (world : World σ) : Prop :=
  Direct world.journal.toList id → Lawful (inTurn id) world.journal.toList ∧
    ∀ reactor, world.reactor? id = some reactor → ∃ dues, Reactor.Lineup callbacks reported dues
      called ringing id world.kernel reactor world.journal.toList

namespace InLine

variable {callbacks : Script σ → Prop} {reported : EventLoop (Handler σ)}
  {called called' : List (Descriptor × Alarm)} {ringing ringing' : Option TimerHandle}
  {world before after : World σ} {event : Event} {reactor : Reactor (Handler σ)}

theorem inTurn (inLine : world.InLine callbacks reported called ringing id) : world.InTurn id :=
  fun direct => (inLine direct).1

theorem of_same (inLine : before.InLine callbacks reported called ringing id)
    (kernel : after.kernel = before.kernel) (journal : after.journal = before.journal)
    (stays : ∀ reactor, after.reactor? id = some reactor → before.reactor? id = some reactor) :
    after.InLine callbacks reported called ringing id := by
  unfold InLine
  rw [kernel, journal]
  exact fun direct =>
    ⟨(inLine direct).1, fun reactor found => (inLine direct).2 reactor (stays reactor found)⟩

/-- A loop that is gone. -/
theorem of_none (inLine : before.InLine callbacks reported called ringing id)
    (journal : after.journal = before.journal) (gone : after.reactor? id = none) :
    after.InLine callbacks reported called' ringing' id := by
  unfold InLine
  rw [journal]
  exact fun direct => ⟨(inLine direct).1, fun reactor found => nomatch gone.symm.trans found⟩

/-- News that are not about the turns of timers. -/
theorem told (inLine : world.InLine callbacks reported called ringing id)
    (aside : event.IsAside id) : (tell event world).2.InLine callbacks reported called ringing id := by
  intro direct
  rw [journal_tell] at direct ⊢
  rcases inLine (direct.earlier fun _ => List.mem_append_left _) with ⟨lawful, lined⟩
  refine ⟨lawful.concat (inTurn_of_aside aside _), fun reactor found => ?_⟩
  rcases lined reactor found with ⟨dues, lineup⟩
  exact ⟨dues, lineup.told aside⟩

/-- Something that concerns no loop. -/
theorem changes {part : Part} (inLine : before.InLine callbacks reported called ringing id)
    (other : part ≠ .loops) (changes : Changes part before after) :
    after.InLine callbacks reported called ringing id := by
  rcases changes.journal with ⟨news, journal, about⟩
  rcases changes.loops other with ⟨kernel, reactors⟩
  have aside : ∀ event ∈ news, event.IsAside id := by
    intro event member
    refine event.isAside_of_part (fun loops => ?_) id
    rcases about event member with own | rest
    · exact other (own.symm.trans loops)
    · cases rest.symm.trans loops
  intro direct
  rw [journal] at direct ⊢
  rw [kernel, reactor?_congr reactors]
  rcases inLine (direct.earlier fun _ => List.mem_append_left _) with ⟨lawful, lined⟩
  refine ⟨lawful.append_free fun event member => inTurn_of_aside (aside event member),
    fun reactor found => ?_⟩
  rcases lined reactor found with ⟨dues, lineup⟩
  exact ⟨dues, lineup.toldAll aside⟩

/-- Time that goes by. -/
theorem passed {kernel : Kernel} (inLine : world.InLine callbacks reported called ringing id)
    (still : Still world.kernel kernel)
    (lined : ∀ list dues, Lined world.kernel list dues → Lined kernel list dues) :
    ({ world with kernel } : World σ).InLine callbacks reported called ringing id := by
  intro direct
  rcases inLine direct with ⟨lawful, lines⟩
  refine ⟨lawful, fun reactor found => ?_⟩
  rcases lines reactor found with ⟨dues, lineup⟩
  exact ⟨dues, lineup.passed still (lined _ dues lineup.lined)⟩

/-- A call on the loop. -/
theorem settled {state : Kernel × Reactor (Handler σ)}
    (inLine : world.InLine callbacks reported called ringing id)
    (found : world.reactor? id = some reactor)
    (stands : ∀ dues, Reactor.Lineup callbacks reported dues called ringing id world.kernel reactor
        world.journal.toList →
      ∃ dues, Reactor.Lineup callbacks reported dues called' ringing' id state.1 state.2
        world.journal.toList) :
    (world.settled id state).InLine callbacks reported called' ringing' id := by
  intro direct
  rcases inLine direct with ⟨lawful, lines⟩
  refine ⟨lawful, fun later found' => ?_⟩
  rw [reactor?_settled found, if_pos rfl] at found'
  rw [← Option.some.inj found']
  rcases lines reactor found with ⟨dues, lineup⟩
  exact stands dues lineup

/-- Another hook for errors, of this loop or of another. -/
theorem setHook (inLine : world.InLine callbacks reported called ringing id) (other : Nat)
    (hook : ErrorHook) :
    (changeLoop other (fun loop => { loop with hook }) world).2.InLine callbacks reported called
      ringing id := by
  rcases changeLoop_outcome other (fun loop => { loop with hook }) world with
    same | ⟨reactor, present, same⟩ <;> rw [same]
  · exact inLine
  · by_cases same : other = id
    · subst same
      exact inLine.settled present fun dues lineup => ⟨dues, lineup.rehooked hook⟩
    · intro direct
      rcases inLine direct with ⟨lawful, lines⟩
      refine ⟨lawful, fun later found => ?_⟩
      rw [reactor?_settled present, if_neg same] at found
      exact lines later found

/-- A timer of this loop that is cancelled. -/
theorem cancel (inLine : world.InLine callbacks reported called ringing id) (timer : TimerHandle) :
    (Dispatch.cancel id timer world).2.InLine callbacks reported called ringing id := by
  rcases found : world.reactor? id with _ | reactor
  · rw [Dispatch.cancel_of_none found]
    exact inLine
  · cases live : Reactor.isLive reactor.timers timer with
    | false =>
        rw [Dispatch.cancel_of_dead found live]
        exact inLine
    | true =>
        rw [Dispatch.cancel_of_live found live, ofExcept_world]
        have aside : (Event.cancelled id timer).IsAside id := trivial
        exact (inLine.told aside).settled found fun dues lineup => ⟨_, lineup.release live⟩

/-- Whoever turns the loop holds it meanwhile. -/
theorem hold (inLine : world.InLine callbacks reported called ringing id) (other : Nat) :
    (holdReactor other world).2.InLine callbacks reported called ringing id :=
  inLine.of_same rfl rfl fun reactor found => by
    rw [← found]
    exact (Shared.value?_hold world.reactors other id).symm

theorem letGo (inLine : world.InLine callbacks reported called ringing id) :
    (releaseReactor id world).2.InLine callbacks reported called ringing id := by
  rcases gone : (Shared.letGo world.reactors id).1 with _ | reactor
  · exact inLine.of_same (kernel_releaseReactor_of_none gone) rfl
      fun reactor found => (reactor?_releaseReactor found).1
  · refine inLine.of_none rfl (Option.eq_none_iff_forall_ne_some.mpr fun reactor found => ?_)
    exact (reactor?_releaseReactor found).2 (by rw [gone]; rfl) rfl

end InLine

variable {callbacks : Script σ → Prop} {reported : EventLoop (Handler σ)}
  {called : List (Descriptor × Alarm)} {ringing : Option TimerHandle}

theorem inLine_schedule (delay : Span) {callback : Script σ} (good : callbacks callback) :
    Abides (InTurn id) (InLine callbacks reported called ringing id)
      (Dispatch.schedule id delay false callback) := by
  intro world inLine
  rcases found : world.reactor? id with _ | reactor
  · rw [Dispatch.schedule_of_none found]
    exact .raised inLine
  · rcases ended : Reactor.schedule (fun timer => .timer timer false callback) delay false
      (world.kernel, reactor) with ⟨error | timer, state⟩
    · rw [Dispatch.schedule_of_error found ended]
      exact .raised (inLine.settled found fun dues lineup => lineup.unstarted ended)
    · rw [Dispatch.schedule_of_ok found ended]
      refine .returned fun direct => ?_
      have present : (Dispatch.announced world id timer false delay state).reactor? id =
          some state.2 := by
        change (world.settled id state).reactor? id = some state.2
        rw [reactor?_settled found, if_pos rfl]
      have journal : (Dispatch.announced world id timer false delay state).journal.toList =
          world.journal.toList ++ [.scheduled id timer false (state.1.opening? timer.fd)] ++
            [.armed id timer false world.kernel.now delay] := by
        rw [Dispatch.announced, journal_tell, journal_tell]
        rfl
      rw [journal] at direct ⊢
      rcases inLine (direct.earlier fun _ member => List.mem_append_left _
        (List.mem_append_left _ member)) with ⟨lawful, lines⟩
      rcases lines reactor found with ⟨dues, lineup⟩
      have aside : (Event.scheduled id timer false (state.1.opening? timer.fd)).IsAside id := trivial
      have announced := lineup.told aside
      have lawful' := lawful.concat (inTurn_of_aside aside _)
      rcases announced.started lawful' good ended with ⟨fd, rfl, lineup'⟩
      refine ⟨lawful'.concat (announced.inTurn_armed fd _ delay), fun later found' => ?_⟩
      rw [present] at found'
      rw [← Option.some.inj found']
      exact ⟨_, lineup'⟩

theorem inLine_plan (fault : PlannedFault) :
    Abides (InTurn id) (InLine callbacks reported called ringing id)
      (Script.answer (.plan fault) : Action σ Unit) := by
  intro world inLine
  refine .returned (inLine.passed (still_of_opened rfl rfl (Nat.le_refl _)) fun list dues lined => ?_)
  exact lined.of_opened rfl (Nat.le_refl _) (Nat.le_refl _)

/-- What scripts do between two turns of the loop. -/
theorem composed_inLine :
    Composed id (InTurn id) (InLine (σ := σ) callbacks reported called ringing id) where
  ticks world inLine := by
    unfold tick
    split
    · exact .returned inLine
    · exact .stopped inLine.inTurn
    · exact .returned (inLine.of_same rfl rfl fun _ found => found)
  stores memory world inLine := .returned (inLine.of_same rfl rfl fun _ found => found)
  defines name body world inLine := .returned (inLine.of_same rfl rfl fun _ found => found)
  answers request calm := by
    intro world inLine
    cases calm with
    | @elsewhere _ part concerns other =>
        have changes := Script.answer_changes request part concerns world
        exact .returned (inLine.changes other changes)
    | now | armed | listens | registered | timers => exact .returned inLine
    | advance nanos =>
        exact .returned (inLine.passed (still_advance _ nanos) fun list dues lined =>
          lined.advance nanos)
    | setHook other hook => exact .returned (inLine.setHook other hook)
    | cancel timer =>
        have cancelled := inLine.cancel timer
        rw [← result_world] at cancelled
        exact .returned cancelled

end World

end ScriptHost
