import ScriptHost.Proofs.Loop.Steps

/-!
# Handlers that are being run

A loop keeps the handlers that are being run, innermost first.  Nothing but the turn of an
event changes them: a turn adds one that is not among them, and takes it off again when it
comes back.  So no handler is ever run inside itself, and a handler, however deep the polls
that it starts, leaves behind the ones that were being run when it was invoked.
-/

namespace ScriptHost

open World Kernel

variable {σ η α : Type}

/-! ## Calls on reactors -/

theorem EventLoop.running_add (fd : Descriptor) (interest : Interest) (handler : η)
    (kernel : Kernel) (loop : EventLoop η) :
    (add fd interest handler (kernel, loop)).2.2.running = loop.running := by
  rcases ended : loop.poller.register fd (loop.nextFor kernel fd handler).token interest kernel with
    ⟨cause | _, after⟩
  · rw [add_of_error ended]
    rfl
  · rw [add_of_ok ended]
    rfl

namespace Reactor

/-- The same handlers are being run. -/
def RunsOn (before after : Kernel × Reactor η) : Prop :=
  after.2.loop.running = before.2.loop.running

instance : IsPreorder (Kernel × Reactor η) RunsOn where
  refl _ := rfl
  trans _ _ _ first second := Eq.trans second first

theorem runsOn_onLoop {call : LoopCall η α}
    (same : ∀ kernel loop, (call (kernel, loop)).2.2.running = loop.running) :
    Keeps RunsOn (onLoop call) :=
  fun state => same state.1 state.2.loop

theorem runsOn_add (fd : Descriptor) (interest : Interest) (handler : η) :
    Keeps RunsOn (onLoop (EventLoop.add fd interest handler)) :=
  runsOn_onLoop (EventLoop.running_add fd interest handler)

theorem runsOn_modify (fd : Descriptor) (interest : Interest) :
    Keeps RunsOn (onLoop (EventLoop.modify fd interest) : ReactorCall η Unit) := by
  refine runsOn_onLoop fun kernel loop => ?_
  rw [EventLoop.modify_world]

theorem runsOn_remove (fd : Descriptor) :
    Keeps RunsOn (onLoop (EventLoop.remove fd) : ReactorCall η Bool) :=
  runsOn_onLoop fun kernel loop => (remove_loop fd fd kernel loop).2

theorem runsOn_below (call : SystemCall α) : Keeps RunsOn (below call : ReactorCall η α) := by
  rintro ⟨kernel, reactor⟩
  rcases ended : call kernel with ⟨cause | value, after⟩
  · rw [below_of_error ended]
    rfl
  · rw [below_of_ok ended]
    rfl

theorem runsOn_changeTimers (f : Timers → Timers) : Keeps RunsOn (changeTimers f : ReactorCall η Unit) :=
  fun _ => rfl

theorem runsOn_closeDescriptor (fd : Descriptor) :
    Keeps RunsOn (closeDescriptor fd : ReactorCall η Unit) :=
  fun _ => rfl

theorem runsOn_afterwards {call : ReactorCall η α} {after : Except Error α → ReactorCall η Unit}
    (first : Keeps RunsOn call) (rest : ∀ answer, Keeps RunsOn (after answer)) :
    Keeps RunsOn (afterwards call after) := by
  intro state
  have both := trans_of RunsOn (first state) (rest (call state).1 (call state).2)
  unfold afterwards
  split
  next ended =>
      rw [ended] at both
      split
      next ended' => rw [ended'] at both; exact both
      next ended' => rw [ended'] at both; exact both

theorem runsOn_onFailure {call : ReactorCall η α} {undo : ReactorCall η Unit}
    (first : Keeps RunsOn call) (rest : Keeps RunsOn undo) : Keeps RunsOn (onFailure call undo) := by
  refine runsOn_afterwards first fun answer => ?_
  cases answer with
  | ok value => exact .pure ()
  | error cause => exact rest

theorem runsOn_schedule (handlerFor : TimerHandle → η) (delay : Span) (isRepeating : Bool) :
    Keeps RunsOn (schedule handlerFor delay isRepeating) := by
  refine (runsOn_below _).bind fun fd => ?_
  refine (runsOn_onFailure (runsOn_below _) (runsOn_closeDescriptor fd)).bind fun _ => ?_
  refine Keeps.get.bind fun _ => (runsOn_changeTimers _).bind fun _ => ?_
  refine (runsOn_onFailure (runsOn_add _ _ _) ?_).bind fun _ => .pure _
  exact (runsOn_changeTimers _).bind fun _ => runsOn_closeDescriptor fd

theorem runsOn_release (timer : TimerHandle) :
    Keeps RunsOn (release timer : ReactorCall η Bool) := by
  have removed : Keeps RunsOn (do let _ ← onLoop (EventLoop.remove timer.fd) :
      ReactorCall η Unit) :=
    (runsOn_remove timer.fd).bind fun _ => .pure ()
  refine Keeps.get.bind fun _ => Keeps.ite ?_ (.pure false)
  exact (runsOn_changeTimers _).bind fun _ =>
    (runsOn_afterwards removed fun _ => runsOn_closeDescriptor timer.fd).bind fun _ => .pure true

theorem runsOn_settle (timer : TimerHandle) (isRepeating : Bool) (outcome : Except Error Unit) :
    Keeps RunsOn (settle timer isRepeating outcome : ReactorCall η Unit) := by
  rintro ⟨kernel, reactor⟩
  rw [settle_world]
  cases isRepeating with
  | true => rfl
  | false => exact runsOn_release timer ((Streams.read timer.fd 8 kernel).2, reactor)

end Reactor

/-! ## Worlds -/

namespace World

/-- The loops that are there were there before and run the same handlers, unless they are new
and run none. -/
structure RunsOn (before after : World σ) : Prop where
  fresh : before.fresh ≤ after.fresh
  loops : ∀ id later, after.loop? id = some later →
    (∃ loop, before.loop? id = some loop ∧ later.running = loop.running) ∨
      before.fresh ≤ id ∧ later.running = []

instance : IsPreorder (World σ) RunsOn where
  refl _ := ⟨Nat.le_refl _, fun _ later found => .inl ⟨later, found, rfl⟩⟩
  trans _ _ _ first second := by
    refine ⟨Nat.le_trans first.fresh second.fresh, fun id later found => ?_⟩
    rcases second.loops id later found with ⟨middle, found', same'⟩ | ⟨new, none_run⟩
    · rcases first.loops id middle found' with ⟨loop, found'', same⟩ | ⟨new, none_run⟩
      · exact .inl ⟨loop, found'', same'.trans same⟩
      · exact .inr ⟨new, same'.trans none_run⟩
    · exact .inr ⟨Nat.le_trans first.fresh new, none_run⟩

theorem runsOn_of_loops {before after : World σ} (fresh : before.fresh ≤ after.fresh)
    (same : ∀ id, after.loop? id = before.loop? id) : RunsOn before after := by
  refine ⟨fresh, fun id later found => .inl ⟨later, ?_, rfl⟩⟩
  rw [← same id]
  exact found

theorem runsOn_of_changes {part : Part} (other : part ≠ .loops) (before after : World σ)
    (changes : Changes part before after) : RunsOn before after := by
  refine runsOn_of_loops changes.fresh fun id => ?_
  rw [loop?, loop?, reactor?, reactor?, (changes.loops other).2]

theorem runsOn_tell (event : Event) : Keeps RunsOn (tell event : Action σ Unit) :=
  fun _ => runsOn_of_loops (Nat.le_refl _) fun _ => rfl

theorem runsOn_settled {world : World σ} {id : Nat} {reactor : Reactor (Handler σ)}
    {state : Kernel × Reactor (Handler σ)} (found : world.reactor? id = some reactor)
    (same : state.2.loop.running = reactor.loop.running) : RunsOn world (world.settled id state) := by
  refine ⟨Nat.le_refl _, fun other later there => .inl ?_⟩
  rw [loop?, reactor?_settled found] at there
  by_cases here : id = other
  · subst here
    rw [if_pos rfl] at there
    cases there
    exact ⟨reactor.loop, by rw [loop?, found]; rfl, same⟩
  · rw [if_neg here] at there
    exact ⟨later, there, rfl⟩

theorem runsOn_onReactor (id : Nat) {call : ReactorCall (Handler σ) α}
    (keeps : Keeps Reactor.RunsOn call) : Keeps RunsOn (onReactor id call) := by
  intro world
  rcases onReactor_outcome id call world with same | ⟨reactor, found, same⟩ <;> rw [same]
  · exact refl_of RunsOn world
  · exact runsOn_settled found (keeps (world.kernel, reactor))

theorem runsOn_changeLoop (id : Nat) {f : EventLoop (Handler σ) → EventLoop (Handler σ)}
    (same : ∀ loop, (f loop).running = loop.running) : Keeps RunsOn (changeLoop id f) := by
  intro world
  rcases changeLoop_outcome id f world with alone | ⟨reactor, found, settled⟩
  · rw [alone]
    exact refl_of RunsOn world
  · rw [settled]
    exact runsOn_settled found (same reactor.loop)

theorem runsOn_holdReactor (id : Nat) : Keeps RunsOn (holdReactor id : Action σ Unit) :=
  fun world => runsOn_of_loops (Nat.le_refl _) (loop?_holdReactor world id)

theorem runsOn_releaseReactor (id : Nat) : Keeps RunsOn (releaseReactor id : Action σ Unit) := by
  refine fun world => ⟨Nat.le_refl _, fun other later found => .inl ?_⟩
  rcases Option.map_eq_some_iff.mp found with ⟨reactor, there, rfl⟩
  exact ⟨reactor.loop, by rw [loop?, (reactor?_releaseReactor there).1]; rfl, rfl⟩

theorem runsOn_newReactor (capacity : Nat) :
    Keeps RunsOn (newReactor capacity : Action σ Nat) := by
  intro world
  rcases newReactor_outcome capacity world with
    ⟨kernel, -, same⟩ | ⟨kernel, fd, -, -, same⟩ <;> rw [same]
  · exact runsOn_of_loops (Nat.le_refl _) fun _ => rfl
  · refine ⟨Nat.le_succ _, fun id later found => ?_⟩
    rw [loop?, reactor?_joined] at found
    split at found
    next new =>
        cases found
        exact .inr ⟨Nat.le_of_eq new, rfl⟩
    next => exact .inl ⟨later, found, rfl⟩

/-! ## Moves -/

theorem runsOn_schedule (id : Nat) (delay : Span) (isRepeating : Bool) (callback : Script σ) :
    Keeps RunsOn (Dispatch.schedule id delay isRepeating callback) := by
  refine Keeps.get.bind fun _ => ?_
  refine (runsOn_onReactor id (Reactor.runsOn_schedule _ delay isRepeating)).bind fun timer => ?_
  exact Keeps.get.bind fun _ => (runsOn_tell _).bind fun _ => (runsOn_tell _).bind fun _ =>
    .pure timer

/-- No move changes which handlers are being run. -/
theorem Move.runsOn {before after : World σ} (move : Move before after) : RunsOn before after := by
  cases move with
  | elsewhere other changes => exact runsOn_of_changes other before after changes
  | tells event => exact runsOn_tell event before
  | calls => exact runsOn_of_loops (Nat.le_refl _) fun _ => rfl
  | comes capacity => exact runsOn_newReactor capacity before
  | holds id => exact runsOn_holdReactor id before
  | letsGo id => exact runsOn_releaseReactor id before
  | hooks id hook =>
      exact runsOn_changeLoop id (f := fun loop => { loop with hook }) (fun _ => rfl) before
  | listens id fd interest body =>
      exact runsOn_onReactor id (Reactor.runsOn_add fd interest (Handler.script body)) before
  | modifies id fd interest => exact runsOn_onReactor id (Reactor.runsOn_modify fd interest) before
  | removes id fd => exact runsOn_onReactor id (Reactor.runsOn_remove fd) before
  | releases id timer => exact runsOn_onReactor id (Reactor.runsOn_release timer) before
  | settles id timer isRepeating outcome =>
      exact runsOn_onReactor id (Reactor.runsOn_settle timer isRepeating outcome) before
  | schedules id delay isRepeating callback =>
      exact runsOn_schedule id delay isRepeating callback before

theorem runsOn_of_moves (before after : World σ) (moves : Moves before after) :
    RunsOn before after := by
  induction moves with
  | refl => exact refl_of RunsOn before
  | tail _ move ih => exact trans_of RunsOn ih move.runsOn

end World

/-! ## Handlers inside handlers -/

namespace World

/-- No loop runs a handler inside itself. -/
def RunsOnce (world : World σ) : Prop :=
  ∀ id loop, world.loop? id = some loop → loop.running.Nodup

/-- If no loop ran a handler inside itself, none does. -/
def StaysOnce (before after : World σ) : Prop :=
  before.RunsOnce → after.RunsOnce

instance : IsPreorder (World σ) StaysOnce where
  refl _ := id
  trans _ _ _ first second := second ∘ first

theorem staysOnce_of_runsOn (before after : World σ) (runsOn : RunsOn before after) :
    StaysOnce before after := by
  intro once id later found
  rcases runsOn.loops id later found with ⟨loop, found', same⟩ | ⟨-, none_run⟩
  · rw [same]
    exact once id loop found'
  · rw [none_run]
    exact List.nodup_nil

theorem loop?_changeLoop (world : World σ) (id other : Nat)
    (f : EventLoop (Handler σ) → EventLoop (Handler σ)) :
    (changeLoop id f world).2.loop? other =
      if id = other then (world.loop? other).map f else world.loop? other := by
  have view : (changeLoop id f world).2.reactor? other = _ :=
    reactor?_modify world id other fun reactor => { reactor with loop := f reactor.loop }
  rw [loop?, loop?, view]
  split
  · rw [Option.map_map, Option.map_map]
    rfl
  · rfl

theorem staysOnce_changeLoop (id : Nat) {f : EventLoop (Handler σ) → EventLoop (Handler σ)}
    {world : World σ} (kept : ∀ loop, world.loop? id = some loop → loop.running.Nodup →
      (f loop).running.Nodup) : StaysOnce world (changeLoop id f world).2 := by
  intro once other later found
  rw [loop?_changeLoop] at found
  split at found
  next same =>
      subst same
      rcases Option.map_eq_some_iff.mp found with ⟨loop, present, rfl⟩
      exact kept loop present (once id loop present)
  next => exact once other later found

end World

namespace Dispatch

variable {id : Nat} {report : Report}

theorem staysOnce_begun {world : World σ} {registration : Registration (Handler σ)}
    (due : Due world id report.event registration) :
    StaysOnce world (begun world id report registration) := by
  refine trans_of StaysOnce (staysOnce_changeLoop id fun loop present once => ?_)
    (staysOnce_of_runsOn _ _ (runsOn_tell _ _))
  rcases due.inForce with ⟨loop', present', -, absent⟩
  rw [← Option.some.inj (present.symm.trans present')] at absent
  exact List.nodup_cons.mpr ⟨absent, once⟩

theorem staysOnce_idle {world returned : World σ} {registration : Registration (Handler σ)}
    (due : Due world id report.event registration)
    (handled : StaysOnce (begun world id report registration) returned) :
    StaysOnce world (changeLoop id (idle registration.serial) returned).2 := by
  refine trans_of StaysOnce (trans_of StaysOnce (staysOnce_begun due) handled) ?_
  exact staysOnce_changeLoop id fun loop _ once => once.erase registration.serial

end Dispatch

/-! ## Handlers that are being waited for -/

namespace World

/-- The loops that were there before still run the handlers that they ran, below others, as far
as they are still there. -/
structure Deepens (before after : World σ) : Prop where
  fresh : before.fresh ≤ after.fresh
  loops : ∀ id later, id < before.fresh → after.loop? id = some later →
    ∃ loop, before.loop? id = some loop ∧ loop.running <:+ later.running

/-- They run the same handlers and no others. -/
structure Restores (before after : World σ) : Prop where
  fresh : before.fresh ≤ after.fresh
  loops : ∀ id later, id < before.fresh → after.loop? id = some later →
    ∃ loop, before.loop? id = some loop ∧ later.running = loop.running

instance : IsPreorder (World σ) Deepens where
  refl _ := ⟨Nat.le_refl _, fun _ later _ found => ⟨later, found, List.suffix_rfl⟩⟩
  trans _ _ _ first second := by
    refine ⟨Nat.le_trans first.fresh second.fresh, fun id later old found => ?_⟩
    rcases second.loops id later (Nat.lt_of_lt_of_le old first.fresh) found with
      ⟨middle, found', below'⟩
    rcases first.loops id middle old found' with ⟨loop, found'', below⟩
    exact ⟨loop, found'', below.trans below'⟩

instance : IsPreorder (World σ) Restores where
  refl _ := ⟨Nat.le_refl _, fun _ later _ found => ⟨later, found, rfl⟩⟩
  trans _ _ _ first second := by
    refine ⟨Nat.le_trans first.fresh second.fresh, fun id later old found => ?_⟩
    rcases second.loops id later (Nat.lt_of_lt_of_le old first.fresh) found with
      ⟨middle, found', same'⟩
    rcases first.loops id middle old found' with ⟨loop, found'', same⟩
    exact ⟨loop, found'', same'.trans same⟩

theorem restores_of_runsOn (before after : World σ) (runsOn : RunsOn before after) :
    Restores before after := by
  refine ⟨runsOn.fresh, fun id later old found => ?_⟩
  rcases runsOn.loops id later found with kept | ⟨new, -⟩
  · exact kept
  · exact absurd old (Nat.not_lt_of_le new)

theorem deepens_of_runsOn (before after : World σ) (runsOn : RunsOn before after) :
    Deepens before after := by
  have restores := restores_of_runsOn before after runsOn
  refine ⟨restores.fresh, fun id later old found => ?_⟩
  rcases restores.loops id later old found with ⟨loop, found', same⟩
  exact ⟨loop, found', same ▸ List.suffix_rfl⟩

end World

namespace Dispatch

variable {id : Nat} {report : Report}

theorem suffix_erase_of_cons {α : Type} [DecidableEq α] {head : α} {below above : List α}
    (suffix : head :: below <:+ above) : below <:+ above.erase head := by
  rcases suffix with ⟨others, rfl⟩
  by_cases among : head ∈ others
  · rw [List.erase_append_left _ among]
    exact (List.suffix_cons head below).trans (List.suffix_append _ _)
  · rw [List.erase_append_right _ among, List.erase_cons_head]
    exact List.suffix_append _ _

theorem loop?_begun (world : World σ) (id other : Nat) (report : Report)
    (registration : Registration (Handler σ)) :
    (begun world id report registration).loop? other =
      if id = other then (world.loop? other).map (busy registration.serial)
      else world.loop? other :=
  loop?_changeLoop world id other (busy registration.serial)

theorem deepens_begun (world : World σ) (registration : Registration (Handler σ)) :
    Deepens world (begun world id report registration) := by
  refine ⟨Nat.le_refl _, fun other later _ found => ?_⟩
  rw [loop?_begun] at found
  split at found
  next =>
      rcases Option.map_eq_some_iff.mp found with ⟨loop, present, rfl⟩
      exact ⟨loop, present, List.suffix_cons _ _⟩
  next => exact ⟨later, found, List.suffix_rfl⟩

/-- What a turn adds to the handlers that are being run it takes off again. -/
theorem restores_idle {world returned : World σ} {registration : Registration (Handler σ)}
    (handled : Restores (begun world id report registration) returned) :
    Restores world (changeLoop id (idle registration.serial) returned).2 := by
  refine ⟨handled.fresh, fun other later old found => ?_⟩
  rw [loop?_changeLoop] at found
  split at found
  next same =>
      subst same
      rcases Option.map_eq_some_iff.mp found with ⟨middle, present, rfl⟩
      rcases handled.loops id middle old present with ⟨loop, before, same⟩
      rw [loop?_begun, if_pos rfl] at before
      rcases Option.map_eq_some_iff.mp before with ⟨first, there, rfl⟩
      refine ⟨first, there, ?_⟩
      change middle.running.erase registration.serial = first.running
      rw [same]
      exact List.erase_cons_head registration.serial first.running
  next different =>
      rcases handled.loops other later old found with ⟨loop, before, same⟩
      rw [loop?_begun, if_neg different] at before
      exact ⟨loop, before, same⟩

theorem deepens_idle {world returned : World σ} {registration : Registration (Handler σ)}
    (handled : Deepens (begun world id report registration) returned) :
    Deepens world (changeLoop id (idle registration.serial) returned).2 := by
  refine ⟨handled.fresh, fun other later old found => ?_⟩
  rw [loop?_changeLoop] at found
  split at found
  next same =>
      subst same
      rcases Option.map_eq_some_iff.mp found with ⟨middle, present, rfl⟩
      rcases handled.loops id middle old present with ⟨loop, before, below⟩
      rw [loop?_begun, if_pos rfl] at before
      rcases Option.map_eq_some_iff.mp before with ⟨first, there, rfl⟩
      exact ⟨first, there, suffix_erase_of_cons below⟩
  next different =>
      rcases handled.loops other later old found with ⟨loop, before, below⟩
      rw [loop?_begun, if_neg different] at before
      exact ⟨loop, before, below⟩

end Dispatch

/-! ## Runs -/

namespace World

/-- No run puts a handler inside itself. -/
theorem staysOnce_endings (engine : Engine σ) : Endings True engine StaysOnce :=
  Dispatch.endings_of_turns (fun _ _ moves => staysOnce_of_runsOn _ _ (runsOn_of_moves _ _ moves))
    (fun _ _ _ _ _ => Dispatch.staysOnce_begun)
    fun _ _ _ => Dispatch.staysOnce_idle

/-- Wherever a run is, the handlers that were being run when it started still are. -/
theorem deepens_endings (engine : Engine σ) : Endings True engine Deepens :=
  Dispatch.endings_of_turns (fun _ _ moves => deepens_of_runsOn _ _ (runsOn_of_moves _ _ moves))
    (fun _ _ _ world registration _ => Dispatch.deepens_begun world registration)
    fun _ _ _ _ => Dispatch.deepens_idle

/-- When it comes back, they are the only ones again. -/
theorem restores_endings (engine : Engine σ) : Endings False engine Restores :=
  Dispatch.endings_of_turns (fun _ _ moves => restores_of_runsOn _ _ (runsOn_of_moves _ _ moves))
    (fun impossible => impossible.elim)
    fun _ _ _ _ => Dispatch.restores_idle

end World

open Dispatch in
/-- A poll invokes the handlers that are due, in the order of the batch, whatever they do.
Their errors go to the hooks that are installed when they come back and nowhere else, and the
poll fails only if the wait failed, when nobody was invoked.  No handler is ever being run
twice: those that are being run are noted until they come back. -/
theorem Session.dispatch_is_exact (session : Session σ) (fuel id : Nat) (timeout : Option Span)
    {world : World σ} {loop : EventLoop (Handler σ)} (present : world.loop? id = some loop) :
    (∀ outcome after,
      attempt (poll (Script.exec session.engine fuel) id timeout) world = (.ok outcome, after) ↔
        Polled (Script.exec session.engine fuel) id timeout loop world outcome after) ∧
    (∀ error after,
      attempt (poll (Script.exec session.engine fuel) id timeout) world =
        (.ok (.error error), after) → after.journal = world.journal) ∧
    (∀ failure after,
      attempt (poll (Script.exec session.engine fuel) id timeout) world =
        (.error failure, after) →
      ∃ events kernel, loop.poller.poll timeout world.kernel = (.ok events, kernel) ∧
        CutOff (Script.exec session.engine fuel) id (events.map (Report.by loop))
          { (holdReactor id world).2 with kernel }) ∧
    (∀ steps, (session.world steps).RunsOnce) ∧
    ∀ fd ready handler before,
      Deepens before (handle (Script.exec session.engine fuel) id fd ready handler before).2 ∧
      ∀ outcome after,
        attempt (handle (Script.exec session.engine fuel) id fd ready handler) before =
          (.ok outcome, after) → Restores before after := by
  refine ⟨fun outcome after => poll_iff present, ?_, fun failure after => cutOff_of_poll present,
    ?_, ?_⟩
  · intro error after ended
    cases (poll_iff present).mp ended with
    | failed waited uninterrupted => rfl
  · intro steps
    have kept := (staysOnce_endings session.engine).exec session.fuel session.script
      { session.start with steps := some steps } fun _ => trivial
    exact kept fun id loop none_there => nomatch none_there
  · intro fd ready handler before
    have polling := moves_polling.mono (runsOn_of_moves (σ := σ))
    have deepens := (polling.mono deepens_of_runsOn).handle
      ((deepens_endings session.engine).exec fuel) id fd ready handler
    have restores := (polling.mono restores_of_runsOn).handle
      ((restores_endings session.engine).exec fuel) id fd ready handler
    refine ⟨deepens before fun _ => trivial, fun outcome after ended => ?_⟩
    have restored := restores.attempt before
    rw [ended] at restored
    exact restored nofun

/-- A loop with a handler for a pipe that can be read.  The handler polls the loop itself, puts
another hook in place and fails. -/
def listening : Session Unit where
  engine := ⟨fun _ _ => .ok fun _ => .done .null, fun _ _ => .done .null, fun _ _ => .done .null⟩
  script :=
    .ask (.newReactor 8) fun _ => .ask .pipe fun ends => .ask (.write ends.2 [0]) fun _ =>
      .listen 0 ends.1 .readable
        (fun _ _ => .poll 0 (some .zero) fun _ => .ask (.setHook 0 (.listener 7)) fun _ =>
          .fail (.config "failed"))
        fun _ => .done .null
  fuel := 3
  input := []
  waitLimit := none
  offers := []
  disk := .empty
  environment := .empty
  memory := ()

/-- A poll of that loop. -/
def listeningPolled : Except Failure (Except Error Nat) × World Unit :=
  attempt (Dispatch.poll (Script.exec listening.engine 3) 0 (some .zero))
    { listening.world 9 with steps := none }

/-- It invokes the handler once, although the handler finds the pipe readable again, and its
error goes to the hook that the handler has put in place. -/
theorem listening_dispatches :
    ∃ loop, ({ listening.world 9 with steps := none } : World Unit).loop? 0 = some loop ∧
      Dispatch.Polled (Script.exec listening.engine 3) 0 (some .zero) loop
        { listening.world 9 with steps := none } (.ok 1) listeningPolled.2 ∧
      listeningPolled.2.journal.toList = [.handling ⟨0, 0, some 0, some 0, 1, 4294967300, 0⟩,
        .uncaught 7 (.config "failed")] := by
  have there : ({ listening.world 9 with steps := none } : World Unit).loop? 0 |>.isSome := by
    decide +kernel
  rcases Option.isSome_iff_exists.mp there with ⟨loop, present⟩
  have counted : listeningPolled.1 = .ok (.ok 1) := by decide +kernel
  have ended : listeningPolled = (.ok (.ok 1), listeningPolled.2) := by rw [← counted]
  have exact := Session.dispatch_is_exact listening 3 0 (some .zero) present
  exact ⟨loop, present, (exact.1 (.ok 1) listeningPolled.2).mp ended, by decide +kernel⟩

end ScriptHost
