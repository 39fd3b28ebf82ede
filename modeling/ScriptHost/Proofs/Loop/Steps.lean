import ScriptHost.Proofs.Loop.Moves

/-!
# What runs are made of

However scripts start each other, a run consists of moves and of the starts and ends of
handlers.  Every world that a run passes is reached by such steps, so what each of them
keeps holds of every moment of every session.

No step makes a timer but the start of one that succeeds, and the numbers of timers and of
reactors are never given again.
-/

namespace ScriptHost

open World Kernel

variable {σ α : Type}

/-! ## Turns -/

namespace Dispatch

/-- The relation between the start and the end of a turn, from the start of its handler and
from the end of one that came back. -/
theorem ends_deliver_of {R : World σ → World σ → Prop} [IsPreorder (World σ) R] {cut : Prop}
    {run : Script σ → Action σ Value} {id : Nat} {report : Report} (polling : Polling R)
    (ran : ∀ script, Ends cut R (run script))
    (begins : cut → ∀ world registration, Due world id report.event registration →
      R world (begun world id report registration))
    (finishes : ∀ world registration returned, Due world id report.event registration →
      R (begun world id report registration) returned →
        R world (changeLoop id (idle registration.serial) returned).2) :
    Ends cut R (deliver run id report) := by
  intro world counts
  cases found : (world.loop? id).bind fun loop => loop.addressee? report.event with
  | none =>
      rw [deliver_of_none found]
      exact refl_of R world
  | some registration =>
      have due := due_iff.mp found
      have handled := (polling.handle ran id (Token.descriptor report.event.token)
        report.event.ready registration.handler).attempt (begun world id report registration)
      rw [deliver_of_due due] at counts ⊢
      rcases ended : attempt (handle run id (Token.descriptor report.event.token)
        report.event.ready registration.handler) (begun world id report registration) with
        ⟨failure | outcome, returned⟩ <;> rw [ended] at handled
      · rw [bind_of_error ended] at counts ⊢
        cases (attempt_eq_error_iff.mp ended).1
        have cuts := counts rfl
        exact trans_of R (begins cuts world registration due) (handled fun _ => cuts)
      · rw [bind_of_ok ended, changeLoop_bind_eq]
        refine trans_of R (finishes world registration returned due (handled nofun)) ?_
        cases outcome with
        | ok value => exact refl_of R _
        | error error => exact ((polling.report id error).bind fun _ => Keeps.pure true) _

/-- What holds of all runs, if it holds of the calls that run no script, between the start of a
turn and that of its handler, and at the end of a turn whose handler came back. -/
theorem endings_of_polling {R : World σ → World σ → Prop} [IsPreorder (World σ) R] {cut : Prop}
    {engine : Engine σ} (base : Base R) (polling : Polling R)
    (elsewhere : ∀ before after, Changes .modules before after → R before after)
    (begins : cut → ∀ {id report} world registration, Due world id report.event registration →
      R world (begun world id report registration))
    (finishes : ∀ {id report} world registration returned,
      Due world id report.event registration → R (begun world id report registration) returned →
        R world (changeLoop id (idle registration.serial) returned).2) :
    Endings cut engine R := by
  have delivers {run : Script σ → Action σ Value} (ran : ∀ script, Ends cut R (run script)) (id : Nat)
      (report : Report) : Ends cut R (deliver run id report) :=
    ends_deliver_of polling ran (fun cuts => begins cuts) finishes
  exact
    { toBase := base
      require := fun _ ran => Modules.ends_require elsewhere ran
      requireNative := fun _ ran => Modules.ends_requireNative elsewhere ran
      poll := fun _ ran => polling.poll (delivers ran)
      drive := fun _ ran => polling.drive (delivers ran) }

/-- What holds of all runs, if it holds of moves and of turns. -/
theorem endings_of_turns {R : World σ → World σ → Prop} [IsPreorder (World σ) R] {cut : Prop}
    {engine : Engine σ} (weaker : ∀ before after, Moves before after → R before after)
    (begins : cut → ∀ {id report} world registration, Due world id report.event registration →
      R world (begun world id report registration))
    (finishes : ∀ {id report} world registration returned,
      Due world id report.event registration → R (begun world id report registration) returned →
        R world (changeLoop id (idle registration.serial) returned).2) :
    Endings cut engine R :=
  endings_of_polling (moves_base.mono weaker) (moves_polling.mono weaker)
    (fun _ _ changes => weaker _ _ (Move.elsewhere (by decide) changes).moves) begins finishes

end Dispatch

/-! ## Runs -/

namespace World

/-- A move, or the start or the end of a handler. -/
inductive Step : World σ → World σ → Prop where
  /-- A move. -/
  | moves {before after : World σ} (move : Move before after) : Step before after
  /-- The handler of a registration is started for an event. -/
  | begins {id : Nat} {report : Dispatch.Report} {world : World σ}
      {registration : Registration (Handler σ)}
      (due : Dispatch.Due world id report.event registration) :
      Step world (Dispatch.begun world id report registration)
  /-- The handler of a registration has come back. -/
  | finishes (id serial : Nat) (world : World σ) :
      Step world (changeLoop id (Dispatch.idle serial) world).2

/-- A world comes about from another by steps. -/
def Reaches : World σ → World σ → Prop := Relation.ReflTransGen Step

instance : IsPreorder (World σ) Reaches where
  refl _ := Relation.ReflTransGen.refl
  trans _ _ _ := Relation.ReflTransGen.trans

theorem Moves.reaches {before after : World σ} (moves : Moves before after) :
    Reaches before after :=
  Relation.ReflTransGen.mono (fun _ _ => Step.moves) _ _ moves

/-- All that runs do are steps. -/
theorem reaches_endings (engine : Engine σ) : Endings True engine Reaches := by
  refine Dispatch.endings_of_turns (fun _ _ => Moves.reaches) (fun _ _ _ world registration due => ?_)
    fun world registration returned due handled => ?_
  · exact Relation.ReflTransGen.single (Step.begins due)
  · exact Relation.ReflTransGen.tail
      (Relation.ReflTransGen.trans (Relation.ReflTransGen.single (Step.begins due)) handled)
      (Step.finishes _ _ returned)

end World

/-- Every moment of a session is reached from its start. -/
theorem Session.reaches (session : Session σ) (steps : Nat) :
    Reaches { session.start with steps := some steps } (session.world steps) :=
  (reaches_endings session.engine).exec session.fuel session.script _ fun _ => trivial

/-! ## What steps retain -/

namespace World

/-- A later world with no timer that was not there before. -/
structure Retains (before after : World σ) : Prop where
  fresh : before.fresh ≤ after.fresh
  recalls : Recalls before after
  inherits : Inherits before.kernel after.kernel
  reactors : ∀ id later, after.reactor? id = some later →
    (∃ reactor, before.reactor? id = some reactor ∧ reactor.Retains later) ∨
      before.fresh ≤ id ∧ id < after.fresh ∧ ∃ poller, (Reactor.blank poller).Retains later

instance : IsPreorder (World σ) Retains where
  refl world := ⟨Nat.le_refl _, List.prefix_rfl, refl_of Inherits world.kernel,
    fun _ later found => .inl ⟨later, found, refl_of Reactor.Retains later⟩⟩
  trans _ _ _ first second := by
    refine ⟨Nat.le_trans first.fresh second.fresh, trans_of Recalls first.recalls second.recalls,
      trans_of Inherits first.inherits second.inherits, fun id later found => ?_⟩
    rcases second.reactors id later found with ⟨middle, there, retains'⟩ | ⟨new, old, blank⟩
    · rcases first.reactors id middle there with ⟨reactor, there', retains⟩ | ⟨new, old, poller, retains⟩
      · exact .inl ⟨reactor, there', trans_of Reactor.Retains retains retains'⟩
      · exact .inr ⟨new, Nat.lt_of_lt_of_le old second.fresh, poller,
          trans_of Reactor.Retains retains retains'⟩
    · exact .inr ⟨Nat.le_trans first.fresh new, old, blank⟩

variable {before after : World σ}

theorem retains_of_same (fresh : before.fresh ≤ after.fresh) (recalls : Recalls before after)
    (inherits : Inherits before.kernel after.kernel)
    (same : ∀ id, after.reactor? id = before.reactor? id) : Retains before after := by
  refine ⟨fresh, recalls, inherits, fun id later found => .inl ⟨later, ?_, refl_of Reactor.Retains later⟩⟩
  rw [← same]
  exact found

theorem retains_settled {world : World σ} {id : Nat} {reactor : Reactor (Handler σ)}
    {state : Kernel × Reactor (Handler σ)} (found : world.reactor? id = some reactor)
    (leaves : Reactor.Leaves (world.kernel, reactor) state) :
    Retains world (world.settled id state) := by
  refine ⟨Nat.le_refl _, List.prefix_rfl, leaves.inherits, fun other later there => .inl ?_⟩
  rw [reactor?_settled found] at there
  split at there
  next same =>
      subst same
      cases there
      exact ⟨reactor, found, leaves.retains⟩
  next => exact ⟨later, there, refl_of Reactor.Retains later⟩

theorem retains_onReactor (id : Nat) {call : ReactorCall (Handler σ) α}
    (leaves : Keeps Reactor.Leaves call) : Keeps Retains (onReactor id call) := by
  intro world
  rcases onReactor_outcome id call world with same | ⟨reactor, found, same⟩ <;> rw [same]
  · exact refl_of Retains world
  · exact retains_settled found (leaves (world.kernel, reactor))

theorem retains_changeLoop (id : Nat) (f : EventLoop (Handler σ) → EventLoop (Handler σ))
    (same : ∀ loop, (f loop).registrations = loop.registrations) :
    Keeps Retains (changeLoop id f) := by
  intro world
  rcases changeLoop_outcome id f world with alone | ⟨reactor, found, settled⟩
  · rw [alone]
    exact refl_of Retains world
  · rw [settled]
    exact retains_settled found ⟨refl_of Inherits _, Reactor.retains_of_registrations (same _)⟩

theorem retains_tell (event : Event) : Keeps Retains (tell event : Action σ Unit) :=
  fun world => retains_of_same (Nat.le_refl _) ⟨[event], (journal_tell event world).symm⟩
    (refl_of Inherits _) fun _ => rfl

theorem retains_releaseReactor (id : Nat) :
    Keeps Retains (releaseReactor id : Action σ Unit) := by
  intro world
  refine ⟨Nat.le_refl _, List.prefix_rfl, ?_, fun other later found => .inl ?_⟩
  · cases gone : (Shared.letGo world.reactors id).1 with
    | none =>
        rw [kernel_releaseReactor_of_none gone]
        exact refl_of Inherits world.kernel
    | some reactor =>
        rw [kernel_releaseReactor_of_some gone]
        exact trans_of Inherits (inherits_close _ _) (inherits_closeAll _ _)
  · exact ⟨later, (reactor?_releaseReactor found).1, refl_of Reactor.Retains later⟩

theorem retains_newReactor (capacity : Nat) :
    Keeps Retains (newReactor capacity : Action σ Nat) := by
  intro world
  rcases newReactor_outcome capacity world with
    ⟨kernel, still, same⟩ | ⟨kernel, fd, opens, watches, same⟩ <;> rw [same]
  · exact retains_of_same (Nat.le_refl _) List.prefix_rfl still.inherits fun _ => rfl
  · refine ⟨Nat.le_succ _, List.prefix_rfl, fun other opening timed => ?_, fun id later found => ?_⟩
    · refine Reactor.isTimer_of_opens opens ?_ timed
      rintro rfl
      rcases watches with ⟨_, _, listed, _⟩
      cases listed.symm.trans timed
    · rw [reactor?_joined] at found
      split at found
      next new =>
          cases found
          exact .inr ⟨Nat.le_of_eq new, Nat.lt_succ_of_le (Nat.le_of_eq new.symm), _,
            refl_of Reactor.Retains _⟩
      next => exact .inl ⟨later, found, refl_of Reactor.Retains later⟩

/-- A move makes no timer, unless it starts one and succeeds. -/
theorem Move.retains_or_starts (move : Move before after) :
    Retains before after ∨ ∃ id delay isRepeating callback timer,
      Dispatch.schedule id delay isRepeating callback before = (.ok timer, after) := by
  cases move with
  | elsewhere other changes =>
      rcases changes.loops other with ⟨kernel, reactors⟩
      refine .inl (retains_of_same changes.fresh (recalls_of_changes _ _ changes) ?_
        (reactor?_congr reactors))
      rw [kernel]
      exact refl_of Inherits before.kernel
  | tells event => exact .inl (retains_tell event before)
  | calls _ inherits =>
      exact .inl (retains_of_same (Nat.le_refl _) List.prefix_rfl inherits fun _ => rfl)
  | comes capacity => exact .inl (retains_newReactor capacity before)
  | holds id =>
      exact .inl (retains_of_same (Nat.le_refl _) List.prefix_rfl (refl_of Inherits _)
        (Shared.value?_hold before.reactors id))
  | letsGo id => exact .inl (retains_releaseReactor id before)
  | hooks id hook => exact .inl (retains_changeLoop id (fun loop => { loop with hook })
      (fun _ => rfl) before)
  | listens id fd interest body =>
      exact .inl (retains_onReactor id (Reactor.leaves_listen fd interest body) before)
  | modifies id fd interest =>
      exact .inl (retains_onReactor id (Reactor.leaves_modify fd interest) before)
  | removes id fd => exact .inl (retains_onReactor id (Reactor.leaves_remove fd) before)
  | releases id timer => exact .inl (retains_onReactor id (Reactor.leaves_release timer) before)
  | settles id timer isRepeating outcome =>
      exact .inl (retains_onReactor id (Reactor.leaves_settle timer isRepeating outcome) before)
  | schedules id delay isRepeating callback =>
      rcases ended : Dispatch.schedule id delay isRepeating callback before with
        ⟨failure | timer, after⟩
      · rcases Dispatch.schedule_eq_error_iff.mp ended with
          ⟨_, _, rfl⟩ | ⟨_, _, _, found, called, _, rfl⟩
        · exact .inl (refl_of Retains after)
        · exact .inl (retains_settled found (Reactor.leaves_unstarted called))
      · exact .inr ⟨id, delay, isRepeating, callback, timer, ended⟩

/-- The same holds of every step. -/
theorem Step.retains_or_starts (step : Step before after) :
    Retains before after ∨ ∃ id delay isRepeating callback timer,
      Dispatch.schedule id delay isRepeating callback before = (.ok timer, after) := by
  cases step with
  | moves move => exact move.retains_or_starts
  | begins due =>
      exact .inl (trans_of Retains (retains_changeLoop _ (Dispatch.busy _) (fun _ => rfl) before)
        (retains_tell _ _))
  | finishes id serial =>
      exact .inl (retains_changeLoop id (Dispatch.idle serial) (fun _ => rfl) before)

/-! ## Timers that are started -/

/-- A timer was started in a reactor and the journal was told. -/
structure Starts (id : Nat) (timer : TimerHandle) (isRepeating : Bool) (callback : Script σ)
    (before after : World σ) : Prop where
  fresh : after.fresh = before.fresh
  recalls : Recalls before after
  told : .scheduled id timer isRepeating (after.kernel.opening? timer.fd) ∈ after.journal.toList
  own : ∃ reactor later, before.reactor? id = some reactor ∧ after.reactor? id = some later ∧
    Reactor.Starts timer isRepeating callback (before.kernel, reactor) (after.kernel, later)
  others : ∀ other, id ≠ other → after.reactor? other = before.reactor? other

theorem starts_of_schedule {id : Nat} {delay : Span} {isRepeating : Bool} {callback : Script σ}
    {timer : TimerHandle}
    (ended : Dispatch.schedule id delay isRepeating callback before = (.ok timer, after)) :
    Starts id timer isRepeating callback before after := by
  rcases Dispatch.schedule_eq_ok_iff.mp ended with
    ⟨reactor, ⟨kernel, later⟩, found, called, rfl⟩
  have view (other : Nat) := reactor?_settled found (kernel, later) other
  have scheduled := retains_tell (.scheduled id timer isRepeating (kernel.opening? timer.fd))
    (before.settled id (kernel, later))
  have armed := retains_tell (.armed id timer isRepeating before.kernel.now delay)
    (tell (.scheduled id timer isRepeating (kernel.opening? timer.fd))
      (before.settled id (kernel, later))).2
  constructor
  case fresh => rfl
  case recalls => exact trans_of Recalls scheduled.recalls armed.recalls
  case told => exact armed.recalls.subset (mem_of_tell _ _)
  case own =>
      exact ⟨reactor, later, found, (view id).trans (if_pos rfl), Reactor.starts_started called⟩
  case others => exact fun other different => (view other).trans (if_neg different)

/-! ## What all steps keep -/

/-- A later world: reactors that were not there before are new, and the timers of all follow
what they were. -/
structure Follows (before after : World σ) : Prop where
  fresh : before.fresh ≤ after.fresh
  recalls : Recalls before after
  reactors : ∀ id later, after.reactor? id = some later →
    (∃ reactor, before.reactor? id = some reactor ∧ reactor.timers.Follows later.timers) ∨
      before.fresh ≤ id ∧ id < after.fresh ∧ Timers.Follows ⟨.empty, 1⟩ later.timers

instance : IsPreorder (World σ) Follows where
  refl world := ⟨Nat.le_refl _, List.prefix_rfl,
    fun _ later found => .inl ⟨later, found, refl_of Timers.Follows later.timers⟩⟩
  trans _ _ _ first second := by
    refine ⟨Nat.le_trans first.fresh second.fresh, trans_of Recalls first.recalls second.recalls,
      fun id later found => ?_⟩
    rcases second.reactors id later found with ⟨middle, there, follows'⟩ | ⟨new, old, blank⟩
    · rcases first.reactors id middle there with ⟨reactor, there', follows⟩ | ⟨new, old, follows⟩
      · exact .inl ⟨reactor, there', trans_of Timers.Follows follows follows'⟩
      · exact .inr ⟨new, Nat.lt_of_lt_of_le old second.fresh,
          trans_of Timers.Follows follows follows'⟩
    · exact .inr ⟨Nat.le_trans first.fresh new, old, blank⟩

theorem Retains.follows (retains : Retains before after) : Follows before after := by
  refine ⟨retains.fresh, retains.recalls, fun id later found => ?_⟩
  rcases retains.reactors id later found with ⟨reactor, there, kept⟩ | ⟨new, old, poller, kept⟩
  · exact .inl ⟨reactor, there, kept.timers⟩
  · exact .inr ⟨new, old, kept.timers⟩

theorem Starts.follows {id : Nat} {timer : TimerHandle} {isRepeating : Bool} {callback : Script σ}
    (starts : Starts id timer isRepeating callback before after) : Follows before after := by
  refine ⟨Nat.le_of_eq starts.fresh.symm, starts.recalls, fun other later found => .inl ?_⟩
  rcases starts.own with ⟨reactor, started, there, there', own⟩
  by_cases same : id = other
  · subst same
    cases there'.symm.trans found
    exact ⟨reactor, there, own.timers⟩
  · rw [starts.others other same] at found
    exact ⟨later, found, refl_of Timers.Follows later.timers⟩

theorem Step.follows (step : Step before after) : Follows before after := by
  rcases step.retains_or_starts with retains | ⟨_, _, _, _, _, ended⟩
  · exact retains.follows
  · exact (starts_of_schedule ended).follows

theorem Reaches.follows (reaches : Reaches before after) : Follows before after := by
  induction reaches with
  | refl => exact refl_of Follows before
  | tail _ step ih => exact trans_of Follows ih step.follows

end World

end ScriptHost
