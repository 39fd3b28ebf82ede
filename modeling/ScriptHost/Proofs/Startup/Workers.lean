import ScriptHost.Proofs.Runs.Indifference
import ScriptHost.Proofs.Startup.Building

/-!
# Worker scripts run once

A run chooses its mode first and takes the worker script later, but nothing comes between the two,
and the script is taken before it is handed to the engine.  So whatever the script does, be it that
it fails or that it runs the runtime again, a runtime without a worker script is what it finds.

What all runs of all scripts may do to one runtime is said by `Passage`: the runtime stays as it is or
goes, or else it hands its worker script over and has none from then on.  The second cannot follow
upon itself, which is why passages can be put together, and why a script is handed over at most once.
-/

namespace ScriptHost

open World

variable {σ : Type} {id other : Nat} {before middle after world : World σ} {runtime : Runtime}
  {source : String} {part : Part}

/-- The runtime when its worker script has been taken out of it. -/
def Runtime.spent (runtime : Runtime) : Runtime :=
  { runtime with worker := none }

/-- With these options a run gets as far as to the worker script. -/
structure Runtime.RunsWorker (runtime : Runtime) : Prop where
  uninspected : runtime.options.flag "inspector" = false
  named : runtime.options.positionals ≠ []

theorem StartupMode.select_eq_worker_iff (options : Options) (hasWorker : Bool) :
    select options hasWorker = .ok .worker ↔ options.positionals ≠ [] ∧ hasWorker = true := by
  unfold select
  by_cases unnamed : options.positionals.isEmpty = true
  · rw [if_pos unnamed]
    simp [List.isEmpty_iff.mp unnamed]
  · have named : options.positionals ≠ [] := mt List.isEmpty_iff.mpr unnamed
    rw [if_neg unnamed]
    cases hasWorker with
    | true => simp [named]
    | false =>
        rw [if_neg Bool.false_ne_true]
        simp only [Bool.false_eq_true, and_false, iff_false]
        repeat' split
        all_goals nofun

/-! ## What is handed over -/

/-- The worker script that an event says a runtime has handed over. -/
def Event.handed? (id : Nat) : Event → Option String
  | .handedOver runtime source => if runtime = id then some source else none
  | _ => none

theorem Event.handed?_of_part {event : Event} (about : event.part ≠ .runtimes) :
    event.handed? id = none := by
  cases event <;> first | rfl | exact absurd rfl about

namespace World

/-- The worker scripts that a runtime has handed over so far, oldest first. -/
def handed (world : World σ) (id : Nat) : List String :=
  world.journal.toList.filterMap (Event.handed? id)

/-- The world in which a runtime has just handed its worker script over. -/
def handOver (world : World σ) (id : Nat) (source : String) : World σ :=
  { world with
    runtimes := world.runtimes.modify id (Shared.map Runtime.spent)
    journal := world.journal.push (.handedOver id source) }

theorem takeWorker_eq (found : world.runtime? id = some runtime)
    (worker : runtime.worker = some source) :
    takeWorker id world = (.ok (some source), world.handOver id source) := by
  unfold takeWorker
  rw [get_bind_eq, found, Option.bind_some, worker]
  rfl

theorem runtime?_handOver (world : World σ) (id other : Nat) (source : String) :
    (world.handOver id source).runtime? other =
      if id = other then (world.runtime? other).map Runtime.spent else world.runtime? other := by
  unfold handOver runtime? Shared.value?
  rw [Table.get?_modify]
  split
  · rw [Option.map_map, Option.map_map]
    rfl
  · rfl

theorem handed_handOver (world : World σ) (id other : Nat) (source : String) :
    (world.handOver id source).handed other =
      if id = other then world.handed other ++ [source] else world.handed other := by
  unfold handOver handed
  rw [Array.toList_push, List.filterMap_append]
  split
  next same => rw [List.filterMap_cons, Event.handed?, if_pos same]; rfl
  next different => rw [List.filterMap_cons, Event.handed?, if_neg different]; simp

theorem handOver_here (found : world.runtime? id = some runtime) (source : String) :
    (world.handOver id source).runtime? id = some runtime.spent ∧
      (world.handOver id source).handed id = world.handed id ++ [source] := by
  rw [runtime?_handOver, handed_handOver, if_pos rfl, if_pos rfl, found]
  exact ⟨rfl, rfl⟩

theorem handOver_elsewhere (world : World σ) (different : id ≠ other) (source : String) :
    (world.handOver id source).runtime? other = world.runtime? other ∧
      (world.handOver id source).handed other = world.handed other := by
  rw [runtime?_handOver, handed_handOver, if_neg different, if_neg different]
  exact ⟨rfl, rfl⟩

theorem runtime?_newRuntime (world : World σ) (runtime : Runtime) (other : Nat) :
    (newRuntime runtime world).2.runtime? other =
      if world.fresh = other then some runtime else world.runtime? other := by
  change ((world.runtimes.insert world.fresh (.one runtime)).get? other).map Shared.value = _
  rw [Table.get?_insert]
  split <;> rfl

theorem handed_of_changes (elsewhere : part ≠ .runtimes) (changes : Changes part before after)
    (id : Nat) : after.handed id = before.handed id := by
  rcases changes.journal with ⟨news, grown, about⟩
  have nothing : news.filterMap (Event.handed? id) = [] := by
    refine List.filterMap_eq_nil_iff.mpr fun event member => Event.handed?_of_part ?_
    rcases about event member with same | rest
    · rw [same]
      exact elsewhere
    · rw [rest]
      decide
  unfold handed
  rw [grown, List.filterMap_append, nothing, List.append_nil]

end World

/-! ## How a runtime fares -/

/-- What may have become of a runtime, and of what it had handed over, between two worlds. -/
inductive Passage (id : Nat) (before after : World σ) : Prop where
  /-- It is as it was, or it is gone. -/
  | kept (left : after.runtime? id = before.runtime? id ∨ after.runtime? id = none)
      (handed : after.handed id = before.handed id)
  /-- It has handed its worker script over. -/
  | spent (runtime : Runtime) (source : String) (found : before.runtime? id = some runtime)
      (runs : runtime.RunsWorker) (worker : runtime.worker = some source)
      (left : after.runtime? id = some runtime.spent ∨ after.runtime? id = none)
      (handed : after.handed id = before.handed id ++ [source])

theorem Passage.refl (id : Nat) (world : World σ) : Passage id world world :=
  .kept (.inl rfl) rfl

theorem Passage.trans (first : Passage id before middle) (second : Passage id middle after) :
    Passage id before after := by
  cases first with
  | kept left handed =>
      cases second with
      | kept left' handed' =>
          refine .kept ?_ (handed'.trans handed)
          rcases left' with same | gone
          · rw [same]
            exact left
          · exact .inr gone
      | spent runtime source found runs worker left' handed' =>
          refine .spent runtime source ?_ runs worker left' (handed ▸ handed')
          rcases left with same | gone
          · rw [← same]
            exact found
          · cases gone.symm.trans found
  | spent runtime source found runs worker left handed =>
      cases second with
      | kept left' handed' =>
          refine .spent runtime source found runs worker ?_ (handed'.trans handed)
          rcases left' with same | gone
          · rw [same]
            exact left
          · exact .inr gone
      | spent later source' found' _ worker' =>
          -- What has handed its worker script over has none to hand over again.
          rcases left with same | gone
          · cases found'.symm.trans same
            cases worker'
          · cases gone.symm.trans found'

/-! ## The count of worker scripts -/

/-- No worker script is lost count of: what is yet to be made has handed nothing over, a runtime that
has a worker script has not handed it over, and nothing hands over two. -/
structure World.Tallied (world : World σ) : Prop where
  unmade : ∀ id, world.fresh ≤ id → world.runtime? id = none ∧ world.handed id = []
  pending : ∀ id runtime, world.runtime? id = some runtime → runtime.worker ≠ none →
    world.handed id = []
  once : ∀ id, (world.handed id).length ≤ 1

namespace World.Tallied

theorem of_kept (tallied : before.Tallied) (fresh : before.fresh ≤ after.fresh)
    (left : ∀ id, after.runtime? id = before.runtime? id ∨ after.runtime? id = none)
    (handed : ∀ id, after.handed id = before.handed id) : after.Tallied where
  unmade id unmade := by
    have nothing := tallied.unmade id (Nat.le_trans fresh unmade)
    refine ⟨?_, (handed id).trans nothing.2⟩
    rcases left id with same | gone
    · exact same.trans nothing.1
    · exact gone
  pending id runtime found worker := by
    rcases left id with same | gone
    · exact (handed id).trans (tallied.pending id runtime (same.symm.trans found) worker)
    · cases gone.symm.trans found
  once id := by
    rw [handed id]
    exact tallied.once id

theorem newRuntime (tallied : world.Tallied) (runtime : Runtime) :
    (World.newRuntime runtime world).2.Tallied where
  unmade id unmade := by
    rw [runtime?_newRuntime, if_neg (Nat.ne_of_lt unmade)]
    exact tallied.unmade id (Nat.le_of_succ_le unmade)
  pending id later found worker := by
    rw [runtime?_newRuntime] at found
    split at found
    next same => exact (tallied.unmade id (Nat.le_of_eq same)).2
    next => exact tallied.pending id later found worker
  once := tallied.once

theorem handOver (tallied : world.Tallied) (found : world.runtime? id = some runtime)
    (worker : runtime.worker = some source) : (world.handOver id source).Tallied where
  unmade other unmade := by
    have nothing := tallied.unmade other unmade
    have different : id ≠ other := by
      rintro rfl
      cases nothing.1.symm.trans found
    rcases handOver_elsewhere world different source with ⟨left, handed⟩
    rw [left, handed]
    exact nothing
  pending other later there has := by
    by_cases same : id = other
    · subst same
      cases (handOver_here found source).1.symm.trans there
      exact absurd rfl has
    · rcases handOver_elsewhere world same source with ⟨left, handed⟩
      rw [handed]
      exact tallied.pending other later (left.symm.trans there) has
  once other := by
    by_cases same : id = other
    · subst same
      rw [(handOver_here found source).2,
        tallied.pending id runtime found (worker ▸ Option.some_ne_none source)]
      exact Nat.le_refl 1
    · rw [(handOver_elsewhere world same source).2]
      exact tallied.once other

end World.Tallied

/-! ## What runs do -/

/-- What runs do to runtimes and to the count of worker scripts. -/
structure Spending (before after : World σ) : Prop where
  fresh : before.fresh ≤ after.fresh
  passages : ∀ id, id < before.fresh → Passage id before after
  tallied : before.Tallied → after.Tallied

instance : IsPreorder (World σ) Spending where
  refl world := ⟨Nat.le_refl _, fun id _ => .refl id world, fun tallied => tallied⟩
  trans _ _ _ first second :=
    { fresh := Nat.le_trans first.fresh second.fresh
      passages := fun id given =>
        (first.passages id given).trans (second.passages id (Nat.lt_of_lt_of_le given first.fresh))
      tallied := fun tallied => second.tallied (first.tallied tallied) }

/-- Runtimes may go, as long as nothing is handed over. -/
theorem Spending.of_kept (fresh : before.fresh ≤ after.fresh)
    (left : ∀ id, after.runtime? id = before.runtime? id ∨ after.runtime? id = none)
    (handed : ∀ id, after.handed id = before.handed id) : Spending before after where
  fresh := fresh
  passages id _ := .kept (left id) (handed id)
  tallied tallied := tallied.of_kept fresh left handed

theorem Spending.of_changes (elsewhere : part ≠ .runtimes) (before after : World σ)
    (changes : Changes part before after) : Spending before after := by
  refine .of_kept changes.fresh (fun id => .inl ?_) (handed_of_changes elsewhere changes)
  unfold World.runtime?
  rw [changes.runtimes elsewhere]

theorem Spending.newRuntime (runtime : Runtime) :
    Keeps Spending (World.newRuntime runtime : Action σ Nat) := by
  refine fun world => ⟨Nat.le_succ _, fun id given => .kept (.inl ?_) rfl, fun tallied => ?_⟩
  · rw [runtime?_newRuntime, if_neg (Nat.ne_of_gt given)]
  · exact tallied.newRuntime runtime

theorem Spending.handOver (found : world.runtime? id = some runtime) (runs : runtime.RunsWorker)
    (worker : runtime.worker = some source) : Spending world (world.handOver id source) := by
  refine ⟨Nat.le_refl _, fun other _ => ?_, fun tallied => tallied.handOver found worker⟩
  by_cases same : id = other
  · subst same
    rcases handOver_here found source with ⟨left, handed⟩
    exact .spent runtime source found runs worker (.inl left) handed
  · rcases handOver_elsewhere world same source with ⟨left, handed⟩
    exact .kept (.inl left) handed

theorem spending_housing : Housing (Spending : World σ → World σ → Prop) where
  new := Spending.newRuntime
  hold id world :=
    .of_kept (Nat.le_refl _) (fun other => .inl (Shared.value?_hold world.runtimes id other))
      fun _ => rfl
  letGo id world := by
    refine .of_kept (Nat.le_refl _) (fun other => ?_) fun _ => rfl
    have left := Shared.value?_letGo world.runtimes id other
    split at left
    · exact .inr left
    · exact .inl left
  take id world runtime found uninspected selected := by
    rw [StartupMode.select_eq_worker_iff, Option.isSome_iff_exists] at selected
    rcases selected with ⟨named, source, worker⟩
    rw [takeWorker_eq found worker]
    exact .handOver found ⟨uninspected, named⟩ worker

/-- No request is about the runtimes and nothing else. -/
theorem Request.part?_ne_runtimes (request : Request) : request.part? ≠ some .runtimes := by
  cases request <;> nofun

/-- What becomes of runtimes in every run of every script. -/
theorem spending_rules (engine : Engine σ) :
    Rules engine (Spending : World σ → World σ → Prop) where
  rest := .of_changes (by decide)
  runtimes := spending_housing
  request := Script.keeps_answer Spending.of_changes fun request concerns =>
    absurd concerns request.part?_ne_runtimes
  require run ran := Modules.keeps_require (.of_changes (by decide)) ran
  requireNative run ran := Modules.keeps_requireNative (.of_changes (by decide)) ran
  input chunk := (changes_system _).mono (.of_changes (by decide))
  listen := Dispatch.keeps_listenFor (.of_changes (by decide))
  schedule := Dispatch.keeps_schedule (.of_changes (by decide))
  poll run ran := Dispatch.keeps_poll (.of_changes (by decide)) ran
  drive run ran := Dispatch.keeps_drive (.of_changes (by decide)) ran

namespace Startup

variable {context : Context σ}

/-! ## The run that hands it over -/

/-- Where the application of a runtime is. -/
def rootOf (world : World σ) (runtime : Runtime) : Path :=
  match world.loaders.get? runtime.loader with
  | some loader => loader.paths.appRoot
  | none => ⟨""⟩

theorem appRoot_eq (runtime : Runtime) (world : World σ) :
    appRoot runtime world = (.ok (rootOf world runtime), world) := by
  unfold appRoot rootOf
  rw [get_bind_eq]
  cases world.loaders.get? runtime.loader <;> rfl

/-- The name under which a worker script is run. -/
def scriptName (world : World σ) (runtime : Runtime) : String :=
  ((rootOf world runtime).join ((runtime.options.positional? 0).getD workerName)).text

theorem runWorker_eq (context : Context σ) (found : world.runtime? id = some runtime)
    (worker : runtime.worker = some source) :
    runWorker context id world =
      runScript context source (scriptName world runtime) (world.handOver id source) := by
  unfold runWorker
  rw [get_bind_eq, found]
  dsimp only
  rw [bind_of_ok (takeWorker_eq found worker)]
  exact bind_of_ok (appRoot_eq runtime (world.handOver id source))

/-- A run that gets to the worker script has taken it when it hands it to the engine. -/
theorem start_of_worker (context : Context σ) (found : world.runtime? id = some runtime)
    (runs : runtime.RunsWorker) (worker : runtime.worker = some source) :
    start context id world = closing id ((do
      runScript context source (scriptName world runtime)
      Dispatch.drive context.run runtime.reactor context.turns : Action σ Unit)
        ((held world id).handOver id source)) := by
  have selected : StartupMode.select runtime.options runtime.worker.isSome = .ok .worker :=
    (StartupMode.select_eq_worker_iff _ _).mpr ⟨runs.named, worker ▸ rfl⟩
  have foundHeld : (held world id).runtime? id = some runtime :=
    (runtime?_held world id id).trans found
  rw [start_of_uninspected context found runs.uninspected, selected]
  exact congrArg (closing id) (bind_congr_at (runWorker_eq context foundHeld worker))

/-- A run that does not get to the worker script is refused, or there is nothing to do. -/
theorem start_of_missed (context : Context σ) (found : world.runtime? id = some runtime)
    (misses : ¬runtime.RunsWorker) :
    runtime.options.flag "inspector" = true ∧
        (∃ text, (start context id world).1 = .error (.raised (.config text))) ∨
      runtime.options.positionals = [] ∧
        start context id world = closing id (.ok (), held world id) := by
  cases inspected : runtime.options.flag "inspector" with
  | true =>
      rcases inspectorError_eq runtime (held world id) with ⟨text, vault, journal, cause⟩
      refine .inl ⟨rfl, text, ?_⟩
      rw [start_of_inspected context found inspected, closing_answer, bind_of_ok cause]
      rfl
  | false =>
      have unnamed : runtime.options.positionals = [] :=
        Classical.not_not.mp fun named => misses ⟨inspected, named⟩
      have selected : StartupMode.select runtime.options runtime.worker.isSome = .ok .idle := by
        rw [StartupMode.select, unnamed]
        rfl
      refine .inr ⟨unnamed, ?_⟩
      rw [start_of_uninspected context found inspected, selected]
      rfl

/-! ## Every run -/

/-- Between two worlds a runtime has not handed its worker script over, and has it still. -/
def Pending (id : Nat) (runtime : Runtime) (before after : World σ) : Prop :=
  after.handed id = before.handed id ∧
    ∀ later, after.runtime? id = some later → later = runtime

/-- Between two worlds a runtime has handed its worker script over, and has it no longer. -/
def Consumed (id : Nat) (runtime : Runtime) (source : String) (before after : World σ) : Prop :=
  after.handed id = before.handed id ++ [source] ∧
    ∀ later, after.runtime? id = some later → later = runtime.spent

/-- Either a runtime has its worker script still, or it has handed it over. -/
theorem pending_or_consumed (passage : Passage id before after)
    (found : before.runtime? id = some runtime) (worker : runtime.worker = some source) :
    Pending id runtime before after ∨
      runtime.RunsWorker ∧ Consumed id runtime source before after := by
  cases passage with
  | kept left handed =>
      refine .inl ⟨handed, fun later there => ?_⟩
      rcases left with same | gone
      · exact Option.some.inj ((same.symm.trans there).symm.trans found)
      · cases gone.symm.trans there
  | spent earlier source' found' runs worker' left handed =>
      cases found'.symm.trans found
      cases worker'.symm.trans worker
      refine .inr ⟨runs, handed, fun later there => ?_⟩
      rcases left with same | gone
      · exact Option.some.inj (there.symm.trans same)
      · cases gone.symm.trans there

/-- What has been handed over is not handed over again. -/
theorem Consumed.passage (consumed : Consumed id runtime source before middle)
    (passage : Passage id middle after) : Consumed id runtime source before after := by
  cases passage with
  | kept left handed =>
      refine ⟨handed.trans consumed.1, fun later there => ?_⟩
      rcases left with same | gone
      · exact consumed.2 later (same.symm.trans there)
      · cases gone.symm.trans there
  | spent later source' found _ worker =>
      cases consumed.2 later found
      cases worker

theorem spending_exec (engine : Engine σ) (fuel : Nat) (script : Script σ) :
    Keeps Spending (Script.exec engine fuel script) :=
  (spending_rules engine).exec fuel script

/-- Letting go of a runtime at the end of a run hands nothing over. -/
theorem spending_closing (engine : Engine σ) (id : Nat) {α : Type}
    {ended : Except Failure α × World σ} (kept : Spending world ended.2) :
    Spending world (closing id ended).2 := by
  have released := trans_of Spending kept ((spending_rules engine).releaseRuntime id ended.2)
  rcases ended with ⟨(_ | _) | _, after⟩
  · exact released
  · exact kept
  · exact released

theorem spending_start (engine : Engine σ) (fuel id : Nat) :
    Keeps Spending (start (Script.context engine fuel) id) :=
  ends_true_iff.mp
    ((spending_rules engine).endings.start (fun script => (spending_exec engine fuel script).ends) id)

/-- What follows once the worker script has been taken, up to the end of the run. -/
theorem spending_rest (engine : Engine σ) (fuel id : Nat) (runtime : Runtime)
    (source name : String) (taken : World σ) :
    Spending taken (closing id ((do
      runScript (Script.context engine fuel) source name
      Dispatch.drive (Script.exec engine fuel) runtime.reactor fuel : Action σ Unit) taken)).2 := by
  have rules := spending_rules engine
  have ran (script : Script σ) : Ends True Spending (Script.exec engine fuel script) :=
    (spending_exec engine fuel script).ends
  have ended := (Endings.runScript ran rules.endings source name).bind fun _ =>
    rules.endings.drive fuel ran runtime.reactor fuel
  exact spending_closing engine id (ends_true_iff.mp ended taken)

/-- The worlds of sessions keep count of the worker scripts. -/
theorem tallied_world (session : Session σ) (steps : Nat) : (session.world steps).Tallied :=
  (session.keeps (spending_rules session.engine) steps).tallied
    ⟨fun _ _ => ⟨rfl, rfl⟩, fun _ _ _ _ => rfl, fun _ => Nat.zero_le 1⟩

/-- The worker script of a runtime is handed to the engine at most once, whatever is run.

Here `world` is any world that has given the runtime its identity, and so any world of a session.
A script may run the runtime as often as it likes, from wherever it likes, and go on when a run has
failed; with a limit on its steps it can be looked at in the middle of each of these runs.

* Whatever it does, the worker script is pending or consumed: it is not handed over more than once.
* If the options let runs get to the worker script, then the first run consumes it before the script
  starts, and it remains so however the script ends.  No later run changes that, and each of them
  follows the mode that is selected without a worker script.
* If they do not, then it is pending for ever: a run ends in a configuration error, or it is idle. -/
theorem worker_runs_at_most_once (engine : Engine σ) (fuel : Nat) (world : World σ) (id : Nat)
    (given : id < world.fresh) (runtime : Runtime) (found : world.runtime? id = some runtime)
    (source : String) (worker : runtime.worker = some source) :
    (∀ script, Pending id runtime world (Script.exec engine fuel script world).2 ∨
      runtime.RunsWorker ∧
        Consumed id runtime source world (Script.exec engine fuel script world).2) ∧
    (runtime.RunsWorker →
      start (Script.context engine fuel) id world = closing id ((do
        runScript (Script.context engine fuel) source (scriptName world runtime)
        Dispatch.drive (Script.exec engine fuel) runtime.reactor fuel : Action σ Unit)
          ((held world id).handOver id source)) ∧
      ((held world id).handOver id source).runtime? id = some runtime.spent ∧
      Consumed id runtime source world ((held world id).handOver id source) ∧
      Consumed id runtime source world (start (Script.context engine fuel) id world).2 ∧
      ∀ reached : World σ, world.fresh ≤ reached.fresh →
        Consumed id runtime source world reached →
        (∀ fuel' script,
          Consumed id runtime source world (Script.exec engine fuel' script reached).2) ∧
        ∀ fuel' later, reached.runtime? id = some later →
          start (Script.context engine fuel') id reached =
            closing id (follow (Script.context engine fuel') id later
              (StartupMode.select runtime.options false) (held reached id))) ∧
    (¬runtime.RunsWorker →
      (∀ script, Pending id runtime world (Script.exec engine fuel script world).2) ∧
      Pending id runtime world (start (Script.context engine fuel) id world).2 ∧
      (runtime.options.flag "inspector" = true ∧
          (∃ text, (start (Script.context engine fuel) id world).1 =
            .error (.raised (.config text))) ∨
        runtime.options.positionals = [] ∧
          start (Script.context engine fuel) id world = closing id (.ok (), held world id))) ∧
    ∀ (session : Session σ) (steps number : Nat),
      ((session.world steps).handed number).length ≤ 1 ∧
        ∀ other, (session.world steps).runtime? number = some other →
          number < (session.world steps).fresh := by
  have ran (script : Script σ) := pending_or_consumed
    ((spending_exec engine fuel script world).passages id given) found worker
  have started := pending_or_consumed
    ((spending_start engine fuel id world).passages id given) found worker
  rcases handOver_here ((runtime?_held world id id).trans found) source with ⟨taken, handed⟩
  have consumed : Consumed id runtime source world ((held world id).handOver id source) :=
    ⟨handed, fun later there => Option.some.inj (there.symm.trans taken)⟩
  refine ⟨ran, fun runs => ⟨?_, taken, consumed, ?_, ?_⟩, fun misses => ⟨?_, ?_, ?_⟩, ?_⟩
  · exact start_of_worker _ found runs worker
  · rw [start_of_worker _ found runs worker]
    exact consumed.passage ((spending_rest engine fuel id runtime source _ _).passages id given)
  · intro reached older consumed
    refine ⟨fun fuel' script => consumed.passage
      ((spending_exec engine fuel' script reached).passages id
        (Nat.lt_of_lt_of_le given older)), fun fuel' later there => ?_⟩
    cases consumed.2 later there
    exact start_of_uninspected _ there runs.uninspected
  · exact fun script => (ran script).resolve_right fun consumed => misses consumed.1
  · exact started.resolve_right fun consumed => misses consumed.1
  · exact start_of_missed _ found misses
  · intro session steps number
    have tallied := tallied_world session steps
    refine ⟨tallied.once number, fun other there => Nat.lt_of_not_le fun unmade => ?_⟩
    cases (tallied.unmade number unmade).1.symm.trans there

/-- An engine whose scripts run the runtime that they are the worker script of again, and fail. -/
def restarting : Engine Unit where
  compile _ _ := .ok fun _ => .done .null
  runScript source _ := .start 2 fun _ => .fail (.script source "stopped")
  runModule _ _ := .done .null

/-- A runtime with a worker script. -/
def courier : Runtime :=
  { builder with options := Options.parse ["ember"], worker := some "job" }

/-- Its script is consumed although it fails, and once although it runs the runtime again. -/
theorem restarted_worker_is_consumed :
    let world := (newRuntime courier (workshop.world 9)).2
    (start (Script.context restarting 5) 2 world).1 =
        .error (.raised (.script "job" "stopped")) ∧
      Consumed 2 courier "job" world (start (Script.context restarting 5) 2 world).2 := by
  intro world
  have fresh : (workshop.world 9).fresh = 2 := by decide +kernel
  have given : 2 < world.fresh := by
    change 2 < (workshop.world 9).fresh + 1
    rw [fresh]
    decide
  have found : world.runtime? 2 = some courier := by
    rw [runtime?_newRuntime, fresh, if_pos rfl]
  have runs : courier.RunsWorker := ⟨by decide +kernel, by decide +kernel⟩
  refine ⟨by decide +kernel, ?_⟩
  exact ((worker_runs_at_most_once restarting 5 world 2 given courier found "job" rfl).2.1
    runs).2.2.2.1

end Startup

end ScriptHost
