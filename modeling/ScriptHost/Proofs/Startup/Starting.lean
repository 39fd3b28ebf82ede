import ScriptHost.Proofs.Runs.Keeping
import ScriptHost.Startup.Run

/-!
# How runs start and end

Whoever runs a runtime holds it.  So a run is what its mode asks for, done in the world in which
the runtime is held once more, and after that the runtime is let go of.  Letting go never fails:
the answer of a run is that of what was done in it.
-/

namespace ScriptHost.Startup

open World

variable {σ α : Type} {world other : World σ} {id : Nat} {runtime : Runtime}

/-! ## Ends -/

/-- What follows a call depends on how the call has ended. -/
theorem bind_congr_at {β : Type} {first second : Action σ α} {rest : α → Action σ β}
    (same : first world = second other) : (first >>= rest) world = (second >>= rest) other := by
  rcases ended : second other with ⟨failure | value, last⟩
  · rw [bind_of_error ended, bind_of_error (same.trans ended)]
  · rw [bind_of_ok ended, bind_of_ok (same.trans ended)]

/-- A call that always comes to an end. -/
def Answers (action : Action σ Unit) : Prop :=
  ∀ world, (action world).1 = .ok ()

theorem Answers.bind {first second : Action σ Unit} (answers : Answers first)
    (answers' : Answers second) : Answers (first >>= fun _ => second) := by
  intro world
  have answer := answers world
  rcases ended : first world with ⟨_ | ⟨⟩, after⟩ <;> rw [ended] at answer
  · cases answer
  · rw [bind_of_ok ended]
    exact answers' after

theorem answers_forM {f : α → Action σ Unit} (answers : ∀ value, Answers (f value))
    (values : List α) : Answers (values.forM f) := by
  induction values with
  | nil => exact fun _ => rfl
  | cons value rest inductionHypothesis => exact (answers value).bind inductionHypothesis

theorem answers_releaseRuntime (id : Nat) : Answers (releaseRuntime id : Action σ Unit) := by
  intro world
  unfold releaseRuntime
  rw [get_bind_eq]
  rcases Shared.letGo world.runtimes id with ⟨_ | runtime, runtimes⟩
  · rfl
  · refine Answers.bind (fun _ => rfl) (Answers.bind (fun _ => rfl) (Answers.bind ?_ ?_)) world
    · exact answers_forM (fun _ _ => rfl) _
    · exact fun _ => rfl

/-- What is left of a run that has come to an end: the runtime is let go of, unless everything
was cut off. -/
def closing (id : Nat) : Except Failure α × World σ → Except Failure α × World σ
  | (.error .exhausted, world) => (.error .exhausted, world)
  | (answer, world) => (answer, (releaseRuntime id world).2)

@[simp]
theorem closing_answer (id : Nat) (ended : Except Failure α × World σ) :
    (closing id ended).1 = ended.1 := by
  rcases ended with ⟨(_ | _) | _, world⟩ <;> rfl

/-- The world in which one more holds a runtime. -/
def held (world : World σ) (id : Nat) : World σ :=
  { world with runtimes := Shared.hold world.runtimes id }

@[simp]
theorem runtime?_held (world : World σ) (id other : Nat) :
    (held world id).runtime? other = world.runtime? other :=
  Shared.value?_hold world.runtimes id other

theorem withRuntime_eq (action : Action σ α) :
    withRuntime id action world = closing id (action (held world id)) := by
  have first : holdRuntime id world = (.ok (), held world id) := rfl
  unfold withRuntime
  rw [bind_of_ok first]
  rcases ended : action (held world id) with ⟨answer, after⟩
  have released : releaseRuntime id after = (.ok (), (releaseRuntime id after).2) :=
    Prod.ext (answers_releaseRuntime id after) rfl
  rcases answer with (error | _) | value
  · have tried : attempt action (held world id) = (.ok (.error error), after) :=
      attempt_eq_ok_iff.mpr ended
    rw [bind_of_ok tried, bind_of_ok released]
    rfl
  · rw [bind_of_error (attempt_eq_error_iff.mpr ⟨rfl, ended⟩)]
    rfl
  · have tried : attempt action (held world id) = (.ok (.ok value), after) :=
      attempt_eq_ok_iff.mpr ended
    rw [bind_of_ok tried, bind_of_ok released]
    rfl

/-! ## Modes -/

/-- Do what the mode asks for, and then drive the loop; if there is no mode, that is the error. -/
def follow (context : Context σ) (id : Nat) (runtime : Runtime) :
    Except Error StartupMode → Action σ Unit
  | .error error => raise error
  | .ok .idle => pure ()
  | .ok mode => do
      dispatch context id runtime mode
      Dispatch.drive context.run runtime.reactor context.turns

theorem start_of_uninspected (context : Context σ) (found : world.runtime? id = some runtime)
    (uninspected : runtime.options.flag "inspector" = false) :
    start context id world = closing id
      (follow context id runtime (StartupMode.select runtime.options runtime.worker.isSome)
        (held world id)) := by
  unfold start
  rw [withRuntime_eq, get_bind_eq, runtime?_held, found]
  dsimp only
  rw [uninspected, if_neg Bool.false_ne_true]
  rcases StartupMode.select runtime.options runtime.worker.isSome with error | mode
  · rfl
  · cases mode <;> rfl

/-- With the inspector flag there is only an error. -/
theorem start_of_inspected (context : Context σ) (found : world.runtime? id = some runtime)
    (inspected : runtime.options.flag "inspector" = true) :
    start context id world = closing id
      ((do raise (← inspectorError runtime) : Action σ Unit) (held world id)) := by
  unfold start
  rw [withRuntime_eq, get_bind_eq, runtime?_held, found]
  dsimp only
  rw [inspected, if_pos rfl]

end ScriptHost.Startup
