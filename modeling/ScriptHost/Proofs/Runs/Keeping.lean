import Mathlib.Order.Defs.Unbundled
import ScriptHost.World

/-!
# What calls keep

A preorder between the states before and after a call can be followed through a
program: it is kept by a program whose parts keep it.  A program that stops in
the middle, because a part of it fails, keeps it too.

Some relations hold only between the start of an action and an end that it comes
to by itself.  No script goes on after an action that was cut off, so they can be
followed in the same way, and both are done at once: `Ends cut R` says of all
ends that they are related to the start, and of cut ones only if `cut` holds.
-/

namespace ScriptHost

variable {s ε α β : Type}

/-! ## How calls go on -/

theorem bind_of_ok {x : ExceptT ε (StateM s) α} {f : α → ExceptT ε (StateM s) β}
    {state after : s} {value : α} (ended : x state = (.ok value, after)) :
    (x >>= f) state = f value after := by
  simp only [bind, ExceptT.bind, ExceptT.mk, StateT.bind, ended, ExceptT.bindCont]

theorem bind_of_error {x : ExceptT ε (StateM s) α} {f : α → ExceptT ε (StateM s) β}
    {state after : s} {cause : ε} (ended : x state = (.error cause, after)) :
    (x >>= f) state = (.error cause, after) := by
  simp only [bind, ExceptT.bind, ExceptT.mk, StateT.bind, ended, ExceptT.bindCont]
  rfl

/-- Calls one after another come to a value just if each of them does. -/
theorem bind_eq_ok_iff {x : ExceptT ε (StateM s) α} {f : α → ExceptT ε (StateM s) β}
    {state after : s} {value : β} :
    (x >>= f) state = (.ok value, after) ↔
      ∃ first middle, x state = (.ok first, middle) ∧ f first middle = (.ok value, after) := by
  constructor
  · intro ended
    rcases first : x state with ⟨cause | value', middle⟩
    · rw [bind_of_error first] at ended
      cases ended
    · rw [bind_of_ok first] at ended
      exact ⟨value', middle, rfl, ended⟩
  · rintro ⟨value', middle, first, ended⟩
    rw [bind_of_ok first]
    exact ended

/-- Calls one after another fail just if one of them does. -/
theorem bind_eq_error_iff {x : ExceptT ε (StateM s) α} {f : α → ExceptT ε (StateM s) β}
    {state after : s} {cause : ε} :
    (x >>= f) state = (.error cause, after) ↔
      x state = (.error cause, after) ∨
        ∃ first middle, x state = (.ok first, middle) ∧
          f first middle = (.error cause, after) := by
  constructor
  · intro ended
    rcases first : x state with ⟨cause' | value, middle⟩
    · rw [bind_of_error first] at ended
      cases ended
      exact .inl rfl
    · rw [bind_of_ok first] at ended
      exact .inr ⟨value, middle, rfl, ended⟩
  · rintro (failed | ⟨value, middle, first, ended⟩)
    · exact bind_of_error failed
    · rw [bind_of_ok first]
      exact ended

theorem get_bind_eq (f : s → ExceptT ε (StateM s) α) (state : s) :
    (get >>= f) state = f state state :=
  bind_of_ok rfl

theorem set_bind_eq (f : PUnit → ExceptT ε (StateM s) α) (next state : s) :
    (set next >>= f) state = f ⟨⟩ next :=
  bind_of_ok rfl

theorem modify_eq (f : s → s) (state : s) :
    (modify f : ExceptT ε (StateM s) PUnit) state = (.ok ⟨⟩, f state) := rfl

theorem map_world (f : α → β) (x : ExceptT ε (StateM s) α) (state : s) :
    ((f <$> x) state).2 = (x state).2 := by
  rw [map_eq_pure_bind]
  rcases ended : x state with ⟨_ | _, after⟩
  · rw [bind_of_error ended]
  · rw [bind_of_ok ended]
    rfl

/-! ## Attempts -/

instance decidableEqExcept {ε α : Type} [DecidableEq ε] [DecidableEq α] : DecidableEq (Except ε α)
  | .ok value, .ok value' => decidable_of_iff (value = value') ⟨congrArg Except.ok, Except.ok.inj⟩
  | .error cause, .error cause' =>
      decidable_of_iff (cause = cause') ⟨congrArg Except.error, Except.error.inj⟩
  | .ok _, .error _ => isFalse nofun
  | .error _, .ok _ => isFalse nofun

section Attempts

open World

variable {σ : Type} {action : Action σ α} {world after : World σ}

theorem World.ofExcept_world (outcome : Except Error α) (world : World σ) :
    ((ofExcept outcome : Action σ α) world).2 = world := by
  cases outcome with
  | ok value => rfl
  | error error => rfl

theorem attempt_world (action : Action σ α) (world : World σ) :
    (attempt action world).2 = (action world).2 := by
  unfold attempt
  split
  next ended => rw [ended]
  next ended => rw [ended]
  next ended => rw [ended]

theorem world_of_attempt {outcome : Except Failure (Except Error α)}
    (ended : attempt action world = (outcome, after)) : (action world).2 = after := by
  rw [← attempt_world, ended]

/-- An attempt has the outcome with which the action came back. -/
theorem attempt_eq_ok_iff {outcome : Except Error α} :
    attempt action world = (.ok outcome, after) ↔
      action world = (ofExcept outcome : Action σ α) after := by
  constructor
  · intro ended
    unfold attempt at ended
    split at ended
    next ran => cases ended; exact ran
    next ran => cases ended; exact ran
    next => cases ended
  · intro ran
    unfold attempt
    cases outcome <;> rw [ran] <;> rfl

/-- An attempt fails only where the action was cut off. -/
theorem attempt_eq_error_iff {failure : Failure} :
    attempt action world = (.error failure, after) ↔
      failure = .exhausted ∧ action world = (.error .exhausted, after) := by
  constructor
  · intro ended
    unfold attempt at ended
    split at ended
    next => cases ended
    next => cases ended
    next ran => cases ended; exact ⟨rfl, ran⟩
  · rintro ⟨rfl, ran⟩
    unfold attempt
    rw [ran]

end Attempts

/-! ## Relations between start and end -/

/-- Wherever a call starts, its start and its end are related. -/
def Keeps (R : s → s → Prop) (call : s → α × s) : Prop :=
  ∀ state, R state (call state).2

namespace Keeps

variable {R : s → s → Prop}

theorem mono {S : s → s → Prop} {call : s → α × s} (weaker : ∀ a b, R a b → S a b)
    (keeps : Keeps R call) : Keeps S call := by
  intro state
  exact weaker _ _ (keeps state)

protected theorem ite {condition : Prop} [Decidable condition] {x y : s → α × s}
    (yes : Keeps R x) (no : Keeps R y) : Keeps R (if condition then x else y) := by
  split
  · exact yes
  · exact no

variable [IsPreorder s R]

/-- A call that leaves every state alone. -/
theorem still {call : s → α × s} (same : ∀ state, (call state).2 = state) : Keeps R call := by
  intro state
  rw [same state]
  exact refl_of R state

/-! ## Calls that can fail -/

protected theorem pure (value : α) : Keeps R (pure value : ExceptT ε (StateM s) α) :=
  still fun _ => rfl

protected theorem throw (cause : ε) : Keeps R (throw cause : ExceptT ε (StateM s) α) :=
  still fun _ => rfl

protected theorem get : Keeps R (get : ExceptT ε (StateM s) s) :=
  still fun _ => rfl

/-- A call after which another follows, from a state on. -/
theorem bind_from {x : ExceptT ε (StateM s) α} {f : α → ExceptT ε (StateM s) β} {state : s}
    (first : R state (x state).2)
    (rest : ∀ value after, x state = (.ok value, after) → R after (f value after).2) :
    R state ((x >>= f) state).2 := by
  rcases ended : x state with ⟨answer, after⟩
  rw [ended] at first
  cases answer with
  | ok value =>
      rw [bind_of_ok ended]
      exact trans_of R first (rest value after ended)
  | error cause =>
      rw [bind_of_error ended]
      exact first

omit [IsPreorder s R] in
/-- A call that goes on with the state that it finds. -/
theorem get_bind {f : s → ExceptT ε (StateM s) α} (rest : ∀ state, R state (f state state).2) :
    Keeps R (get >>= f) := by
  intro state
  rw [get_bind_eq]
  exact rest state

/-- A call that starts by leaving another state behind. -/
theorem set_bind {f : PUnit → ExceptT ε (StateM s) α} {state next : s} (first : R state next)
    (rest : R next (f ⟨⟩ next).2) : R state ((set next >>= f) state).2 := by
  rw [set_bind_eq]
  exact trans_of R first rest

protected theorem bind {x : ExceptT ε (StateM s) α} {f : α → ExceptT ε (StateM s) β}
    (first : Keeps R x) (rest : ∀ value, Keeps R (f value)) : Keeps R (x >>= f) := by
  intro state
  exact bind_from (first state) fun value after _ => rest value after

protected theorem forM {f : α → ExceptT ε (StateM s) PUnit} (keeps : ∀ value, Keeps R (f value))
    (values : List α) : Keeps R (values.forM f) := by
  induction values with
  | nil => exact .pure ()
  | cons value rest ih => exact (keeps value).bind fun _ => ih

/-! ## Calls that cannot fail -/

theorem bind_state {x : StateM s α} {f : α → StateM s β} (first : Keeps R x)
    (rest : ∀ value, Keeps R (f value)) : Keeps R (x >>= f) := by
  intro state
  exact trans_of R (first state) (rest (x state).1 (x state).2)

theorem forM_state {f : α → StateM s PUnit} (keeps : ∀ value, Keeps R (f value))
    (values : List α) : Keeps R (values.forM f) := by
  induction values with
  | nil => exact still fun _ => rfl
  | cons value rest ih => exact (keeps value).bind_state fun _ => ih

theorem mapM_state {f : α → StateM s β} (keeps : ∀ value, Keeps R (f value))
    (values : List α) : Keeps R (values.mapM f) := by
  induction values with
  | nil =>
      rw [List.mapM_nil]
      exact still fun _ => rfl
  | cons value rest ih =>
      rw [List.mapM_cons]
      exact (keeps value).bind_state fun _ => ih.bind_state fun _ => still fun _ => rfl

end Keeps

/-! ## Actions -/

namespace Keeps

open World

variable {σ : Type} {R : World σ → World σ → Prop}

protected theorem attempt {action : Action σ α} (keeps : Keeps R action) :
    Keeps R (attempt action) := by
  intro world
  have kept := keeps world
  unfold attempt
  split
  next ended => rw [ended] at kept; exact kept
  next ended => rw [ended] at kept; exact kept
  next ended => rw [ended] at kept; exact kept

/-- What an action keeps relates its start to the world in which it has come back. -/
theorem of_returned {action : Action σ α} {outcome : Except Error α} {world after : World σ}
    (keeps : Keeps R action) (returned : action world = (ofExcept outcome : Action σ α) after) :
    R world after := by
  have kept := keeps world
  rwa [returned, ofExcept_world] at kept

variable [IsPreorder (World σ) R]

protected theorem raise (error : Error) : Keeps R (raise error : Action σ α) :=
  still fun _ => rfl

protected theorem ofExcept (outcome : Except Error α) : Keeps R (ofExcept outcome) := by
  cases outcome with
  | ok value => exact .pure value
  | error error => exact .raise error

protected theorem readText (path : Path) : Keeps R (readText path : Action σ String) := by
  refine Keeps.get.bind fun world => ?_
  cases world.disk.readText path with
  | ok text => exact .pure text
  | error cause => exact .raise _

end Keeps

/-! ## Ends that count -/

section Ends

open World

variable {σ : Type} {R : World σ → World σ → Prop} {cut : Prop}

/-- Wherever an action starts, its start and its end are related; where it was cut off for
want of fuel or steps, only if `cut` says so. -/
def Ends (cut : Prop) (R : World σ → World σ → Prop) (action : Action σ α) : Prop :=
  ∀ world, ((action world).1 = .error .exhausted → cut) → R world (action world).2

theorem Keeps.ends {action : Action σ α} (keeps : Keeps R action) : Ends cut R action :=
  fun world _ => keeps world

theorem ends_true_iff {action : Action σ α} : Ends True R action ↔ Keeps R action :=
  ⟨fun ends world => ends world fun _ => trivial, Keeps.ends⟩

namespace Ends

theorem attempt {action : Action σ α} (ends : Ends cut R action) :
    Ends cut R (attempt action) := by
  intro world counts
  have kept := ends world
  revert counts
  unfold World.attempt
  rcases ended : action world with ⟨(_ | _) | _, after⟩ <;> rw [ended] at kept
  · exact fun _ => kept fun impossible => nomatch impossible
  · exact fun counts => kept fun _ => counts rfl
  · exact fun _ => kept fun impossible => nomatch impossible

protected theorem ite {condition : Prop} [Decidable condition] {x y : Action σ α}
    (yes : Ends cut R x) (no : Ends cut R y) : Ends cut R (if condition then x else y) := by
  split
  · exact yes
  · exact no

variable [IsPreorder (World σ) R]

protected theorem pure (value : α) : Ends cut R (pure value : Action σ α) :=
  (Keeps.pure value).ends

protected theorem throw (cause : Failure) : Ends cut R (throw cause : Action σ α) :=
  (Keeps.throw cause).ends

protected theorem raise (error : Error) : Ends cut R (raise error : Action σ α) :=
  (Keeps.raise error).ends

protected theorem ofExcept (outcome : Except Error α) : Ends cut R (ofExcept outcome) :=
  (Keeps.ofExcept outcome).ends

protected theorem get : Ends cut R (get : Action σ (World σ)) :=
  Keeps.get.ends

/-- An action after which another follows, from a world on. -/
theorem bind_from {x : Action σ α} {f : α → Action σ β} {world : World σ}
    (first : ((x world).1 = .error .exhausted → cut) → R world (x world).2)
    (rest : ∀ value, Ends cut R (f value)) (counts : ((x >>= f) world).1 = .error .exhausted → cut) :
    R world ((x >>= f) world).2 := by
  rcases ended : x world with ⟨cause | value, after⟩ <;> rw [ended] at first
  · rw [bind_of_error ended] at counts ⊢
    refine first fun exhausted => ?_
    cases exhausted
    exact counts rfl
  · rw [bind_of_ok ended] at counts ⊢
    exact trans_of R (first fun impossible => nomatch impossible) (rest value after counts)

protected theorem bind {x : Action σ α} {f : α → Action σ β} (first : Ends cut R x)
    (rest : ∀ value, Ends cut R (f value)) : Ends cut R (x >>= f) :=
  fun world => bind_from (first world) rest

omit [IsPreorder (World σ) R] in
/-- An action that goes on with the world that it finds. -/
theorem get_bind {f : World σ → Action σ α}
    (rest : ∀ world, ((f world world).1 = .error .exhausted → cut) → R world (f world world).2) :
    Ends cut R (get >>= f) := by
  intro world
  rw [get_bind_eq]
  exact rest world

protected theorem map {x : Action σ α} (f : α → β) (ends : Ends cut R x) :
    Ends cut R (f <$> x) := by
  rw [map_eq_pure_bind]
  exact ends.bind fun value => .pure (f value)

end Ends

end Ends

end ScriptHost
