import ScriptHost.Proofs.Loop.Ownership
import ScriptHost.Proofs.Runs.Indifference

/-!
# Reactors side by side

As long as nobody else closes or drives what a loop or a timer owns, every reactor
of a world stays sound: no two of them own the same descriptor, and whatever one of
them does spares what the others own.
-/

namespace ScriptHost

open World Kernel

variable {σ α : Type} {part : Part}

/-- The handler that was started belongs to the registration that was in force when the event
was reported, unless the loop has been asked for too many registrations to tell. -/
def Delivery.ReachesOwner (delivery : Delivery) : Prop :=
  delivery.asked ≤ 2 ^ 32 →
    delivery.reported = some delivery.serial ∧ delivery.current = some delivery.serial

namespace World

/-- Nothing that a loop or a timer owns was closed or driven by others. -/
def Unseized (world : World σ) : Prop :=
  ∀ fd, .seized fd ∉ world.journal.toList

/-- What holds of the reactors of a world, and of the handlers that were started. -/
structure Sound (world : World σ) : Prop where
  numbered : world.kernel.Numbered
  fresh : ∀ id reactor, world.reactor? id = some reactor → id < world.fresh
  reactors : ∀ id reactor, world.reactor? id = some reactor → reactor.Sound world.kernel
  apart : ∀ id id' reactor reactor', id ≠ id' → world.reactor? id = some reactor →
    world.reactor? id' = some reactor' → ∀ fd, reactor.owns fd = true → reactor'.owns fd = false
  deliveries : ∀ delivery, .handling delivery ∈ world.journal.toList → delivery.ReachesOwner

/-- For every loop, the kernel watches what is registered. -/
def Mirrored (world : World σ) : Prop :=
  ∀ id reactor, world.reactor? id = some reactor → reactor.loop.Mirrors world.kernel

/-- A reactor that is there was there before, unless it is new, and has grown since. -/
structure Later (before after : World σ) : Prop where
  fresh : before.fresh ≤ after.fresh
  reactors : ∀ id later, id < before.fresh → after.reactor? id = some later →
    ∃ reactor, before.reactor? id = some reactor ∧ reactor.Grown later

/-- The earlier history is the beginning of the later one. -/
def Recalls (before after : World σ) : Prop :=
  before.journal.toList <+: after.journal.toList

/-- What runs keep of the reactors. -/
structure Orderly (before after : World σ) : Prop where
  recalls : Recalls before after
  kept : after.Unseized → before.Sound → after.Sound ∧ Later before after
  mirrors : after.Unseized → before.Sound → before.Mirrored → after.Mirrored

instance : IsPreorder (World σ) Recalls where
  refl _ := List.prefix_rfl
  trans _ _ _ first second := List.IsPrefix.trans first second

instance : IsPreorder (World σ) Later where
  refl _ := ⟨Nat.le_refl _, fun _ later _ found => ⟨later, found, refl_of Reactor.Grown later⟩⟩
  trans _ _ _ first second := by
    refine ⟨Nat.le_trans first.fresh second.fresh, fun id later old found => ?_⟩
    rcases second.reactors id later (Nat.lt_of_lt_of_le old first.fresh) found with
      ⟨middle, found', grown'⟩
    rcases first.reactors id middle old found' with ⟨reactor, found'', grown⟩
    exact ⟨reactor, found'', trans_of Reactor.Grown grown grown'⟩

theorem Unseized.earlier {before after : World σ} (unseized : after.Unseized)
    (recalls : Recalls before after) : before.Unseized :=
  fun fd member => unseized fd (recalls.subset member)

instance : IsPreorder (World σ) Orderly where
  refl world :=
    ⟨refl_of Recalls world, fun _ sound => ⟨sound, refl_of Later world⟩, fun _ _ mirrored => mirrored⟩
  trans _ _ _ first second := by
    refine ⟨trans_of Recalls first.recalls second.recalls, fun unseized sound => ?_,
      fun unseized sound mirrored => ?_⟩
    · rcases first.kept (unseized.earlier second.recalls) sound with ⟨middle, later⟩
      rcases second.kept unseized middle with ⟨sound, later'⟩
      exact ⟨sound, trans_of Later later later'⟩
    · have earlier := unseized.earlier second.recalls
      exact second.mirrors unseized (first.kept earlier sound).1 (first.mirrors earlier sound mirrored)

/-- Only sound worlds need to be looked at. -/
theorem Orderly.of_sound {before after : World σ} (recalls : Recalls before after)
    (orderly : after.Unseized → before.Sound → Orderly before after) : Orderly before after :=
  ⟨recalls, fun unseized sound => (orderly unseized sound).kept unseized sound,
    fun unseized sound => (orderly unseized sound).mirrors unseized sound⟩

theorem recalls_of_changes (before after : World σ) (changes : Changes part before after) :
    Recalls before after := by
  rcases changes.journal with ⟨news, grown, _⟩
  exact ⟨news, grown.symm⟩

/-! ## Changes elsewhere -/

theorem reactor?_congr {before after : World σ} (same : after.reactors = before.reactors)
    (id : Nat) : after.reactor? id = before.reactor? id := by
  rw [reactor?, reactor?, same]

theorem later_of_same {before after : World σ} (fresh : before.fresh ≤ after.fresh)
    (reactors : ∀ id, after.reactor? id = before.reactor? id) : Later before after := by
  refine ⟨fresh, fun id later _ found => ?_⟩
  rw [reactors] at found
  exact ⟨later, found, refl_of Reactor.Grown later⟩

/-- A world with the same reactors over the same kernel. -/
theorem Sound.of_same {before after : World σ} (sound : before.Sound)
    (fresh : before.fresh ≤ after.fresh) (kernel : after.kernel = before.kernel)
    (reactors : ∀ id, after.reactor? id = before.reactor? id)
    (deliveries : ∀ delivery, .handling delivery ∈ after.journal.toList →
      delivery.ReachesOwner) : after.Sound ∧ Later before after := by
  refine ⟨?_, later_of_same fresh reactors⟩
  constructor
  case numbered =>
      rw [kernel]
      exact sound.numbered
  case fresh =>
      intro id reactor found
      rw [reactors] at found
      exact Nat.lt_of_lt_of_le (sound.fresh id reactor found) fresh
  case reactors =>
      intro id reactor found
      rw [reactors] at found
      rw [kernel]
      exact sound.reactors id reactor found
  case apart =>
      intro id id' reactor reactor' different found found'
      rw [reactors] at found found'
      exact sound.apart id id' reactor reactor' different found found'
  case deliveries => exact deliveries

theorem Mirrored.of_same {before after : World σ} (mirrored : before.Mirrored)
    (kernel : after.kernel = before.kernel)
    (reactors : ∀ id, after.reactor? id = before.reactor? id) : after.Mirrored := by
  intro id reactor found
  rw [reactors] at found
  rw [kernel]
  exact mirrored id reactor found

theorem orderly_of_changes (other : part ≠ .loops) (before after : World σ)
    (changes : Changes part before after) : Orderly before after := by
  rcases changes.loops other with ⟨kernel, reactors⟩
  refine ⟨recalls_of_changes before after changes, fun _ sound => ?_,
    fun _ _ mirrored => mirrored.of_same kernel (reactor?_congr reactors)⟩
  refine sound.of_same changes.fresh kernel (reactor?_congr reactors) fun delivery member => ?_
  rcases changes.journal with ⟨news, grown, about⟩
  rw [grown] at member
  rcases List.mem_append.mp member with old | new
  · exact sound.deliveries delivery old
  · rcases about _ new with same | rest
    · exact absurd same.symm other
    · cases rest

theorem journal_tell (event : Event) (world : World σ) :
    (tell event world).2.journal.toList = world.journal.toList ++ [event] :=
  Array.toList_push

theorem mem_of_tell (event : Event) (world : World σ) :
    event ∈ (tell event world).2.journal.toList := by
  rw [journal_tell]
  exact List.mem_append_right _ (List.mem_singleton.mpr rfl)

theorem tell_bind_eq (event : Event) (f : Unit → Action σ α) (world : World σ) :
    (tell event >>= f) world = f () (tell event world).2 :=
  bind_of_ok rfl

/-- An event that starts a handler only for its owner. -/
theorem orderly_tell (event : Event)
    (direct : ∀ delivery, event = .handling delivery → delivery.ReachesOwner) :
    Keeps Orderly (tell event : Action σ Unit) := by
  intro world
  refine ⟨⟨[event], (journal_tell event world).symm⟩, fun _ sound => ?_,
    fun _ _ mirrored => mirrored.of_same rfl fun _ => rfl⟩
  refine sound.of_same (Nat.le_refl _) rfl (fun _ => rfl) fun delivery member => ?_
  rw [journal_tell] at member
  rcases List.mem_append.mp member with old | new
  · exact sound.deliveries delivery old
  · exact direct delivery (List.mem_singleton.mp new).symm

/-! ## The kernel -/

/-- A kernel that spares whatever the reactors own. -/
theorem Sound.spared {world : World σ} {kernel : Kernel} {touched : Descriptor → Prop}
    (sound : world.Sound) (spares : Spares touched world.kernel kernel)
    (untouched : ∀ fd, touched fd → ∀ id reactor, world.reactor? id = some reactor →
      reactor.owns fd = false) : ({ world with kernel } : World σ).Sound where
  numbered := spares.numbered sound.numbered
  fresh := sound.fresh
  reactors id reactor found :=
    (sound.reactors id reactor found).spared spares fun fd here => untouched fd here id reactor found
  apart := sound.apart
  deliveries := sound.deliveries

theorem orderly_kernel {world : World σ} {kernel : Kernel} {touched : Descriptor → Prop}
    (spares : Spares touched world.kernel kernel)
    (untouched : ∀ fd, touched fd → ∀ id reactor, world.reactor? id = some reactor →
      reactor.owns fd = false) : Orderly world { world with kernel } :=
  ⟨List.prefix_rfl,
    fun _ sound => ⟨sound.spared spares untouched, later_of_same (Nat.le_refl _) fun _ => rfl⟩,
    fun _ _ mirrored id reactor found => Reactor.mirrors_spared (mirrored id reactor found) spares
      fun fd here => untouched fd here id reactor found⟩

/-- A kernel in which nothing was closed. -/
theorem orderly_kernel_of {world : World σ} {kernel : Kernel}
    (spares : Spares (fun _ => False) world.kernel kernel) : Orderly world { world with kernel } :=
  orderly_kernel spares fun _ impossible => absurd impossible id

theorem system_eq (call : SystemCall α) (world : World σ) :
    system call world =
      (ofExcept ((call world.kernel).1.mapError Error.system) : Action σ α)
        { world with kernel := (call world.kernel).2 } := by
  have called : (onKernel fun kernel => call kernel : Action σ _) world =
      (.ok (call world.kernel).1, { world with kernel := (call world.kernel).2 }) := rfl
  unfold system
  rw [bind_of_ok called]
  cases (call world.kernel).1 with
  | ok value => rfl
  | error cause => rfl

theorem system_world (call : SystemCall α) (world : World σ) :
    (system call world).2 = { world with kernel := (call world.kernel).2 } := by
  rw [system_eq, ofExcept_world]

theorem system_of_ok {call : SystemCall α} {world : World σ} {value : α} {kernel : Kernel}
    (ended : call world.kernel = (.ok value, kernel)) :
    system call world = (.ok value, { world with kernel }) := by
  rw [system_eq, ended]
  rfl

theorem system_of_error {call : SystemCall α} {world : World σ} {cause : SystemError}
    {kernel : Kernel} (ended : call world.kernel = (.error cause, kernel)) :
    system call world = (.error (.raised (.system cause)), { world with kernel }) := by
  rw [system_eq, ended]
  rfl

theorem orderly_system {call : SystemCall α} (still : Keeps Still call) :
    Keeps Orderly (system call : Action σ α) := by
  intro world
  rw [system_world]
  exact orderly_kernel_of (still world.kernel).spares

/-! ## One of the reactors -/

/-- The world with another state of a reactor and of the kernel. -/
def settled (world : World σ) (id : Nat) (state : Kernel × Reactor (Handler σ)) : World σ :=
  { world with
    kernel := state.1
    reactors := world.reactors.modify id (Shared.map fun _ => state.2) }

theorem reactor?_modify (world : World σ) (id other : Nat)
    (change : Reactor (Handler σ) → Reactor (Handler σ)) :
    Shared.value? (world.reactors.modify id (Shared.map change)) other =
      if id = other then (world.reactor? other).map change else world.reactor? other := by
  rw [reactor?, Shared.value?, Shared.value?, Table.get?_modify]
  split
  · rw [Option.map_map, Option.map_map]
    rfl
  · rfl

theorem reactor?_settled {world : World σ} {id : Nat} {reactor : Reactor (Handler σ)}
    (found : world.reactor? id = some reactor) (state : Kernel × Reactor (Handler σ)) (other : Nat) :
    (world.settled id state).reactor? other =
      if id = other then some state.2 else world.reactor? other := by
  have view := reactor?_modify world id other fun _ => state.2
  rw [reactor?, settled, view]
  split
  next same =>
      subst same
      rw [found]
      rfl
  next => rfl

theorem Sound.settled {world : World σ} {id : Nat} {reactor : Reactor (Handler σ)}
    {state : Kernel × Reactor (Handler σ)} (sound : world.Sound)
    (found : world.reactor? id = some reactor) (again : state.2.Sound state.1)
    (spares : Spares (fun fd => reactor.owns fd = true) world.kernel state.1)
    (owned : ∀ fd, state.2.owns fd = true →
      reactor.owns fd = true ∨ world.kernel.opening? fd = none) :
    (world.settled id state).Sound := by
  have others {other : Nat} {reactor' : Reactor (Handler σ)} (different : id ≠ other)
      (found' : world.reactor? other = some reactor') (fd : Descriptor)
      (owns : state.2.owns fd = true) : reactor'.owns fd = false := by
    rcases owned fd owns with before | closed
    · exact sound.apart id other reactor reactor' different found found' fd before
    · exact (sound.reactors other reactor' found').not_owns closed
  constructor
  case numbered => exact spares.numbered sound.numbered
  case fresh =>
      intro other reactor' found'
      rw [reactor?_settled found] at found'
      split at found'
      next same =>
          subst same
          exact sound.fresh id reactor found
      next => exact sound.fresh other reactor' found'
  case reactors =>
      intro other reactor' found'
      rw [reactor?_settled found] at found'
      split at found'
      next same =>
          subst same
          rw [← Option.some.inj found']
          exact again
      next different =>
          exact (sound.reactors other reactor' found').spared spares
            (sound.apart id other reactor reactor' different found found')
  case apart =>
      intro first second reactor₁ reactor₂ different found₁ found₂ fd owns
      rw [reactor?_settled found] at found₁ found₂
      split at found₁
      next same =>
          subst same
          rw [if_neg different] at found₂
          rw [← Option.some.inj found₁] at owns
          exact others different found₂ fd owns
      next away =>
          split at found₂
          next same =>
              subst same
              rw [← Option.some.inj found₂]
              apply Bool.eq_false_iff.mpr
              intro owns'
              have apart := others away found₁ fd owns'
              rw [owns] at apart
              cases apart
          next => exact sound.apart first second reactor₁ reactor₂ different found₁ found₂ fd owns
  case deliveries => exact sound.deliveries

theorem Mirrored.settled {world : World σ} {id : Nat} {reactor : Reactor (Handler σ)}
    {state : Kernel × Reactor (Handler σ)} (mirrored : world.Mirrored) (sound : world.Sound)
    (found : world.reactor? id = some reactor) (again : state.2.loop.Mirrors state.1)
    (spares : Spares (fun fd => reactor.owns fd = true) world.kernel state.1) :
    (world.settled id state).Mirrored := by
  intro other reactor' found'
  rw [reactor?_settled found] at found'
  split at found'
  next same =>
      rw [← Option.some.inj found']
      exact again
  next different =>
      exact Reactor.mirrors_spared (mirrored other reactor' found') spares
        (sound.apart id other reactor reactor' different found found')

theorem orderly_settled {world : World σ} {id : Nat} {reactor : Reactor (Handler σ)}
    {state : Kernel × Reactor (Handler σ)} (found : world.reactor? id = some reactor)
    (kept : world.Sound → Reactor.Kept (world.kernel, reactor) state) :
    Orderly world (world.settled id state) := by
  refine ⟨List.prefix_rfl, fun _ sound => ⟨?_, Nat.le_refl _, fun other later _ found' => ?_⟩,
    fun _ sound mirrored => mirrored.settled sound found ((kept sound).mirrors (mirrored id reactor found))
      (kept sound).spares⟩
  · exact sound.settled found (kept sound).sound (kept sound).spares (kept sound).owned
  rw [reactor?_settled found] at found'
  split at found'
  next same =>
      subst same
      rw [← Option.some.inj found']
      exact ⟨reactor, found, (kept sound).grown⟩
  next => exact ⟨later, found', refl_of Reactor.Grown later⟩

theorem onReactor_of_none {world : World σ} {id : Nat} (call : ReactorCall (Handler σ) α)
    (gone : world.reactor? id = none) :
    onReactor id call world = (.error (.raised (.config "the loop is gone")), world) := by
  unfold onReactor
  rw [get_bind_eq, gone]
  rfl

theorem onReactor_of_some {world : World σ} {id : Nat} {reactor : Reactor (Handler σ)}
    (call : ReactorCall (Handler σ) α) (found : world.reactor? id = some reactor) :
    onReactor id call world =
      (ofExcept (call (world.kernel, reactor)).1 : Action σ α)
        (world.settled id (call (world.kernel, reactor)).2) := by
  unfold onReactor
  rw [get_bind_eq, found]
  rcases ended : call (world.kernel, reactor) with ⟨answer, kernel, later⟩
  dsimp only
  rw [ended]
  exact set_bind_eq _ _ world

/-- A call on a reactor leaves the world alone where the reactor is gone, and otherwise settles the
reactor in it. -/
theorem onReactor_outcome (id : Nat) (call : ReactorCall (Handler σ) α) (world : World σ) :
    (onReactor id call world).2 = world ∨
      ∃ reactor, world.reactor? id = some reactor ∧
        (onReactor id call world).2 = world.settled id (call (world.kernel, reactor)).2 := by
  cases found : world.reactor? id with
  | none =>
      rw [onReactor_of_none call found]
      exact .inl rfl
  | some reactor =>
      rw [onReactor_of_some call found, ofExcept_world]
      exact .inr ⟨reactor, rfl, rfl⟩

theorem orderly_onReactor (id : Nat) {call : ReactorCall (Handler σ) α}
    (upholds : Keeps Reactor.Upholds call) : Keeps Orderly (onReactor id call) := by
  intro world
  rcases onReactor_outcome id call world with same | ⟨reactor, found, same⟩ <;> rw [same]
  · exact refl_of Orderly world
  · exact orderly_settled found fun sound => upholds _ (sound.reactors id reactor found)

theorem changeLoop_bind_eq (id : Nat) (f : EventLoop (Handler σ) → EventLoop (Handler σ))
    (g : Unit → Action σ α) (world : World σ) :
    (changeLoop id f >>= g) world = g () (changeLoop id f world).2 :=
  bind_of_ok rfl

theorem changeLoop_of_none {world : World σ} {id : Nat}
    (f : EventLoop (Handler σ) → EventLoop (Handler σ)) (gone : world.reactor? id = none) :
    (changeLoop id f world).2 = world := by
  have absent : world.reactors.get? id = none := Option.map_eq_none_iff.mp gone
  change { world with reactors := world.reactors.modify id _ } = world
  rw [Table.modify, absent]

/-- Another state of a reactor that is there is a change of it. -/
theorem settled_eq {world : World σ} {id : Nat} {reactor : Reactor (Handler σ)}
    (found : world.reactor? id = some reactor) (kernel : Kernel)
    (change : Reactor (Handler σ) → Reactor (Handler σ)) :
    world.settled id (kernel, change reactor) =
      { world with kernel, reactors := world.reactors.modify id (Shared.map change) } := by
  rcases Option.map_eq_some_iff.mp found with ⟨shared, present, rfl⟩
  rw [settled, Table.modify, Table.modify, present]
  rfl

theorem changeLoop_of_some {world : World σ} {id : Nat} {reactor : Reactor (Handler σ)}
    (f : EventLoop (Handler σ) → EventLoop (Handler σ)) (found : world.reactor? id = some reactor) :
    (changeLoop id f world).2 =
      world.settled id (world.kernel, { reactor with loop := f reactor.loop }) :=
  (settled_eq found world.kernel fun reactor => { reactor with loop := f reactor.loop }).symm

/-- A change of a loop leaves the world alone where the loop is gone. -/
theorem changeLoop_outcome (id : Nat) (f : EventLoop (Handler σ) → EventLoop (Handler σ))
    (world : World σ) :
    (changeLoop id f world).2 = world ∨
      ∃ reactor, world.reactor? id = some reactor ∧
        (changeLoop id f world).2 =
          world.settled id (world.kernel, { reactor with loop := f reactor.loop }) := by
  cases found : world.reactor? id with
  | none => exact .inl (changeLoop_of_none f found)
  | some reactor => exact .inr ⟨reactor, rfl, changeLoop_of_some f found⟩

theorem orderly_changeLoop {world : World σ} {id : Nat}
    {f : EventLoop (Handler σ) → EventLoop (Handler σ)}
    (kept : ∀ reactor, world.reactor? id = some reactor → reactor.Sound world.kernel →
      Reactor.Kept (world.kernel, reactor) (world.kernel, { reactor with loop := f reactor.loop })) :
    Orderly world (changeLoop id f world).2 := by
  rcases changeLoop_outcome id f world with same | ⟨reactor, found, same⟩ <;> rw [same]
  · exact refl_of Orderly world
  · exact orderly_settled found fun sound => kept reactor found (sound.reactors id reactor found)

/-! ## Coming and going -/

theorem orderly_holdReactor (id : Nat) : Keeps Orderly (holdReactor id : Action σ Unit) := by
  intro world
  have view (other : Nat) : (holdReactor id world).2.reactor? other = world.reactor? other :=
    Shared.value?_hold world.reactors id other
  exact ⟨List.prefix_rfl,
    fun _ sound => sound.of_same (Nat.le_refl _) rfl view sound.deliveries,
    fun _ _ mirrored => mirrored.of_same rfl view⟩

theorem reactor?_releaseReactor {world : World σ} {id other : Nat} {reactor : Reactor (Handler σ)}
    (found : (releaseReactor id world).2.reactor? other = some reactor) :
    world.reactor? other = some reactor ∧
      ((Shared.letGo world.reactors id).1.isSome → id ≠ other) := by
  have view : (releaseReactor id world).2.reactor? other = _ :=
    Shared.value?_letGo world.reactors id other
  rw [view] at found
  split at found
  next => cases found
  next stays => exact ⟨found, fun gone same => stays ⟨same, gone⟩⟩

theorem kernel_releaseReactor_of_none {world : World σ} {id : Nat}
    (gone : (Shared.letGo world.reactors id).1 = none) :
    (releaseReactor id world).2.kernel = world.kernel := by
  rw [releaseReactor, modify_eq]
  dsimp only
  rw [gone]

theorem kernel_releaseReactor_of_some {world : World σ} {id : Nat} {reactor : Reactor (Handler σ)}
    (gone : (Shared.letGo world.reactors id).1 = some reactor) :
    (releaseReactor id world).2.kernel = reactor.dismantle world.kernel := by
  rw [releaseReactor, modify_eq]
  dsimp only
  rw [gone]

/-- Letting a reactor go spares what those own that are left. -/
theorem spares_releaseReactor (id : Nat) {world : World σ} (sound : world.Sound) :
    ∃ touched, Spares touched world.kernel (releaseReactor id world).2.kernel ∧
      ∀ other reactor, (releaseReactor id world).2.reactor? other = some reactor →
        ∀ fd, touched fd → reactor.owns fd = false := by
  cases gone : (Shared.letGo world.reactors id).1 with
  | none =>
      refine ⟨fun _ => False, ?_, fun _ _ _ _ impossible => impossible.elim⟩
      rw [kernel_releaseReactor_of_none gone]
      exact refl_of (Spares _) world.kernel
  | some reactor =>
      refine ⟨fun fd => reactor.owns fd = true, ?_, fun other left found => ?_⟩
      · rw [kernel_releaseReactor_of_some gone]
        exact Reactor.spares_dismantle world.kernel reactor
      · rcases reactor?_releaseReactor found with ⟨found', different⟩
        rw [gone] at different
        exact sound.apart id other reactor left (different rfl) (Shared.value?_of_letGo gone) found'

theorem orderly_releaseReactor (id : Nat) : Keeps Orderly (releaseReactor id : Action σ Unit) := by
  intro world
  have there {other : Nat} {reactor : Reactor (Handler σ)}
      (found : (releaseReactor id world).2.reactor? other = some reactor) :
      world.reactor? other = some reactor := (reactor?_releaseReactor found).1
  refine ⟨List.prefix_rfl, fun _ sound => ⟨?_, ?_⟩, fun _ sound mirrored => ?_⟩
  · rcases spares_releaseReactor id sound with ⟨touched, spares, untouched⟩
    constructor
    case numbered => exact spares.numbered sound.numbered
    case fresh => exact fun other reactor found => sound.fresh other reactor (there found)
    case reactors =>
        intro other reactor found
        exact (sound.reactors other reactor (there found)).spared spares
          (untouched other reactor found)
    case apart =>
        intro first second reactor₁ reactor₂ different found₁ found₂
        exact sound.apart first second reactor₁ reactor₂ different (there found₁) (there found₂)
    case deliveries => exact sound.deliveries
  · refine ⟨Nat.le_refl _, fun other reactor _ found => ?_⟩
    exact ⟨reactor, there found, refl_of Reactor.Grown reactor⟩
  · rcases spares_releaseReactor id sound with ⟨touched, spares, untouched⟩
    intro other reactor found
    exact Reactor.mirrors_spared (mirrored other reactor (there found)) spares
      (untouched other reactor found)

/-- The world with a new reactor, which has nothing registered. -/
def joined (world : World σ) (kernel : Kernel) (poller : Poller) : World σ :=
  { world with
    kernel
    fresh := world.fresh + 1
    reactors := world.reactors.insert world.fresh (.one (Reactor.blank poller)) }

theorem reactor?_joined (world : World σ) (kernel : Kernel) (poller : Poller) (other : Nat) :
    (world.joined kernel poller).reactor? other =
      if world.fresh = other then some (Reactor.blank poller) else world.reactor? other := by
  rw [reactor?, joined, Shared.value?, Table.get?_insert]
  split <;> rfl

/-- What making a reactor can come to. -/
theorem newReactor_outcome (capacity : Nat) (world : World σ) :
    (∃ kernel, Still world.kernel kernel ∧ (newReactor capacity world).2 = { world with kernel }) ∨
    ∃ kernel fd, Opens world.kernel kernel fd ∧ kernel.WatchesOnly fd (fun _ => False) ∧
      (newReactor capacity world).2 = world.joined kernel ⟨fd, max capacity 1⟩ := by
  unfold newReactor
  rcases made : (Reactor.create capacity : SystemCall (Reactor (Handler σ))) world.kernel with
    ⟨cause | reactor, kernel⟩
  · rw [bind_of_error (system_of_error made)]
    exact .inl ⟨kernel, Reactor.create_of_error made, rfl⟩
  · rw [bind_of_ok (system_of_ok made)]
    rcases Reactor.create_of_ok made with ⟨fd, opens, watches, rfl⟩
    exact .inr ⟨kernel, fd, opens, watches, rfl⟩

/-- A reactor that has been made is new, and has nothing registered. -/
theorem newReactor_of_ok {capacity id : Nat} {world opened : World σ}
    (made : newReactor capacity world = (.ok id, opened)) :
    ∃ kernel fd, Reactor.create capacity world.kernel =
        (.ok (Reactor.blank ⟨fd, max capacity 1⟩ : Reactor (Handler σ)), kernel) ∧
      id = world.fresh ∧ opened = world.joined kernel ⟨fd, max capacity 1⟩ := by
  unfold newReactor at made
  rcases created : (Reactor.create capacity : SystemCall (Reactor (Handler σ))) world.kernel with
    ⟨cause | reactor, kernel⟩
  · cases (bind_of_error (system_of_error created)).symm.trans made
  · cases (bind_of_ok (system_of_ok created)).symm.trans made
    rcases Reactor.create_of_ok created with ⟨fd, _, _, rfl⟩
    exact ⟨kernel, fd, rfl, rfl, rfl⟩

/-- A world with a new reactor that owns nothing but its list. -/
theorem Sound.joined {world : World σ} {kernel : Kernel} {fd : Descriptor} {capacity : Nat}
    (sound : world.Sound) (opens : Opens world.kernel kernel fd)
    (watches : kernel.WatchesOnly fd (fun _ => False)) :
    (world.joined kernel ⟨fd, capacity⟩).Sound := by
  have spares : Spares (fun _ => False) world.kernel kernel := opens.spares
  have view (other : Nat) (reactor : Reactor (Handler σ))
      (found : (world.joined kernel ⟨fd, capacity⟩).reactor? other = some reactor) :
      world.fresh = other ∧ reactor = Reactor.blank ⟨fd, capacity⟩ ∨
        world.reactor? other = some reactor := by
    rw [reactor?_joined] at found
    split at found
    next same => exact .inl ⟨same, (Option.some.inj found).symm⟩
    next => exact .inr found
  have strange {other : Nat} {reactor : Reactor (Handler σ)}
      (found : world.reactor? other = some reactor) : reactor.owns fd = false :=
    (sound.reactors other reactor found).not_owns opens.free
  constructor
  case numbered => exact spares.numbered sound.numbered
  case fresh =>
      intro id reactor found
      rcases view id reactor found with ⟨rfl, _⟩ | old
      · exact Nat.lt_succ_self _
      · exact Nat.lt_succ_of_lt (sound.fresh id reactor old)
  case reactors =>
      intro id reactor found
      rcases view id reactor found with ⟨_, rfl⟩ | old
      · exact Reactor.sound_blank watches
      · exact (sound.reactors id reactor old).spared spares fun _ impossible => impossible.elim
  case apart =>
      intro id id' reactor reactor' different found found' other owned
      rcases view id reactor found with ⟨rfl, rfl⟩ | old <;>
        rcases view id' reactor' found' with ⟨rfl, rfl⟩ | old'
      · exact absurd rfl different
      · rw [← Reactor.owns_blank owned]
        exact strange old'
      · apply Bool.eq_false_iff.mpr
        intro owned'
        rw [← Reactor.owns_blank owned', strange old] at owned
        cases owned
      · exact sound.apart id id' reactor reactor' different old old' other owned
  case deliveries => exact sound.deliveries

theorem Mirrored.joined {world : World σ} {kernel : Kernel} {fd : Descriptor} {capacity : Nat}
    (mirrored : world.Mirrored) (numbered : world.kernel.Numbered)
    (opens : Opens world.kernel kernel fd) (watches : kernel.WatchesOnly fd (fun _ => False)) :
    (world.joined kernel ⟨fd, capacity⟩).Mirrored := by
  have spares : Spares (fun _ => False) world.kernel kernel := opens.spares
  intro other reactor found
  rw [reactor?_joined] at found
  split at found
  next =>
      rw [← Option.some.inj found]
      exact Reactor.mirrors_blank (spares.numbered numbered) watches
  next =>
      exact Reactor.mirrors_spared (mirrored other reactor found) spares
        fun _ impossible => impossible.elim

theorem orderly_newReactor (capacity : Nat) :
    Keeps Orderly (newReactor capacity : Action σ Nat) := by
  intro world
  rcases newReactor_outcome capacity world with
    ⟨kernel, still, same⟩ | ⟨kernel, fd, opens, watches, same⟩ <;> rw [same]
  · exact orderly_kernel_of still.spares
  · refine ⟨List.prefix_rfl, fun _ sound => ⟨sound.joined opens watches, Nat.le_succ _, ?_⟩,
      fun _ sound mirrored => mirrored.joined sound.numbered opens watches⟩
    intro id later old found
    rw [reactor?_joined, if_neg (Nat.ne_of_gt old)] at found
    exact ⟨later, found, refl_of Reactor.Grown later⟩

end World

end ScriptHost
