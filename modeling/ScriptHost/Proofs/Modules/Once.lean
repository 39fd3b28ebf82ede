import ScriptHost.Proofs.Modules.Tracking

/-!
# A module is evaluated at most once

An evaluation of a key starts only where the cache has no record for it, so no
two evaluations of one key overlap and there is at most one more start than there
are failures.  From the start on until the evaluation fails, every require that
leads to the key, however it is spelled and whoever asks, is answered with the
container that was made at the start, and nothing is asked of the files, the
embedded texts or the engine.
-/

namespace ScriptHost.Modules

open World

variable {σ : Type}

/-! ## Demands -/

/-- What a loader can be asked for. -/
inductive Demand where
  /-- A specifier, on behalf of a module if one is given. -/
  | module (requester : Option Nat) (specifier : String)
  /-- A native module by its name. -/
  | native (name : String)

namespace Demand

/-- Put a demand to a loader. -/
def ask (demand : Demand) (engine : Engine σ) (run : Script σ → Action σ Value) (loader : Nat) :
    Action σ (Option Nat) :=
  match demand with
  | module requester specifier => require engine run loader requester specifier
  | native name => requireNative engine run loader name

/-- The path that a demand leads to. -/
def target (demand : Demand) (world : World σ) (state : ModuleLoader) : Path :=
  match demand with
  | module requester specifier =>
      let expanded := (Specifier.expandAlias? specifier state.paths.appRoot).getD specifier
      match ModuleKind.ofExtension? (Specifier.extension expanded) with
      | some _ => (baseDirectory world state.paths requester).resolve expanded
      | none => ⟨Specifier.nativeEntry expanded⟩
  | native name => ⟨Specifier.nativeEntry name⟩

end Demand

/-- The world after a demand was answered from the cache. -/
def answered (world : World σ) (loader record : Nat) (path : Path) : World σ :=
  { world with journal := world.journal.push (.found loader record (world.exportsOf record) path) }

theorem requireNative_of_kept (engine : Engine σ) (run : Script σ → Action σ Value)
    {world : World σ} {loader record : Nat} {state : ModuleLoader} {name : String}
    (present : world.loaders.get? loader = some state)
    (kept : state.lookup? ⟨Specifier.nativeEntry name⟩ = some record) :
    requireNative engine run loader name world =
      (.ok (some (world.exportsOf record)),
        answered world loader record ⟨Specifier.nativeEntry name⟩) := by
  unfold requireNative
  have got : (get : Action σ (World σ)) world = (.ok world, world) := rfl
  rw [bind_of_ok got, present]
  dsimp only
  rw [kept]
  rfl

/-- A demand that leads to a key with a record is answered with what the record exports,
and only the journal changes. -/
theorem Demand.ask_of_kept (demand : Demand) (engine : Engine σ)
    (run : Script σ → Action σ Value) {world : World σ} {loader record : Nat}
    {state : ModuleLoader} (present : world.loaders.get? loader = some state)
    (kept : state.lookup? (demand.target world state) = some record) :
    demand.ask engine run loader world =
      (.ok (some (world.exportsOf record)),
        answered world loader record (demand.target world state)) := by
  cases demand with
  | native name => exact requireNative_of_kept engine run present kept
  | module requester specifier =>
      have got : (get : Action σ (World σ)) world = (.ok world, world) := rfl
      unfold ask target require at *
      dsimp only at kept ⊢
      rw [bind_of_ok got, present]
      dsimp only
      cases ofKind : ModuleKind.ofExtension? (Specifier.extension
          ((Specifier.expandAlias? specifier state.paths.appRoot).getD specifier)) with
      | none =>
          rw [ofKind] at kept
          exact requireNative_of_kept engine run present kept
      | some kind =>
          rw [ofKind] at kept
          dsimp only at kept ⊢
          unfold requireFile
          rw [bind_of_ok got]
          dsimp only
          rw [kept]
          rfl

/-- The world with other files, and with other texts embedded for one loader. -/
def withSources (world : World σ) (disk : Disk) (loader : Nat)
    (resources : Table String String) : World σ :=
  { world with
    disk
    loaders := world.loaders.modify loader fun state => { state with resources } }

/-- The answer from the cache depends neither on the sources nor on the engine. -/
theorem Demand.ask_withSources (demand : Demand) (engine : Engine σ)
    (run : Script σ → Action σ Value) {world : World σ} {loader record : Nat}
    {state : ModuleLoader} (present : world.loaders.get? loader = some state)
    (kept : state.lookup? (demand.target world state) = some record) (disk : Disk)
    (resources : Table String String) :
    demand.ask engine run loader (withSources world disk loader resources) =
      (.ok (some (world.exportsOf record)),
        answered (withSources world disk loader resources) loader record
          (demand.target world state)) := by
  have moved : (withSources world disk loader resources).loaders.get? loader =
      some { state with resources } := by
    rw [withSources, Table.get?_modify, if_pos rfl, present]
    rfl
  have aimed : demand.target (withSources world disk loader resources) { state with resources } =
      demand.target world state := by
    cases demand <;> rfl
  have found : ({ state with resources } : ModuleLoader).lookup?
      (demand.target (withSources world disk loader resources) { state with resources }) =
      some record := by
    rw [aimed]
    exact kept
  rw [demand.ask_of_kept engine run moved found, aimed]
  rfl

/-! ## What every moment of a session satisfies -/

/-- At most once evaluation, as it is seen in one world. -/
structure EvaluatesOnce (world : World σ) : Prop where
  /-- The history says what is in the caches. -/
  replayed : ∀ loader key, cached? world loader key = keptBy world.journal.toList loader key
  /-- An evaluation starts only where nothing is kept. -/
  starts_absent : ∀ before after loader record container path,
    world.journal.toList = before ++ .evaluating loader record container path :: after →
    keptBy before loader path.components = none
  /-- Between two starts for one key the first evaluation has failed. -/
  apart : ∀ before between after loader record record' container container' path path',
    world.journal.toList = before ++ .evaluating loader record container path ::
      (between ++ .evaluating loader record' container' path' :: after) →
    path'.components = path.components →
    ∃ failed, .evaluationFailed loader record failed ∈ between ∧
      failed.components = path.components
  /-- At any time there has been at most one more start than failures. -/
  counted : ∀ before after, world.journal.toList = before ++ after → ∀ loader key,
    before.countP (starts loader key) ≤ 1 + before.countP (fails loader key)
  /-- Until the evaluation of a record fails, nothing is searched for its key and every
  answer for its key is the container that it started with. -/
  constant : ∀ before during after loader record container path,
    world.journal.toList = before ++ .evaluating loader record container path ::
      (during ++ after) →
    (∀ failed, .evaluationFailed loader record failed ∉ during) →
    (∀ other, .searched loader other ∈ during → other.components ≠ path.components) ∧
      ((∀ other, .exportsReplaced record other ∉ during) →
        ∀ record' container' other,
          .found loader record' container' other ∈ during ∨
            .evaluated loader record' container' other ∈ during →
          other.components = path.components → record' = record ∧ container' = container)
  /-- As long as the evaluation of a record has not failed, every demand for its key is
  answered with that container, whatever the files, the embedded texts and the engine are. -/
  undisturbed : ∀ before after loader record container path,
    world.journal.toList = before ++ .evaluating loader record container path :: after →
    (∀ failed, .evaluationFailed loader record failed ∉ after) →
    (∀ other, .exportsReplaced record other ∉ after) →
    ∃ state, world.loaders.get? loader = some state ∧
      ∀ demand : Demand, (demand.target world state).components = path.components →
      ∀ (engine : Engine σ) (run : Script σ → Action σ Value) disk resources,
        demand.ask engine run loader (withSources world disk loader resources) =
          (.ok (some container),
            answered (withSources world disk loader resources) loader record
              (demand.target world state))

/-- At every moment of every session modules are evaluated at most once. -/
theorem evaluates_once (session : Session σ) (steps : Nat) :
    EvaluatesOnce (session.world steps) := by
  have tracked := tracked_world session steps
  have lawful := tracked.lawful
  generalize session.world steps = world at tracked lawful
  constructor
  case replayed => exact tracked.cache
  case starts_absent =>
      intro before after loader record container path split
      exact (lawful before _ after split).1
  case apart =>
      intro before between after loader record record' container container' path path' split same
      apply Classical.byContradiction
      intro unfailed
      rw [split, ← List.cons_append, ← List.append_assoc] at lawful
      have kept := kept_while lawful.of_append fun failed member key =>
        unfailed ⟨failed, member, key⟩
      have absent := lawful.next.1
      rw [same] at absent
      exact absurd (kept.symm.trans absent) (Option.some_ne_none record)
  case counted =>
      intro before after split loader key
      rw [split] at lawful
      rw [countP_starts lawful.of_append loader key, Nat.add_comm]
      apply Nat.add_le_add_right
      cases keptBy before loader key with
      | none => exact Nat.zero_le 1
      | some record => exact Nat.le_refl 1
  case constant =>
      intro before during after loader record container path split unfailed
      rw [split, ← List.cons_append, ← List.append_assoc] at lawful
      have ongoing (first last : List Event) (event : Event)
          (parts : during = first ++ event :: last) :
          allowed (before ++ .evaluating loader record container path :: first) event ∧
            Lawful allowed (before ++ .evaluating loader record container path :: first) ∧
            keptBy (before ++ .evaluating loader record container path :: first) loader
              path.components = some record := by
        have earlier := lawful.of_append
        rw [parts, ← List.cons_append, ← List.append_assoc] at earlier
        refine ⟨earlier.next, earlier.of_append, kept_while earlier.of_append ?_⟩
        intro failed member _
        exact unfailed failed (parts ▸ List.mem_append_left _ member)
      constructor
      · intro other member same
        rcases List.append_of_mem member with ⟨first, last, parts⟩
        rcases ongoing first last _ parts with ⟨absent, _, kept⟩
        rw [← same] at kept
        exact absurd (kept.symm.trans absent) (Option.some_ne_none record)
      · intro unreplaced record' container' other answer same
        have agree (first last : List Event) (event : Event)
            (parts : during = first ++ event :: last)
            (law : allowed (before ++ .evaluating loader record container path :: first) event →
              keptBy (before ++ .evaluating loader record container path :: first) loader
                other.components = some record' ∧
              exportsBy (before ++ .evaluating loader record container path :: first) record' =
                some container') : record' = record ∧ container' = container := by
          rcases ongoing first last event parts with ⟨next, earlier, kept⟩
          rcases law next with ⟨kept', exported'⟩
          rw [same] at kept'
          have sameRecord : record' = record := Option.some.inj (kept'.symm.trans kept)
          subst sameRecord
          have exported := exported_while earlier fun other member =>
            unreplaced other (parts ▸ List.mem_append_left _ member)
          exact ⟨rfl, Option.some.inj (exported'.symm.trans exported)⟩
        rcases answer with member | member
        · rcases List.append_of_mem member with ⟨first, last, parts⟩
          exact agree first last _ parts id
        · rcases List.append_of_mem member with ⟨first, last, parts⟩
          exact agree first last _ parts id
  case undisturbed =>
      intro before after loader record container path split unfailed unreplaced
      rw [split] at lawful
      have kept := kept_while lawful fun failed member _ => unfailed failed member
      have exported := exported_while lawful unreplaced
      rw [← split, ← tracked.cache] at kept
      rw [← split, tracked.exported kept] at exported
      rw [cached?] at kept
      rcases Option.bind_eq_some_iff.mp kept with ⟨state, present, entry⟩
      refine ⟨state, present, fun demand same engine run disk resources => ?_⟩
      rw [← Option.some.inj exported]
      refine demand.ask_withSources engine run present ?_ disk resources
      rw [ModuleLoader.lookup?, same]
      exact entry

end ScriptHost.Modules
