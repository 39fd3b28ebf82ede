import ScriptHost.Proofs.Capability.Calls

/-!
# What comes of a load

What comes of a load is decided before anything is done, by what the registry remembers,
by the factories that are built in, and by the library that would be opened.  It says all
there is to say of the call: what is told, what is given, and what is remembered.
-/

namespace ScriptHost

/-- A library is opened, or something is looked up in it or called. -/
def Event.isOpening : Event → Prop
  | .opening .. | .opened .. | .resolved .. | .registered .. => True
  | _ => False

namespace Vault

variable {vault : Vault} {journal : Journal} {disk : Disk} {registry : Nat} {name : String}
  {path : Option Path}

/-- The capability that a registry has loaded under a name. -/
def loadedAs? (vault : Vault) (registry : Nat) (name : String) : Option Nat :=
  (vault.registryAt? registry).bind fun state => state.loaded.get? name

/-- The factory by which a name is built into a registry. -/
def factory? (vault : Vault) (registry : Nat) (name : String) : Option Factory :=
  (vault.registryAt? registry).bind fun state => state.builtins.get? name

/-- The factory by which a name is built into a registry makes a payload. -/
def factoryWorks (vault : Vault) (registry : Nat) (name : String) : Bool :=
  ((vault.factory? registry name).map fun factory => factory.result.isOk).getD false

/-- A factory makes a payload, or a registration gives one. -/
def succeeds (vault : Vault) (registry : Nat) : Event → Bool
  | .factory name _ => vault.factoryWorks registry name
  | .registered _ level? => level?.isSome
  | _ => false

/-! ## What comes of a load -/

/-- What comes of a load. -/
inductive Fate where
  /-- Nothing is tried. -/
  | untried
  /-- The name has been loaded before. -/
  | kept (id : Nat)
  /-- A factory makes the payload. -/
  | built (isFoundation : Bool) (payload : Payload)
  /-- A factory fails. -/
  | failed (isFoundation : Bool) (error : Error)
  /-- A library cannot be opened. -/
  | unopened (source : LibrarySource) (path : Path)
  /-- A library does not have the symbol. -/
  | unresolved (source : LibrarySource) (path : Path)
  /-- A registration gives nothing. -/
  | empty (source : LibrarySource) (path : Path)
  /-- A registration gives a payload. -/
  | registered (source : LibrarySource) (path : Path) (level : Int)

namespace Fate

/-- What comes of looking for a capability in a library. -/
def ofLibrary (disk : Disk) (loader : LibraryLoader) (name : String) (path : Path) : Fate :=
  match loader.openLibrary disk path with
  | .error _ => unopened loader.source path
  | .ok symbols =>
      match LibraryLoader.findSymbol loader.source symbols (LibraryLoader.registerSymbol name) with
      | .error _ => unresolved loader.source path
      | .ok none => empty loader.source path
      | .ok (some level) => registered loader.source path level

/-- What comes of a factory. -/
def ofFactory (factory : Factory) : Fate :=
  match factory.result with
  | .ok payload => built factory.isFoundation payload
  | .error error => failed factory.isFoundation error

/-- What comes of a load of a name that has not been loaded. -/
def ofRegistry (disk : Disk) (state : Registry) (name : String) (path : Option Path) : Fate :=
  match state.builtins.get? name with
  | some factory => ofFactory factory
  | none =>
      if state.libraries.isSupported then
        ofLibrary disk state.libraries name (path.getD ⟨LibraryLoader.libraryFileName name⟩)
      else untried

/-- The identity of the new capability, given the next number. -/
def new? (fresh : Nat) : Fate → Option Nat
  | built .. => some (fresh + 1)
  | registered .. => some (fresh + 2)
  | _ => none

/-- The identity of the capability that the load gives. -/
def given? (fresh : Nat) : Fate → Option Nat
  | kept id => some id
  | fate => fate.new? fresh

/-- The payload of the capability that the load gives. -/
def payload? (vault : Vault) : Fate → Option (Nat × Payload)
  | kept id => vault.payloadOf? id
  | built _ payload => some (vault.fresh, payload)
  | registered _ _ level => some (vault.fresh + 1, .extension level)
  | _ => none

/-- What is told of the load. -/
def news (fresh : Nat) (name : String) : Fate → List Event
  | untried | kept _ => []
  | built isFoundation _ => [.factory name isFoundation]
  | failed isFoundation error => [.factory name isFoundation, .log (failedFactory name error)]
  | unopened source path => [.opening source path]
  | unresolved source path =>
      [.opening source path, .opened ⟨fresh, source, path⟩,
        .resolved source (LibraryLoader.registerSymbol name), .closed ⟨fresh, source, path⟩]
  | empty source path =>
      [.opening source path, .opened ⟨fresh, source, path⟩,
        .resolved source (LibraryLoader.registerSymbol name),
        .registered ⟨fresh, source, path⟩ none, .closed ⟨fresh, source, path⟩]
  | registered source path level =>
      [.opening source path, .opened ⟨fresh, source, path⟩,
        .resolved source (LibraryLoader.registerSymbol name),
        .registered ⟨fresh, source, path⟩ (some level),
        .obtained (fresh + 1) ⟨fresh, source, path⟩]

theorem given?_of_new {fate : Fate} {fresh id : Nat} (new : fate.new? fresh = some id) :
    fate.given? fresh = some id := by
  cases fate <;> first | exact new | cases new

end Fate

/-- What comes of a load of a name from a registry. -/
def fate (vault : Vault) (disk : Disk) (registry : Nat) (name : String) (path : Option Path) :
    Fate :=
  match vault.loadedAs? registry name with
  | some id => .kept id
  | none =>
      match vault.registryAt? registry with
      | some state => .ofRegistry disk state name path
      | none => .untried

/-- Where a fate comes from: from memory, from nowhere, from a factory that is built in, or, if
there is none, from a library. -/
inductive Origin (vault : Vault) (disk : Disk) (registry : Nat) (name : String) : Fate → Prop where
  | memory {id : Nat} (loaded : vault.loadedAs? registry name = some id) :
      Origin vault disk registry name (.kept id)
  | nowhere (unloaded : vault.loadedAs? registry name = none) :
      Origin vault disk registry name .untried
  | factory {state : Registry} {factory : Factory}
      (unloaded : vault.loadedAs? registry name = none)
      (alive : vault.registryAt? registry = some state)
      (builtin : state.builtins.get? name = some factory) :
      Origin vault disk registry name (.ofFactory factory)
  | library {state : Registry} (unloaded : vault.loadedAs? registry name = none)
      (alive : vault.registryAt? registry = some state) (foreign : state.builtins.get? name = none)
      (path : Path) : Origin vault disk registry name (.ofLibrary disk state.libraries name path)

theorem fate_origin (vault : Vault) (disk : Disk) (registry : Nat) (name : String)
    (path : Option Path) :
    Origin vault disk registry name (vault.fate disk registry name path) := by
  unfold fate
  cases loaded : vault.loadedAs? registry name with
  | some id => exact .memory loaded
  | none =>
      cases alive : vault.registryAt? registry with
      | none => exact .nowhere loaded
      | some state =>
          dsimp only [Fate.ofRegistry]
          cases builtin : state.builtins.get? name with
          | some factory => exact .factory loaded alive builtin
          | none =>
              by_cases supported : state.libraries.isSupported = true
              · simp only [if_pos supported]
                exact .library loaded alive builtin _
              · simp only [if_neg supported]
                exact .nowhere loaded

namespace Origin

variable {fate : Fate} (origin : Origin vault disk registry name fate)

include origin

theorem eq_kept {id : Nat} (loaded : vault.loadedAs? registry name = some id) :
    fate = .kept id := by
  cases origin with
  | memory loaded' => rw [Option.some.inj (loaded.symm.trans loaded')]
  | nowhere unloaded | factory unloaded | library unloaded =>
      rw [unloaded] at loaded
      cases loaded

/-- What comes of a name that has not been loaded is new. -/
theorem given?_of_unloaded (unloaded : vault.loadedAs? registry name = none) (fresh : Nat) :
    fate.given? fresh = fate.new? fresh := by
  cases origin with
  | memory loaded =>
      rw [unloaded] at loaded
      cases loaded
  | nowhere => rfl
  | factory =>
      unfold Fate.ofFactory
      split <;> rfl
  | library =>
      unfold Fate.ofLibrary
      repeat' split
      all_goals rfl

/-- Something new comes only out of a registry that is there. -/
theorem alive_of_new {fresh id : Nat} (new : fate.new? fresh = some id) :
    ∃ state, vault.registryAt? registry = some state := by
  cases origin with
  | memory | nowhere => cases new
  | factory _ alive | library _ alive => exact ⟨_, alive⟩

/-- Of a name that is built in, nothing is ever told but that its factory is called. -/
theorem not_opening (fresh : Nat) (builtin : (vault.factory? registry name).isSome) :
    ∀ event ∈ fate.news fresh name, ¬event.isOpening := by
  cases origin with
  | memory | nowhere => simp [Fate.news]
  | factory =>
      unfold Fate.ofFactory
      split <;> simp [Fate.news, Event.isOpening]
  | library _ alive foreign =>
      rw [factory?, alive, Option.bind_some, foreign] at builtin
      cases builtin

/-- One factory call or registration succeeds if something new comes of it, and none otherwise. -/
theorem successes (fresh : Nat) :
    ((fate.news fresh name).filter (vault.succeeds registry)).length =
      (fate.new? fresh).toList.length := by
  cases origin with
  | memory | nowhere => rfl
  | @factory state factory _ alive builtin =>
      have works : vault.factoryWorks registry name = factory.result.isOk := by
        rw [factoryWorks, factory?, alive, Option.bind_some, builtin]
        rfl
      unfold Fate.ofFactory
      cases made : factory.result with
      | ok payload =>
          rw [made] at works
          simp [Fate.news, Fate.new?, succeeds, works, Except.isOk, Except.toBool]
      | error error =>
          rw [made] at works
          simp [Fate.news, Fate.new?, succeeds, works, Except.isOk, Except.toBool]
  | library =>
      unfold Fate.ofLibrary
      repeat' split
      all_goals rfl

end Origin

/-- A registry remembers a new capability. -/
def remembering (registries : Table Nat (Shared Registry)) (registry : Nat) (name : String) :
    Option Nat → Table Nat (Shared Registry)
  | some id =>
      registries.modify registry <|
        Shared.map fun state => { state with loaded := state.loaded.insert name id }
  | none => registries

/-- A call of such a fate has been carried out: it has told of it, and the registry remembers
what is new.  Of what was there before, only a capability that is given gets one more holder. -/
structure Fulfils (fate : Fate) (registry : Nat) (name : String) (before after : Vault × Journal)
    (answer : Option Nat) : Prop where
  answer : answer = fate.given? before.1.fresh
  told : after.2.toList = before.2.toList ++ fate.news before.1.fresh name
  fresh : before.1.fresh ≤ after.1.fresh
  registries : after.1.registries =
    remembering before.1.registries registry name (fate.new? before.1.fresh)
  payload : ∀ id, fate.given? before.1.fresh = some id →
    after.1.payloadOf? id = fate.payload? before.1
  shares : ∀ id, id < before.1.fresh → after.1.capabilities.get? id =
    (before.1.capabilities.get? id).map fun shared =>
      if fate.given? before.1.fresh = some id then { shared with holders := shared.holders + 1 }
      else shared

/-- A call that gives nothing and leaves registries and capabilities alone. -/
theorem fulfils_nothing {fate : Fate} {after : Vault} {later : Journal}
    (nothing : fate.given? vault.fresh = none)
    (told : later.toList = journal.toList ++ fate.news vault.fresh name)
    (fresh : vault.fresh ≤ after.fresh) (registries : after.registries = vault.registries)
    (capabilities : after.capabilities = vault.capabilities) :
    Fulfils fate registry name (vault, journal) (after, later) none where
  answer := nothing.symm
  told := told
  fresh := fresh
  registries := by
    have old : fate.new? vault.fresh = none := by
      cases fate <;> first | rfl | cases nothing
    rw [old]
    exact registries
  payload id given := by
    rw [nothing] at given
    cases given
  shares id _ := by
    dsimp only
    rw [nothing, capabilities]
    cases vault.capabilities.get? id <;> rfl

/-- A capability that is made with a payload, for the registry and for the caller. -/
theorem fulfils_new {fate : Fate} {after : Vault} {later : Journal} {id : Nat}
    (made : Shared Capability) (value : Payload) (number : Nat)
    (new : fate.new? vault.fresh = some id) (late : vault.fresh ≤ id)
    (told : later.toList = journal.toList ++ fate.news vault.fresh name)
    (fresh : vault.fresh ≤ after.fresh)
    (registries : after.registries = remembering vault.registries registry name (some id))
    (capabilities : after.capabilities = vault.capabilities.insert id made)
    (payloads : after.payloads = vault.payloads.insert number (.one value))
    (has : made.value.payload = some number)
    (payload : fate.payload? vault = some (number, value)) :
    Fulfils fate registry name (vault, journal) (after, later) (some id) where
  answer := by
    rw [Fate.given?_of_new new]
  told := told
  fresh := fresh
  registries := by
    rw [new]
    exact registries
  payload other given := by
    rw [Fate.given?_of_new new] at given
    cases given
    rw [payload]
    unfold payloadOf? capability? payload? Shared.value?
    rw [capabilities, payloads]
    simp [has, Shared.one]
  shares other early := by
    dsimp only at early ⊢
    have different : id ≠ other := fun same => absurd early (Nat.not_lt.mpr (same ▸ late))
    rw [Fate.given?_of_new new, capabilities, Table.get?_insert, if_neg different]
    cases vault.capabilities.get? other with
    | none => rfl
    | some shared => simp [different]

theorem makeBuiltin_fulfils (registry : Nat) (name : String) (factory : Factory) (vault : Vault)
    (journal : Journal) :
    Fulfils (.ofFactory factory) registry name (vault, journal)
      (makeBuiltin registry name factory (vault, journal)).2
      (makeBuiltin registry name factory (vault, journal)).1 := by
  unfold makeBuiltin Fate.ofFactory
  rw [tell_bind]
  cases factory.result with
  | ok payload =>
      refine fulfils_new ⟨⟨name, false, some vault.fresh, none⟩, 2⟩ payload vault.fresh rfl
        (Nat.le_succ _) ?_ (Nat.le_add_right _ 2) rfl rfl rfl rfl rfl
      exact Array.toList_push
  | error error =>
      refine fulfils_nothing rfl ?_ (Nat.le_refl _) rfl rfl
      simp [Fate.news]

theorem openCapability_fulfils (disk : Disk) (registry : Nat) (loader : LibraryLoader)
    (name : String) (path : Path) (vault : Vault) (journal : Journal) :
    Fulfils (.ofLibrary disk loader name path) registry name (vault, journal)
      (openCapability disk registry loader name path (vault, journal)).2
      (openCapability disk registry loader name path (vault, journal)).1 := by
  unfold openCapability Fate.ofLibrary
  rw [tell_bind]
  cases loader.openLibrary disk path with
  | error cause => exact fulfils_nothing rfl Array.toList_push (Nat.le_refl _) rfl rfl
  | ok symbols =>
      dsimp only
      rw [newId_bind, tell_bind, tell_bind]
      cases LibraryLoader.findSymbol loader.source symbols (LibraryLoader.registerSymbol name) with
      | error cause =>
          refine fulfils_nothing rfl ?_ (Nat.le_succ _) rfl rfl
          simp [Fate.news]
      | ok level? =>
          dsimp only
          rw [tell_bind]
          cases level? with
          | none =>
              refine fulfils_nothing rfl ?_ (Nat.le_succ _) rfl rfl
              simp [Fate.news]
          | some level =>
              refine fulfils_new
                ⟨⟨name, true, some (vault.fresh + 1), some ⟨vault.fresh, _, path⟩⟩, 2⟩
                (.extension level) (vault.fresh + 1) rfl (Nat.le_add_right _ 2) ?_
                (Nat.le_add_right _ 3) rfl rfl rfl rfl rfl
              simp [Fate.news]

/-- A name that has been loaded is answered from memory. -/
theorem cached_fulfils {id : Nat} (loaded : vault.loadedAs? registry name = some id)
    (journal : Journal) :
    Fulfils (.kept id) registry name (vault, journal) (cached registry name (vault, journal)).2
      (cached registry name (vault, journal)).1 := by
  have ended : cached registry name (vault, journal) =
      (some id, { vault with capabilities := Shared.hold vault.capabilities id }, journal) := by
    unfold cached
    rw [current_bind]
    unfold loadedAs? at loaded
    rw [loaded]
    rfl
  rw [ended]
  constructor
  case answer => rfl
  case told => exact (List.append_nil _).symm
  case fresh => exact Nat.le_refl _
  case registries => rfl
  case payload =>
      intro other given
      cases given
      unfold payloadOf? capability?
      rw [Shared.value?_hold]
      rfl
  case shares =>
      intro other _
      dsimp only [Fate.given?]
      rw [Shared.hold, Table.get?_modify]
      by_cases same : id = other
      · subst same
        simp
      · cases vault.capabilities.get? other <;> simp [same]

theorem cached_of_unloaded (unloaded : vault.loadedAs? registry name = none) (journal : Journal) :
    cached registry name (vault, journal) = (none, vault, journal) := by
  unfold cached
  rw [current_bind]
  unfold loadedAs? at unloaded
  rw [unloaded]
  rfl

theorem call_bind {α β : Type} (x : VaultCall α) (f : α → VaultCall β)
    (state : Vault × Journal) : (x >>= f) state = f (x state).1 (x state).2 :=
  rfl

/-- A name that has been loaded is not loaded again. -/
theorem load_of_loaded {id : Nat} (loaded : vault.loadedAs? registry name = some id) (disk : Disk)
    (path : Option Path) (journal : Journal) :
    load disk registry name path (vault, journal) = cached registry name (vault, journal) := by
  have answered := (cached_fulfils loaded journal).answer
  unfold load
  rw [call_bind, answered]
  exact congrArg (·, (cached registry name (vault, journal)).2) answered.symm

/-- A load does and tells what it comes to. -/
theorem load_fulfils (disk : Disk) (registry : Nat) (name : String) (path : Option Path)
    (vault : Vault) (journal : Journal) :
    Fulfils (vault.fate disk registry name path) registry name (vault, journal)
      (load disk registry name path (vault, journal)).2
      (load disk registry name path (vault, journal)).1 := by
  unfold fate
  cases loaded : vault.loadedAs? registry name with
  | some id =>
      rw [load_of_loaded loaded]
      exact cached_fulfils loaded journal
  | none =>
      have untried : Fulfils .untried registry name (vault, journal) (vault, journal) none :=
        fulfils_nothing rfl (List.append_nil _).symm (Nat.le_refl _) rfl rfl
      unfold load
      rw [call_bind, cached_of_unloaded loaded]
      dsimp only
      rw [current_bind]
      cases vault.registryAt? registry with
      | none => exact untried
      | some state =>
          dsimp only [Fate.ofRegistry]
          cases state.builtins.get? name with
          | some factory => exact makeBuiltin_fulfils registry name factory vault journal
          | none =>
              by_cases supported : state.libraries.isSupported = true
              · simp only [if_pos supported]
                exact openCapability_fulfils ..
              · simp only [if_neg supported]
                exact untried

/-! ## What a registry remembers -/

theorem registryAt?_remembering {after : Vault} {id? : Option Nat}
    (changed : after.registries = remembering vault.registries registry name id?) (other : Nat) :
    after.registryAt? other =
      if registry = other then
        (vault.registryAt? other).map fun state =>
          { state with loaded := (id?.map (state.loaded.insert name)).getD state.loaded }
      else vault.registryAt? other := by
  unfold registryAt? Shared.value?
  rw [changed]
  cases id? with
  | none =>
      simp only [remembering, Option.map_none, Option.getD_none]
      split
      · cases vault.registries.get? other <;> rfl
      · rfl
  | some id =>
      simp only [remembering, Table.get?_modify, Option.map_some, Option.getD_some]
      split
      · cases vault.registries.get? other <;> rfl
      · rfl

/-- Remembering changes what the registry answers for the one name. -/
theorem loadedAs?_remembering {after : Vault} {id : Nat} {state : Registry}
    (changed : after.registries = remembering vault.registries registry name (some id))
    (alive : vault.registryAt? registry = some state) (other : Nat) (wanted : String) :
    after.loadedAs? other wanted =
      if registry = other ∧ name = wanted then some id else vault.loadedAs? other wanted := by
  unfold loadedAs?
  rw [registryAt?_remembering changed]
  by_cases same : registry = other
  · subst same
    simp only [if_true, alive, Option.map_some, Option.bind_some, Option.getD_some,
      Table.get?_insert, true_and]
  · rw [if_neg same, if_neg fun both => same both.1]

theorem factory?_remembering {after : Vault} {id? : Option Nat}
    (changed : after.registries = remembering vault.registries registry name id?) (other : Nat)
    (wanted : String) : after.factory? other wanted = vault.factory? other wanted := by
  unfold factory?
  rw [registryAt?_remembering changed]
  split
  · cases vault.registryAt? other <;> rfl
  · rfl

/-! ## Letting go after a require -/

/-- What a require answers, given the payload of the capability. -/
def typed (name : String) (type : PayloadType) (held? : Option (Nat × Payload)) :
    Except Error (Nat × Payload) :=
  match held? with
  | some held =>
      if type.admits held.2 then .ok held else .error (.capabilityType name type.fullName)
  | none => .error (.capabilityType name type.fullName)

theorem finishRequire_eq (capability : Nat) (name : String) (type : PayloadType) (vault : Vault)
    (journal : Journal) : ∃ payloads, finishRequire capability name type (vault, journal) =
      (typed name type (vault.payloadOf? capability),
        (release capability ({ vault with payloads }, journal)).2) := by
  unfold finishRequire typed
  rw [current_bind]
  cases vault.payloadOf? capability with
  | none => exact ⟨vault.payloads, rfl⟩
  | some held =>
      by_cases admits : type.admits held.2 = true
      · refine ⟨Shared.hold vault.payloads held.1, ?_⟩
        simp only [if_pos admits]
        rfl
      · refine ⟨vault.payloads, ?_⟩
        simp only [if_neg admits]
        rfl

theorem capabilities_releasePayload (id : Nat) (state : Vault × Journal) :
    (releasePayload id state).2.1.capabilities = state.1.capabilities := by
  rcases releasePayload_cases state.1 state.2 id with ⟨_, ended⟩ | ⟨_, _, _, ended⟩ |
    ⟨_, _, _, ended⟩ <;> rw [ended]

theorem capabilities_dismantle (capability : Capability) (state : Vault × Journal) :
    (dismantle capability state).2.1.capabilities = state.1.capabilities := by
  unfold dismantle
  cases capability.payload <;> cases capability.handle
  case none.none | none.some => rfl
  case some.none | some.some => exact capabilities_releasePayload ..

theorem capabilities_release (id : Nat) (state : Vault × Journal) :
    (release id state).2.1.capabilities = (Shared.letGo state.1.capabilities id).2 := by
  unfold release
  rw [current_bind]
  rcases Shared.letGo state.1.capabilities id with ⟨gone, capabilities⟩
  dsimp only
  rw [change_bind]
  cases gone with
  | none => rfl
  | some capability =>
      dsimp only
      cases capability.handle with
      | none => exact capabilities_dismantle ..
      | some handle => exact capabilities_dismantle ..

/-- Letting go of a capability leaves another one alone, and one that somebody else holds. -/
theorem capability?_release (vault : Vault) {id other : Nat} {shared : Shared Capability}
    (found : vault.capabilities.get? other = some shared) (held : other = id → 1 < shared.holders)
    (journal : Journal) :
    (release id (vault, journal)).2.1.capability? other = some shared.value := by
  unfold capability?
  rw [capabilities_release, Shared.value?_letGo, if_neg, Shared.value?, found]
  · rfl
  · rintro ⟨rfl, gone⟩
    rw [Shared.letGo, found] at gone
    simp [Nat.not_le_of_lt (held rfl)] at gone

end Vault

end ScriptHost
