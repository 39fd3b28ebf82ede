import ScriptHost.Proofs.Capability.Custody

/-!
# The calls on the vault keep custody

Each call on the vault is a few of the steps that custody is known to survive.
The one that closes a library, the letting go of a capability, is taken as a whole:
between its parts the share that the capability had is nobody's.
-/

namespace ScriptHost.Vault

variable {vault : Vault} {journal : Journal}

/-- Custody of what a vault holds, given what has been told. -/
def Held (state : Vault × Journal) : Prop :=
  Custody state.1 state.2.toList

/-- What the calls keep. -/
def Guards (before after : Vault × Journal) : Prop :=
  Held before → Held after

instance : IsPreorder (Vault × Journal) Guards where
  refl _ held := held
  trans _ _ _ first second held := second (first held)

theorem current_bind {β : Type} (f : Vault → VaultCall β) (vault : Vault) (journal : Journal) :
    (current >>= f) (vault, journal) = f vault (vault, journal) :=
  rfl

theorem change_bind {β : Type} (g : Vault → Vault) (f : Unit → VaultCall β) (vault : Vault)
    (journal : Journal) : (change g >>= f) (vault, journal) = f () (g vault, journal) :=
  rfl

theorem tell_bind {β : Type} (event : Event) (f : Unit → VaultCall β) (vault : Vault)
    (journal : Journal) : (tell event >>= f) (vault, journal) = f () (vault, journal.push event) :=
  rfl

theorem guards_tell (event : Event) (free : concerns event = false) : Keeps Guards (tell event) := by
  intro state held
  change Custody state.1 (state.2.push event).toList
  rw [Array.toList_push]
  exact held.concat free

theorem guards_newId : Keeps Guards newId :=
  fun _ held => held.of_fresh

theorem guards_registries (f : Vault → Table Nat (Shared Registry)) :
    Keeps Guards (change fun vault => { vault with registries := f vault }) :=
  fun state held => held.of_registries (f state.1)

theorem guards_holdPayload (id : Nat) : Keeps Guards (holdPayload id) :=
  fun _ held => held.of_payload_modify id _

theorem guards_hold (id : Nat) : Keeps Guards (hold id) :=
  fun _ held => held.of_capability_modify id fun _ => .inl rfl

/-! ## Payloads -/

/-- What letting go of a payload does. -/
theorem releasePayload_cases (vault : Vault) (journal : Journal) (id : Nat) :
    (vault.payloads.get? id = none ∧
      releasePayload id (vault, journal) = ((), vault, journal)) ∨
    (∃ shared, vault.payloads.get? id = some shared ∧ shared.holders ≤ 1 ∧
      releasePayload id (vault, journal) =
        ((), { vault with payloads := vault.payloads.erase id },
          journal.push (.payloadFreed id shared.value))) ∨
    (∃ shared, vault.payloads.get? id = some shared ∧ 1 < shared.holders ∧
      releasePayload id (vault, journal) =
        ((), { vault with
          payloads := vault.payloads.insert id { shared with holders := shared.holders - 1 } },
          journal)) := by
  unfold releasePayload Shared.letGo
  rw [current_bind]
  cases found : vault.payloads.get? id with
  | none => exact .inl ⟨rfl, rfl⟩
  | some shared =>
      by_cases last : shared.holders ≤ 1
      · refine .inr (.inl ⟨shared, rfl, last, ?_⟩)
        simp only [if_pos last]
        rfl
      · refine .inr (.inr ⟨shared, rfl, Nat.lt_of_not_le last, ?_⟩)
        simp only [if_neg last]
        rfl

theorem payloadHolders_of_none {payload : Nat} (gone : vault.payloads.get? payload = none) :
    vault.payloadHolders payload = 0 := by
  rw [payloadHolders, gone]
  rfl

theorem payloadHolders_of_some {payload : Nat} {shared : Shared Payload}
    (used : vault.payloads.get? payload = some shared) :
    vault.payloadHolders payload = shared.holders := by
  rw [payloadHolders, used]
  rfl

theorem guards_releasePayload (id : Nat) : Keeps Guards (releasePayload id) := by
  rintro ⟨vault, journal⟩ held
  rcases releasePayload_cases vault journal id with ⟨_, ended⟩ | ⟨shared, used, _, ended⟩ |
    ⟨shared, used, _, ended⟩
  · rw [ended]
    exact held
  · rw [ended]
    change Custody _ (journal.push _).toList
    rw [Array.toList_push]
    exact held.free shared.value (by rw [used]; exact Option.some_ne_none shared)
  · rw [ended]
    exact held.of_payload_insert _ (by rw [used]; exact Option.some_ne_none shared)

/-! ## Letting go of capabilities -/

/-- A capability lets go of its payload and closes its library. -/
theorem held_dismantle {capability : Capability} {payload : Nat} {handle : LibraryHandle}
    (held : Held (vault, journal)) (has : capability.payload = some payload)
    (keeps : capability.handle = some handle)
    (got : .obtained payload handle ∈ journal.toList)
    (law : (∀ sharers, .dropped handle sharers ∈ journal.toList → sharers = 0) ↔
      vault.payloadHolders payload ≤ 1) :
    Held (dismantle capability (vault, journal)).2 := by
  have unfolded : (dismantle capability (vault, journal)).2 =
      (tell (.closed handle) (releasePayload payload (vault, journal)).2).2 := by
    unfold dismantle
    rw [has, keeps]
    rfl
  rw [unfolded]
  change Custody _ (Array.push _ _).toList
  rw [Array.toList_push]
  rcases releasePayload_cases vault journal payload with ⟨gone, ended⟩ |
    ⟨shared, used, last, ended⟩ | ⟨shared, used, more, ended⟩
  · rw [ended]
    refine held.shut fun other obtained => ?_
    have same := held.one_payload payload other handle got obtained
    subst same
    constructor
    · intro _
      exact law.mpr (by rw [payloadHolders_of_none gone]; exact Nat.zero_le 1)
    · intro _
      exact (held.obtained other handle got).2.2 gone
  · have freed := held.free shared.value (by rw [used]; exact Option.some_ne_none shared)
    rw [ended]
    dsimp only at freed ⊢
    rw [Array.toList_push]
    refine freed.shut fun other obtained => ?_
    have same := held.one_payload payload other handle got (mem_of_mem_concat obtained nofun)
    subst same
    constructor
    · intro _ sharers member
      exact law.mpr (by rw [payloadHolders_of_some used]; exact last) sharers
        (mem_of_mem_concat member nofun)
    · intro _
      exact ⟨shared.value, List.mem_append_right _ (List.mem_singleton.mpr rfl)⟩
  · have kept := held.of_payload_insert { shared with holders := shared.holders - 1 }
      (by rw [used]; exact Option.some_ne_none shared)
    rw [ended]
    refine kept.shut fun other obtained => ?_
    have same := held.one_payload payload other handle got obtained
    subst same
    constructor
    · rintro ⟨value, freed⟩
      have gone := (held.freed other value freed).2
      exact absurd (used.symm.trans gone) (Option.some_ne_none shared)
    · intro none
      have few := law.mp none
      rw [payloadHolders_of_some used] at few
      exact absurd few (Nat.not_le_of_lt more)

/-- A capability that nobody holds any more goes. -/
theorem held_drop {capability : Capability} {payload : Nat} {handle : LibraryHandle}
    (held : Held (vault, journal)) (has : capability.payload = some payload)
    (keeps : capability.handle = some handle)
    (got : .obtained payload handle ∈ journal.toList)
    (undropped : ∀ sharers, .dropped handle sharers ∉ journal.toList)
    (left : ∀ id shared, vault.capabilities.get? id = some shared →
      shared.value.handle ≠ some handle) :
    Held (dismantle capability
      (vault, journal.push (.dropped handle (vault.sharers capability)))).2 := by
  have few : vault.sharers capability = vault.payloadHolders payload - 1 := by
    rw [sharers, has]
    rfl
  have dropped := held.drop (vault.sharers capability) (held.obtained payload handle got).2.1 left
  rw [← Array.toList_push] at dropped
  refine held_dismantle dropped has keeps ?_ ?_
  · rw [Array.toList_push]
    exact List.mem_append_left _ got
  · rw [Array.toList_push]
    constructor
    · intro unshared
      have alone := unshared _ (List.mem_append_right _ (List.mem_singleton.mpr rfl))
      omega
    · intro last sharers member
      rcases List.mem_append.mp member with old | new
      · exact absurd old (undropped sharers)
      · cases List.mem_singleton.mp new
        omega

theorem guards_dismantle_of_closed {capability : Capability} (closed : capability.handle = none) :
    Keeps Guards (dismantle capability) := by
  unfold dismantle
  rw [closed]
  cases capability.payload with
  | some payload => exact (guards_releasePayload payload).bind_state fun _ => keeps_pure ()
  | none => exact keeps_pure ()

theorem guards_release (id : Nat) : Keeps Guards (release id) := by
  rintro ⟨vault, journal⟩ held
  unfold release Shared.letGo
  rw [current_bind]
  cases found : vault.capabilities.get? id with
  | none => exact held
  | some shared =>
      by_cases last : shared.holders ≤ 1
      · simp only [if_pos last]
        rw [change_bind]
        have erased := held.of_capability_erase id
        cases keeps : shared.value.handle with
        | none => exact guards_dismantle_of_closed keeps _ erased
        | some handle =>
            rcases held.keeps id shared handle found keeps with ⟨⟨payload, has, got⟩, undropped⟩
            refine held_drop erased has keeps got undropped ?_
            intro other otherShared at_other alsoKeeps
            rw [Table.get?_erase] at at_other
            split at at_other
            next => exact absurd at_other.symm (Option.some_ne_none otherShared)
            next different =>
                exact different (held.one_keeper id other shared otherShared handle found keeps
                  at_other alsoKeeps).symm
      · simp only [if_neg last]
        exact held.of_capability_insert found rfl

theorem guards_close (id : Nat) : Keeps Guards (close id) := by
  rintro ⟨vault, journal⟩ held
  unfold close
  rw [current_bind]
  cases found : vault.capability? id with
  | none => exact held
  | some capability =>
      rcases Option.map_eq_some_iff.mp found with ⟨shared, at_id, rfl⟩
      cases keeps : shared.value.handle with
      | none =>
          simp only [Capability.isOpen, keeps, Option.isSome_none, Bool.not_false, Bool.true_or,
            if_true]
          exact held
      | some handle =>
          rcases held.keeps id shared handle at_id keeps with ⟨⟨payload, has, got⟩, undropped⟩
          simp only [Capability.isOpen, keeps, has, Option.isSome_some, Bool.not_true,
            Bool.false_or, decide_eq_true_eq]
          by_cases shares : 1 < vault.payloadHolders payload
          · rw [if_pos shares]
            exact held
          · rw [if_neg shares, change_bind]
            have emptied := held.of_capability_modify id
              (f := Shared.map fun capability => { capability with payload := none, handle := none })
              fun _ => .inr rfl
            refine held_dismantle emptied has keeps got ⟨fun _ => Nat.le_of_not_lt shares, ?_⟩
            exact fun _ sharers member => absurd member (undropped sharers)

/-! ## Loading -/

theorem guards_addRegistry (builtins : Table String Factory) (libraries : LibraryLoader) :
    Keeps Guards (addRegistry builtins libraries) :=
  guards_newId.bind_state fun id => (guards_registries fun vault =>
    vault.registries.insert id (.one ⟨builtins, libraries, .empty⟩)).bind_state fun _ =>
      keeps_pure id

theorem guards_holdRegistry (id : Nat) : Keeps Guards (holdRegistry id) :=
  guards_registries fun vault => Shared.hold vault.registries id

theorem guards_releaseRegistry (id : Nat) : Keeps Guards (releaseRegistry id) := by
  refine keeps_current.bind_state fun vault => ?_
  rcases Shared.letGo vault.registries id with ⟨gone, registries⟩
  refine (guards_registries fun _ => registries).bind_state fun _ => ?_
  cases gone with
  | some registry => exact Keeps.forM_state guards_release _
  | none => exact keeps_pure ()

theorem guards_cached (registry : Nat) (name : String) :
    Keeps Guards (cached registry name) := by
  refine keeps_current.bind_state fun vault => ?_
  cases (vault.registryAt? registry).bind fun r => r.loaded.get? name with
  | some id => exact (guards_hold id).bind_state fun _ => keeps_pure _
  | none => exact keeps_pure none

theorem guards_holdPayloadOf (id : Nat) : Keeps Guards (holdPayloadOf id) := by
  refine keeps_current.bind_state fun vault => ?_
  cases vault.payloadOf? id with
  | none => exact keeps_pure none
  | some held => exact (guards_holdPayload _).bind_state fun _ => keeps_pure _

theorem guards_remember (registry : Nat) (capability : Capability)
    (closed : capability.handle = none) : Keeps Guards (remember registry capability) := by
  refine Keeps.bind_state ?_ fun id => ?_
  · intro state held
    refine held.add_capability ⟨capability, 2⟩ fun handle keeps => ?_
    exact absurd (closed.symm.trans keeps) (Option.some_ne_none handle).symm
  · exact (guards_registries fun vault => _).bind_state fun _ => keeps_pure id

theorem guards_makeBuiltin (registry : Nat) (name : String) (factory : Factory) :
    Keeps Guards (makeBuiltin registry name factory) := by
  refine (guards_tell _ rfl).bind_state fun _ => ?_
  cases factory.result with
  | error error => exact (guards_tell _ rfl).bind_state fun _ => keeps_pure none
  | ok payload =>
      refine Keeps.bind_state ?_ fun made => ?_
      · exact fun state held => held.add_payload (.one payload)
      · exact guards_remember registry _ rfl

/-- A library is open, and nothing has come out of it. -/
structure Unused (handle : LibraryHandle) (state : Vault × Journal) : Prop where
  held : Held state
  opened : handle.id < state.1.fresh
  untapped : ∀ payload, .obtained payload handle ∉ state.2.toList
  undropped : ∀ sharers, .dropped handle sharers ∉ state.2.toList
  unkept : ∀ id shared, state.1.capabilities.get? id = some shared →
    shared.value.handle ≠ some handle

theorem unused_new (held : Held (vault, journal)) (source : LibrarySource) (path : Path) :
    Unused ⟨vault.fresh, source, path⟩ ({ vault with fresh := vault.fresh + 1 }, journal) where
  held := held.of_fresh
  opened := Nat.lt_succ_self _
  untapped payload member := Nat.lt_irrefl _ (held.obtained payload _ member).2.1
  undropped sharers member := Nat.lt_irrefl _ (held.dropped _ sharers member)
  unkept id shared found keeps := by
    rcases (held.keeps id shared _ found keeps).1 with ⟨payload, _, got⟩
    exact Nat.lt_irrefl _ (held.obtained payload _ got).2.1

theorem Unused.tell {handle : LibraryHandle} {state : Vault × Journal}
    (unused : Unused handle state) (event : Event) (free : concerns event = false) :
    Unused handle (state.1, state.2.push event) where
  held := guards_tell event free state unused.held
  opened := unused.opened
  untapped payload member := by
    rw [Array.toList_push] at member
    refine unused.untapped payload (mem_of_mem_concat member ?_)
    rintro rfl
    cases free
  undropped sharers member := by
    rw [Array.toList_push] at member
    refine unused.undropped sharers (mem_of_mem_concat member ?_)
    rintro rfl
    cases free
  unkept := unused.unkept

/-- A library that nothing has come out of can be closed at any time. -/
theorem Unused.shut {handle : LibraryHandle} {state : Vault × Journal}
    (unused : Unused handle state) : Held (state.1, state.2.push (.closed handle)) := by
  change Custody _ (Array.push _ _).toList
  rw [Array.toList_push]
  exact unused.held.shut fun payload got => absurd got (unused.untapped payload)

/-- A payload comes out of a library, and a capability keeps both. -/
theorem Unused.keep {handle : LibraryHandle} (unused : Unused handle (vault, journal))
    (registry : Nat) (name : String) (level : Int) :
    Held ((do
      let payload ← addPayload (.extension level)
      Vault.tell (.obtained payload handle)
      remember registry ⟨name, true, some payload, some handle⟩ : VaultCall Nat)
        (vault, journal)).2 := by
  have added := unused.held.add_payload (.one (.extension level))
  have used : (vault.payloads.insert vault.fresh (.one (.extension level))).get? vault.fresh ≠ none := by
    rw [Table.get?_insert, if_pos rfl]
    exact Option.some_ne_none _
  have tapped := added.obtain used (Nat.lt_succ_of_lt unused.opened) unused.untapped
  have kept := tapped.add_capability ⟨⟨name, true, some vault.fresh, some handle⟩, 2⟩
    fun other keeps => by
      cases keeps
      refine ⟨⟨vault.fresh, rfl, List.mem_append_right _ (List.mem_singleton.mpr rfl)⟩, ?_,
        unused.unkept⟩
      exact fun sharers member => unused.undropped sharers (mem_of_mem_concat member nofun)
  have registered := kept.of_registries (vault.registries.modify registry <|
    Shared.map fun state => { state with loaded := state.loaded.insert name (vault.fresh + 1) })
  rw [← Array.toList_push] at registered
  exact registered

theorem newId_bind {β : Type} (f : Nat → VaultCall β) (vault : Vault) (journal : Journal) :
    (newId >>= f) (vault, journal) =
      f vault.fresh ({ vault with fresh := vault.fresh + 1 }, journal) :=
  rfl

theorem guards_openCapability (disk : Disk) (registry : Nat) (loader : LibraryLoader)
    (name : String) (path : Path) :
    Keeps Guards (openCapability disk registry loader name path) := by
  refine (guards_tell _ rfl).bind_state fun _ => ?_
  cases loader.openLibrary disk path with
  | error cause => exact keeps_pure none
  | ok symbols =>
      rintro ⟨vault, journal⟩ held
      have opened := unused_new held loader.source path
      dsimp only
      rw [newId_bind]
      generalize LibraryHandle.mk vault.fresh loader.source path = handle at opened ⊢
      rw [tell_bind, tell_bind]
      have resolved := (opened.tell (.opened handle) rfl).tell
        (.resolved loader.source (LibraryLoader.registerSymbol name)) rfl
      cases LibraryLoader.findSymbol loader.source symbols (LibraryLoader.registerSymbol name) with
      | error cause => exact resolved.shut
      | ok level? =>
          have registered := resolved.tell (.registered handle level?) rfl
          cases level? with
          | none => exact registered.shut
          | some level => exact registered.keep registry name level

/-- What is done to a library that nothing comes out of. -/
def Idles (handle : LibraryHandle) (before after : Vault × Journal) : Prop :=
  Unused handle before → Unused handle after

instance (handle : LibraryHandle) : IsPreorder (Vault × Journal) (Idles handle) where
  refl _ unused := unused
  trans _ _ _ first second unused := second (first unused)

theorem guards_inspect (source : LibrarySource) (path : Path) (library : Symbols)
    (symbols : List String) : Keeps Guards (inspect source path library symbols) := by
  rintro ⟨vault, journal⟩ held
  have opened := unused_new held source path
  unfold inspect
  rw [newId_bind]
  generalize LibraryHandle.mk vault.fresh source path = handle at opened ⊢
  have answers : Keeps (Idles handle) (symbols.mapM fun symbol => do
      tell (.resolved source symbol)
      pure (LibraryLoader.findSymbol source library symbol) : VaultCall _) := by
    refine Keeps.mapM_state (fun symbol => ?_) symbols
    exact Keeps.bind_state (fun _ unused => unused.tell _ rfl) fun _ => Keeps.still fun _ => rfl
  exact (answers _ (opened.tell (.opened handle) rfl)).shut

theorem guards_probe (disk : Disk) (loader : LibraryLoader) (path : Path)
    (symbols : List String) : Keeps Guards (probe disk loader path symbols) := by
  unfold probe
  cases loader.openLibrary disk path with
  | error cause =>
      exact Keeps.ite ((guards_tell _ rfl).bind_state fun _ => keeps_pure _) (keeps_pure _)
  | ok library =>
      have look := (guards_inspect loader.source path library symbols).bind_state fun answers =>
        keeps_pure (Except.ok (ε := LibraryError) (path, answers))
      exact Keeps.ite ((guards_tell _ rfl).bind_state fun _ => look) look

theorem guards_load (disk : Disk) (registry : Nat) (name : String) (path : Option Path) :
    Keeps Guards (load disk registry name path) := by
  refine (guards_cached registry name).bind_state fun known => ?_
  cases known with
  | some id => exact keeps_pure _
  | none =>
      refine keeps_current.bind_state fun vault => ?_
      cases vault.registryAt? registry with
      | none => exact keeps_pure none
      | some state =>
          dsimp only
          cases state.builtins.get? name with
          | some factory => exact guards_makeBuiltin registry name factory
          | none => exact Keeps.ite (guards_openCapability _ _ _ _ _) (keeps_pure none)

theorem guards_require (disk : Disk) (registry : Nat) (name : String) (type : PayloadType) :
    Keeps Guards (require disk registry name type) := by
  refine (guards_load disk registry name none).bind_state fun found => ?_
  cases found with
  | none => exact keeps_pure _
  | some capability =>
      have finish (answer : Except Error (Nat × Payload)) :
          Keeps Guards (do release capability; pure answer : VaultCall _) :=
        (guards_release capability).bind_state fun _ => keeps_pure answer
      refine keeps_current.bind_state fun vault => ?_
      cases vault.payloadOf? capability with
      | none => exact (keeps_pure _).bind_state finish
      | some held =>
          refine Keeps.ite ?_ ((keeps_pure _).bind_state finish)
          exact (guards_holdPayload _).bind_state fun _ => (keeps_pure _).bind_state finish

end ScriptHost.Vault
