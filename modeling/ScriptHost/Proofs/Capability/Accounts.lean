import Mathlib.Data.List.Nodup
import ScriptHost.Proofs.Capability.Loading
import ScriptHost.Proofs.Capability.Tallies

/-!
# Who holds what, counted

Every share in the vault is somebody's.  A registry is held by clients, a capability by
clients and by the registries that have loaded it, a payload by clients and by its
capability, and an open library by its capability.  Against the lists of what is held
outside the vault, the books balance: each thing has as many holders as there are
references to it, and each library that was opened has been closed or is held.

A call on the vault changes the books by what it gives to its caller and by what it takes
back.  While a thing is taken apart its shares are in nobody's hands but the caller's, so
the books also balance between the steps of a call.
-/

namespace ScriptHost

namespace Vault

/-- The capabilities that registries have loaded. -/
def loadedBy (registries : Table Nat (Shared Registry)) : List Nat :=
  Shared.gather (fun registry => registry.loaded.values) registries

/-- The payloads that capabilities have. -/
def payloadsOf (capabilities : Table Nat (Shared Capability)) : List Nat :=
  Shared.gather (fun capability => capability.payload.toList) capabilities

/-- The libraries that capabilities hold open. -/
def librariesOf (capabilities : Table Nat (Shared Capability)) : List LibraryHandle :=
  Shared.gather (fun capability => capability.handle.toList) capabilities

/-- The vault against what is held outside of it: registries, capabilities, payloads, and
libraries that no capability has yet or has any more. -/
structure Books (closings : List Nat) (state : Vault × Journal)
    (registries capabilities payloads : List Nat)
    (handles : List LibraryHandle) : Prop where
  registries : Shared.Tally state.1.registries state.1.fresh registries
  capabilities : Shared.Tally state.1.capabilities state.1.fresh
    (capabilities ++ loadedBy state.1.registries)
  payloads : Shared.Tally state.1.payloads state.1.fresh
    (payloads ++ payloadsOf state.1.capabilities)
  /-- A library that was opened has been closed or is held. -/
  libraries : ∀ handle, state.2.toList.count (.opened handle) =
    state.2.toList.count (.closed handle) + (handles ++ librariesOf state.1.capabilities).count handle
  opened_once : ∀ handle, state.2.toList.count (.opened handle) ≤ 1
  opened_early : ∀ handle, .opened handle ∈ state.2.toList → handle.id < state.1.fresh
  /-- A capability that has a library came out of it, and has its payload. -/
  tied : ∀ id capability handle, state.1.capability? id = some capability →
    capability.handle = some handle →
      capability.isDynamic = true ∧ ∃ payload, capability.payload = some payload
  /-- No two capabilities have the same payload. -/
  apart : (payloadsOf state.1.capabilities).Nodup
  /-- A capability that was closed has no library. -/
  closed : ∀ id ∈ closings, id < state.1.fresh ∧
    ∀ capability, state.1.capability? id = some capability → capability.handle = none

/-- Whether an event opens or closes a library. -/
def turnsLibrary : Event → Bool
  | .opened _ | .closed _ => true
  | _ => false

namespace Books

variable {vault : Vault} {journal : Journal}
  {closings registries capabilities payloads : List Nat} {handles : List LibraryHandle}

theorem empty : Books [] (Vault.empty, #[]) [] [] [] [] where
  registries := .empty
  capabilities := .empty
  payloads := .empty
  libraries _ := rfl
  opened_once _ := Nat.zero_le 1
  opened_early _ member := nomatch member
  tied _ _ _ found := nomatch found
  apart := .nil
  closed _ member := nomatch member

/-- The order of what is held is of no account. -/
theorem perm {state : Vault × Journal} {registries' capabilities' payloads' : List Nat}
    (books : Books closings state registries capabilities payloads handles)
    (registries_perm : registries.Perm registries')
    (capabilities_perm : capabilities.Perm capabilities')
    (payloads_perm : payloads.Perm payloads') :
    Books closings state registries' capabilities' payloads' handles :=
  { books with
    registries := books.registries.perm registries_perm
    capabilities := books.capabilities.perm (capabilities_perm.append_right _)
    payloads := books.payloads.perm (payloads_perm.append_right _) }

/-- A number that is given away unused. -/
theorem later (books : Books closings (vault, journal) registries capabilities payloads handles) :
    Books closings ({ vault with fresh := vault.fresh + 1 }, journal) registries capabilities payloads
      handles :=
  { books with
    registries := books.registries.later (Nat.le_succ _)
    capabilities := books.capabilities.later (Nat.le_succ _)
    payloads := books.payloads.later (Nat.le_succ _)
    opened_early := fun handle member => Nat.lt_succ_of_lt (books.opened_early handle member)
    closed := fun id member =>
      ⟨Nat.lt_succ_of_lt (books.closed id member).1, (books.closed id member).2⟩ }

/-! ## The journal -/

theorem count_concat (history : List Event) (event other : Event) :
    (history ++ [event]).count other = history.count other + if event = other then 1 else 0 := by
  rw [List.count_append, List.count_singleton]
  simp only [beq_iff_eq]

theorem told (books : Books closings (vault, journal) registries capabilities payloads handles)
    (event : Event) (free : turnsLibrary event = false) :
    Books closings (vault, journal.push event) registries capabilities payloads handles := by
  have opened (handle : LibraryHandle) : event ≠ .opened handle := by
    rintro rfl
    cases free
  have closed (handle : LibraryHandle) : event ≠ .closed handle := by
    rintro rfl
    cases free
  refine { books with libraries := ?libraries, opened_once := ?opened_once, opened_early := ?early }
  case libraries =>
      intro handle
      rw [Array.toList_push, count_concat, count_concat, if_neg (opened handle),
        if_neg (closed handle)]
      exact books.libraries handle
  case opened_once =>
      intro handle
      rw [Array.toList_push, count_concat, if_neg (opened handle)]
      exact books.opened_once handle
  case early =>
      intro handle member
      rw [Array.toList_push] at member
      exact books.opened_early handle (mem_of_mem_concat member (opened handle).symm)

/-- A library is closed by whoever has it. -/
theorem shut {handle : LibraryHandle}
    (books : Books closings (vault, journal) registries capabilities payloads (handle :: handles)) :
    Books closings (vault, journal.push (.closed handle)) registries capabilities payloads handles := by
  refine { books with libraries := ?libraries, opened_once := ?opened_once, opened_early := ?early }
  case libraries =>
      intro other
      have balance := books.libraries other
      rw [List.cons_append, List.count_cons] at balance
      rw [Array.toList_push, count_concat, count_concat, if_neg (by simp), balance]
      by_cases same : handle = other
      · simp only [same, beq_self_eq_true, if_true]
        omega
      · have different : Event.closed handle ≠ .closed other := by simpa using same
        simp only [beq_iff_eq, if_neg same, if_neg different]
        omega
  case opened_once =>
      intro other
      rw [Array.toList_push, count_concat, if_neg (by simp)]
      exact books.opened_once other
  case early =>
      intro other member
      rw [Array.toList_push] at member
      exact books.opened_early other (mem_of_mem_concat member (by simp))

/-- A library is opened under a number that was never given before. -/
theorem opened (books : Books closings (vault, journal) registries capabilities payloads handles)
    (handle : LibraryHandle) (new : handle.id = vault.fresh) :
    Books closings ({ vault with fresh := vault.fresh + 1 }, journal.push (.opened handle)) registries
      capabilities payloads (handle :: handles) := by
  have unopened : Event.opened handle ∉ journal.toList := fun member =>
    Nat.lt_irrefl _ (new ▸ books.opened_early handle member)
  refine { books.later with
    libraries := ?libraries, opened_once := ?opened_once, opened_early := ?early }
  case libraries =>
      intro other
      have balance := books.libraries other
      rw [List.cons_append, List.count_cons, Array.toList_push, count_concat, count_concat,
        if_neg (by simp : Event.opened handle ≠ .closed other), balance]
      by_cases same : handle = other
      · simp only [same, beq_self_eq_true, if_true]
        omega
      · have different : Event.opened handle ≠ .opened other := by simpa using same
        simp only [beq_iff_eq, if_neg same, if_neg different]
        omega
  case opened_once =>
      intro other
      rw [Array.toList_push, count_concat]
      split
      next same =>
          have none := List.count_eq_zero_of_not_mem unopened
          rw [← same]
          omega
      next => exact books.opened_once other
  case early =>
      intro other member
      rw [Array.toList_push] at member
      rcases List.mem_append.mp member with old | added
      · exact Nat.lt_succ_of_lt (books.opened_early other old)
      · cases List.mem_singleton.mp added
        exact new ▸ Nat.lt_succ_self _

/-! ## Shares that are given and taken back -/

theorem of_payloads {table : Table Nat (Shared Payload)} {payloads' : List Nat}
    (books : Books closings (vault, journal) registries capabilities payloads handles)
    (tally : Shared.Tally table vault.fresh (payloads' ++ payloadsOf vault.capabilities)) :
    Books closings ({ vault with payloads := table }, journal) registries capabilities payloads' handles :=
  { books with payloads := tally }

theorem holdPayload {id : Nat}
    (books : Books closings (vault, journal) registries capabilities payloads handles)
    (held : id ∈ payloads ++ payloadsOf vault.capabilities) :
    Books closings (Vault.holdPayload id (vault, journal)).2 registries capabilities (id :: payloads)
      handles :=
  books.of_payloads (books.payloads.hold held)

theorem releasePayload {id : Nat} {state : Vault × Journal}
    (books : Books closings state registries capabilities (id :: payloads) handles) :
    Books closings (Vault.releasePayload id state).2 registries capabilities payloads handles := by
  rcases state with ⟨vault, journal⟩
  have left := books.of_payloads books.payloads.letGo
  unfold Vault.releasePayload
  rw [current_bind]
  generalize Shared.letGo vault.payloads id = ended at left ⊢
  rcases ended with ⟨gone, table⟩
  cases gone with
  | none => exact left
  | some payload => exact left.told (.payloadFreed id payload) rfl

theorem addPayload (payload : Payload)
    (books : Books closings (vault, journal) registries capabilities payloads handles) :
    Books closings (Vault.addPayload payload (vault, journal)).2 registries capabilities
      (vault.fresh :: payloads) handles :=
  books.later.of_payloads (books.payloads.add payload Nat.zero_lt_one)

/-- What a capability had is in the hands of the one who takes it apart. -/
theorem dismantle {capability : Capability} {state : Vault × Journal}
    (books : Books closings state registries capabilities (capability.payload.toList ++ payloads)
      (capability.handle.toList ++ handles)) :
    Books closings (Vault.dismantle capability state).2 registries capabilities payloads handles := by
  unfold Vault.dismantle
  cases has : capability.payload <;> cases keeps : capability.handle <;> rw [has, keeps] at books
  case none.none => exact books
  case none.some handle => exact books.shut
  case some.none payload => exact books.releasePayload
  case some.some payload handle => exact books.releasePayload.shut

/-- Capabilities change, and what they have comes into the hands of the caller. -/
theorem of_capabilities {table : Table Nat (Shared Capability)} {capabilities' : List Nat}
    (books : Books closings (vault, journal) registries capabilities payloads handles)
    (payload : List Nat) (handle : List LibraryHandle)
    (tally : Shared.Tally table vault.fresh (capabilities' ++ loadedBy vault.registries))
    (same : ∀ id capability handle, Shared.value? table id = some capability →
      capability.handle = some handle → vault.capability? id = some capability)
    (payloads_perm : (payloadsOf vault.capabilities).Perm (payload ++ payloadsOf table))
    (handles_perm : (librariesOf vault.capabilities).Perm (handle ++ librariesOf table)) :
    Books closings ({ vault with capabilities := table }, journal) registries capabilities'
      (payload ++ payloads) (handle ++ handles) := by
  constructor
  case registries => exact books.registries
  case capabilities => exact tally
  case payloads => exact books.payloads.perm (Shared.perm_shift payloads payloads_perm)
  case libraries =>
      intro other
      rw [books.libraries other, (Shared.perm_shift handles handles_perm).count_eq]
  case opened_once => exact books.opened_once
  case opened_early => exact books.opened_early
  case tied =>
      exact fun id capability handle found keeps =>
        books.tied id capability handle (same id capability handle found keeps) keeps
  case apart => exact (List.nodup_append.mp (payloads_perm.nodup books.apart)).2.1
  case closed =>
      refine fun id member => ⟨(books.closed id member).1, fun capability found => ?_⟩
      cases keeps : capability.handle with
      | none => rfl
      | some handle =>
          have was := same id capability handle found keeps
          rw [← keeps]
          exact (books.closed id member).2 capability was

theorem hold {id : Nat} (books : Books closings (vault, journal) registries capabilities payloads handles)
    (held : id ∈ capabilities ++ loadedBy vault.registries) :
    Books closings (Vault.hold id (vault, journal)).2 registries (id :: capabilities) payloads handles := by
  refine books.of_capabilities [] [] (books.capabilities.hold held) ?_
    (Shared.gather_hold _ books.capabilities.distinct id).symm
    (Shared.gather_hold _ books.capabilities.distinct id).symm
  intro other capability handle found _
  rwa [Shared.value?_hold] at found

theorem release {id : Nat} {state : Vault × Journal}
    (books : Books closings state registries (id :: capabilities) payloads handles) :
    Books closings (Vault.release id state).2 registries capabilities payloads handles := by
  rcases state with ⟨vault, journal⟩
  have distinct := books.capabilities.distinct
  have values := Shared.value?_letGo vault.capabilities id
  have payloads_perm := Shared.gather_letGo (fun capability => capability.payload.toList) distinct id
  have handles_perm := Shared.gather_letGo (fun capability => capability.handle.toList) distinct id
  have tally := books.capabilities.letGo
  unfold Vault.release
  rw [current_bind]
  dsimp only at payloads_perm handles_perm tally
  generalize Shared.letGo vault.capabilities id = ended at values payloads_perm handles_perm tally ⊢
  rcases ended with ⟨gone, table⟩
  have left := books.of_capabilities _ _ tally ?same payloads_perm handles_perm
  case same =>
      intro other capability handle found _
      rw [values] at found
      split at found
      · cases found
      · exact found
  cases gone with
  | none => exact left
  | some capability =>
      dsimp only
      rw [change_bind]
      cases keeps : capability.handle with
      | none => exact left.dismantle
      | some handle => exact (left.told (.dropped handle _) rfl).dismantle

theorem releases {ids : List Nat} {state : Vault × Journal}
    (books : Books closings state registries (ids ++ capabilities) payloads handles) :
    Books closings (ids.forM Vault.release state).2 registries capabilities payloads handles := by
  induction ids generalizing state with
  | nil => exact books
  | cons id rest ih => exact ih books.release

/-! ## Registries -/

/-- Registries change, and what they have loaded goes over to the caller or comes from there. -/
theorem of_registries {table : Table Nat (Shared Registry)} {registries' capabilities' : List Nat}
    (books : Books closings (vault, journal) registries capabilities payloads handles)
    (tally : Shared.Tally table vault.fresh registries')
    (moved : (capabilities ++ loadedBy vault.registries).Perm (capabilities' ++ loadedBy table)) :
    Books closings ({ vault with registries := table }, journal) registries' capabilities' payloads
      handles :=
  { books with registries := tally, capabilities := books.capabilities.perm moved }

theorem addRegistry (builtins : Table String Factory) (libraries : LibraryLoader)
    (books : Books closings (vault, journal) registries capabilities payloads handles) :
    Books closings (Vault.addRegistry builtins libraries (vault, journal)).2 (vault.fresh :: registries)
      capabilities payloads handles := by
  have added := Shared.gather_add (fun registry : Registry => registry.loaded.values)
    books.registries.distinct (books.registries.absent_of_le (Nat.le_refl _))
    (.one ⟨builtins, libraries, .empty⟩)
  exact books.later.of_registries
    (books.registries.add ⟨builtins, libraries, .empty⟩ Nat.zero_lt_one) (added.symm.append_left _)

theorem holdRegistry {id : Nat}
    (books : Books closings (vault, journal) registries capabilities payloads handles)
    (held : id ∈ registries) :
    Books closings (Vault.holdRegistry id (vault, journal)).2 (id :: registries) capabilities payloads
      handles :=
  books.of_registries (books.registries.hold held)
    ((Shared.gather_hold _ books.registries.distinct id).symm.append_left _)

theorem releaseRegistry {id : Nat} {state : Vault × Journal}
    (books : Books closings state (id :: registries) capabilities payloads handles) :
    Books closings (Vault.releaseRegistry id state).2 registries capabilities payloads handles := by
  rcases state with ⟨vault, journal⟩
  have loaded_perm := Shared.gather_letGo (fun registry : Registry => registry.loaded.values)
    books.registries.distinct id
  have tally := books.registries.letGo
  unfold Vault.releaseRegistry
  rw [current_bind]
  dsimp only at loaded_perm tally
  generalize Shared.letGo vault.registries id = ended at loaded_perm tally ⊢
  rcases ended with ⟨gone, table⟩
  have left := books.of_registries tally (Shared.perm_shift capabilities loaded_perm)
  cases gone with
  | none => exact left
  | some registry => exact left.releases

/-! ## Loading -/

/-- What a registry has loaded is remembered by it. -/
theorem mem_loadedBy {registry id : Nat} {name : String}
    (loaded : vault.loadedAs? registry name = some id) : id ∈ loadedBy vault.registries := by
  rcases Option.bind_eq_some_iff.mp loaded with ⟨state, alive, found⟩
  rcases Option.map_eq_some_iff.mp alive with ⟨shared, there, rfl⟩
  exact Shared.mem_gather _ there (Table.mem_values found)

theorem mem_payloadsOf {id : Nat} {held : Nat × Payload} (found : vault.payloadOf? id = some held) :
    held.1 ∈ payloadsOf vault.capabilities := by
  rcases Option.bind_eq_some_iff.mp found with ⟨capability, at_id, rest⟩
  rcases Option.bind_eq_some_iff.mp rest with ⟨payload, has, rest⟩
  rcases Option.bind_eq_some_iff.mp rest with ⟨value, _, same⟩
  rcases Option.map_eq_some_iff.mp at_id with ⟨shared, there, rfl⟩
  cases same
  exact Shared.mem_gather _ there (Option.mem_toList.mpr has)

theorem cached (registry : Nat) (name : String)
    (books : Books closings (vault, journal) registries capabilities payloads handles) :
    Books closings (Vault.cached registry name (vault, journal)).2 registries
      ((Vault.cached registry name (vault, journal)).1.toList ++ capabilities) payloads handles := by
  cases loaded : vault.loadedAs? registry name with
  | none =>
      rw [cached_of_unloaded loaded]
      exact books
  | some id =>
      have held := books.hold (List.mem_append_right capabilities (mem_loadedBy loaded))
      unfold Vault.cached
      rw [current_bind]
      unfold loadedAs? at loaded
      rw [loaded]
      exact held

theorem holdPayloadOf (id : Nat)
    (books : Books closings (vault, journal) registries capabilities payloads handles) :
    Books closings (Vault.holdPayloadOf id (vault, journal)).2 registries capabilities
      ((Vault.holdPayloadOf id (vault, journal)).1.toList ++ payloads) handles := by
  unfold Vault.holdPayloadOf
  rw [current_bind]
  cases found : vault.payloadOf? id with
  | none => exact books
  | some held => exact books.holdPayload (List.mem_append_right _ (mem_payloadsOf found))

/-- A new capability is given what its maker had, for so many holders. -/
theorem addCapability {capability : Capability} {holders : Nat} (positive : 0 < holders)
    (books : Books closings (vault, journal) registries capabilities
      (capability.payload.toList ++ payloads) (capability.handle.toList ++ handles))
    (tied : ∀ handle, capability.handle = some handle →
      capability.isDynamic = true ∧ ∃ payload, capability.payload = some payload)
    (apart : ∀ payload, capability.payload = some payload →
      payload ∉ payloadsOf vault.capabilities) :
    Books closings (Vault.addCapability capability holders (vault, journal)).2 registries
      (List.replicate holders vault.fresh ++ capabilities) payloads handles := by
  have absent := books.capabilities.absent_of_le (Nat.le_refl vault.fresh)
  have distinct := books.capabilities.distinct
  have payloads_perm := Shared.gather_add (fun capability => capability.payload.toList) distinct
    absent ⟨capability, holders⟩
  have handles_perm := Shared.gather_add (fun capability => capability.handle.toList) distinct
    absent ⟨capability, holders⟩
  refine { books.later with
    capabilities := ?capabilities, payloads := ?payloads, libraries := ?libraries, tied := ?tied
    apart := ?apart, closed := ?closed }
  case capabilities =>
      rw [List.append_assoc]
      exact books.capabilities.add capability positive
  case payloads => exact books.later.payloads.perm (Shared.perm_shift payloads payloads_perm).symm
  case libraries =>
      intro handle
      have same := (Shared.perm_shift handles handles_perm).symm.count_eq handle
      exact (books.libraries handle).trans (congrArg (_ + ·) same)
  case tied =>
      intro id other handle found keeps
      change Option.map _ (Table.get? (Table.insert _ _ _) id) = _ at found
      rw [Table.get?_insert] at found
      split at found
      · cases found
        exact tied handle keeps
      · exact books.tied id other handle found keeps
  case apart =>
      refine payloads_perm.symm.nodup (List.nodup_append.mpr ⟨?_, books.apart, ?_⟩)
      · dsimp only
        cases capability.payload
        · exact .nil
        · exact List.pairwise_singleton _ _
      · rintro payload has _ member rfl
        exact apart payload (Option.mem_toList.mp has) member
  case closed =>
      intro id member
      rcases books.closed id member with ⟨early, shut⟩
      refine ⟨Nat.lt_succ_of_lt early, fun other found => ?_⟩
      change Option.map _ (Table.get? (Table.insert _ _ _) id) = _ at found
      rw [Table.get?_insert, if_neg (Nat.ne_of_gt early)] at found
      exact shut other found

/-- A registry that has not loaded a name remembers something under it. -/
theorem loadedBy_remembering {shared : Shared Registry} {registry : Nat} (id : Nat) {name : String}
    {table : Table Nat (Shared Registry)} (distinct : table.keys.Nodup)
    (there : table.get? registry = some shared) (new : shared.value.loaded.get? name = none) :
    (loadedBy (table.modify registry <| Shared.map fun state =>
      { state with loaded := state.loaded.insert name id })).Perm (id :: loadedBy table) := by
  have split := Shared.gather_split (fun registry : Registry => registry.loaded.values) distinct there
  refine (Shared.gather_modify (fun registry : Registry => registry.loaded.values) distinct there
    _).trans ?_
  dsimp only [Shared.map]
  rw [Table.values_insert_of_absent new, List.append_assoc]
  exact List.perm_middle.trans (split.symm.cons id)

/-- A registry that is there remembers a new capability, under a name that it has not loaded.
What the capability is given comes from the caller, who gets a share of it. -/
theorem remember {registry : Nat} {state : Registry} (capability : Capability)
    (books : Books closings (vault, journal) registries capabilities
      (capability.payload.toList ++ payloads) (capability.handle.toList ++ handles))
    (alive : vault.registryAt? registry = some state)
    (unloaded : state.loaded.get? capability.name = none)
    (tied : ∀ handle, capability.handle = some handle →
      capability.isDynamic = true ∧ ∃ payload, capability.payload = some payload)
    (apart : ∀ payload, capability.payload = some payload →
      payload ∉ payloadsOf vault.capabilities) :
    Books closings (Vault.remember registry capability (vault, journal)).2 registries
      ((Vault.remember registry capability (vault, journal)).1 :: capabilities) payloads handles := by
  have added := books.addCapability Nat.zero_lt_two tied apart
  rcases Option.map_eq_some_iff.mp alive with ⟨shared, there, rfl⟩
  have loaded_perm := loadedBy_remembering vault.fresh books.registries.distinct there
    unloaded
  refine added.of_registries (added.registries.modify registry _) ?_
  rw [← List.singleton_append] at loaded_perm
  exact (Shared.perm_shift (vault.fresh :: capabilities) loaded_perm).symm

theorem makeBuiltin {registry : Nat} {state : Registry} {name : String} (factory : Factory)
    (books : Books closings (vault, journal) registries capabilities payloads handles)
    (alive : vault.registryAt? registry = some state) (unloaded : state.loaded.get? name = none) :
    Books closings (Vault.makeBuiltin registry name factory (vault, journal)).2 registries
      ((Vault.makeBuiltin registry name factory (vault, journal)).1.toList ++ capabilities) payloads
      handles := by
  have called := books.told (.factory name factory.isFoundation) rfl
  unfold Vault.makeBuiltin
  rw [tell_bind]
  cases factory.result with
  | error error => exact called.told (.log (failedFactory name error)) rfl
  | ok payload =>
      refine (called.addPayload payload).remember (⟨name, false, some vault.fresh, none⟩)
        alive unloaded nofun ?_
      rintro _ ⟨⟩ member
      exact Nat.lt_irrefl _ (books.payloads.lt_of_mem (List.mem_append_right _ member))

theorem openCapability {registry : Nat} {state : Registry} {name : String} (disk : Disk)
    (loader : LibraryLoader) (path : Path)
    (books : Books closings (vault, journal) registries capabilities payloads handles)
    (alive : vault.registryAt? registry = some state) (unloaded : state.loaded.get? name = none) :
    Books closings (Vault.openCapability disk registry loader name path (vault, journal)).2 registries
      ((Vault.openCapability disk registry loader name path (vault, journal)).1.toList ++
        capabilities) payloads handles := by
  have asked := books.told (.opening loader.source path) rfl
  unfold Vault.openCapability
  rw [tell_bind]
  cases loader.openLibrary disk path with
  | error cause => exact asked
  | ok symbols =>
      dsimp only
      rw [newId_bind, tell_bind, tell_bind]
      have opened := asked.opened (⟨vault.fresh, loader.source, path⟩) rfl
      have resolved := opened.told (.resolved loader.source (LibraryLoader.registerSymbol name)) rfl
      cases LibraryLoader.findSymbol loader.source symbols (LibraryLoader.registerSymbol name) with
      | error cause => exact resolved.shut
      | ok level? =>
          dsimp only
          rw [tell_bind]
          have registered := resolved.told (.registered ⟨vault.fresh, loader.source, path⟩ level?) rfl
          cases level? with
          | none => exact registered.shut
          | some level =>
              have obtained := (registered.addPayload (.extension level)).told (.obtained (vault.fresh + 1) ⟨vault.fresh, loader.source, path⟩) rfl
              refine obtained.remember (⟨name, true, some (vault.fresh + 1),
                some ⟨vault.fresh, loader.source, path⟩⟩) alive unloaded
                (fun _ _ => ⟨rfl, _, rfl⟩) ?_
              rintro _ ⟨⟩ member
              exact Nat.lt_irrefl _
                (registered.payloads.lt_of_mem (List.mem_append_right _ member))

theorem load (disk : Disk) (registry : Nat) (name : String) (path : Option Path)
    (books : Books closings (vault, journal) registries capabilities payloads handles) :
    Books closings (Vault.load disk registry name path (vault, journal)).2 registries
      ((Vault.load disk registry name path (vault, journal)).1.toList ++ capabilities) payloads
      handles := by
  cases loaded : vault.loadedAs? registry name with
  | some id =>
      rw [load_of_loaded loaded]
      exact books.cached registry name
  | none =>
      unfold Vault.load
      rw [call_bind, cached_of_unloaded loaded]
      dsimp only
      rw [current_bind]
      cases alive : vault.registryAt? registry with
      | none => exact books
      | some state =>
          rw [loadedAs?, alive] at loaded
          dsimp only
          cases state.builtins.get? name with
          | some factory => exact books.makeBuiltin factory alive loaded
          | none =>
              by_cases supported : state.libraries.isSupported = true
              · simp only [if_pos supported]
                exact books.openCapability disk _ _ alive loaded
              · simp only [if_neg supported]
                exact books

theorem finishRequire {capability : Nat} {name : String} {type : PayloadType}
    (books : Books closings (vault, journal) registries (capability :: capabilities) payloads handles) :
    Books closings (Vault.finishRequire capability name type (vault, journal)).2 registries capabilities
      ((Vault.finishRequire capability name type (vault, journal)).1.toOption.toList.map Prod.fst ++
        payloads) handles := by
  unfold Vault.finishRequire
  rw [current_bind]
  cases found : vault.payloadOf? capability with
  | none => exact books.release
  | some held =>
      by_cases admits : type.admits held.2 = true
      · simp only [if_pos admits]
        exact (books.holdPayload (List.mem_append_right _ (mem_payloadsOf found))).release
      · simp only [if_neg admits]
        exact books.release

theorem require (disk : Disk) (registry : Nat) (name : String) (type : PayloadType)
    (books : Books closings (vault, journal) registries capabilities payloads handles) :
    Books closings (Vault.require disk registry name type (vault, journal)).2 registries capabilities
      ((Vault.require disk registry name type (vault, journal)).1.toOption.toList.map Prod.fst ++
        payloads) handles := by
  have loaded := books.load disk registry name none
  rw [require_eq]
  generalize Vault.load disk registry name none (vault, journal) = ended at loaded ⊢
  rcases ended with ⟨answer, after, later⟩
  cases answer with
  | none => exact loaded
  | some capability => exact loaded.finishRequire

/-! ## Looking into a library -/

/-- The books stay as they are. -/
def Settles (closings registries capabilities payloads : List Nat) (handles : List LibraryHandle)
    (before after : Vault × Journal) : Prop :=
  Books closings before registries capabilities payloads handles →
    Books closings after registries capabilities payloads handles

instance : IsPreorder (Vault × Journal) (Settles closings registries capabilities payloads handles) where
  refl _ books := books
  trans _ _ _ first second books := second (first books)

theorem settles_tell {event : Event} (free : turnsLibrary event = false) :
    Keeps (Settles closings registries capabilities payloads handles) (tell event) :=
  fun _ books => books.told _ free

/-- A library that is opened only to look into it is closed again. -/
theorem settles_inspect (source : LibrarySource) (path : Path) (library : Symbols)
    (symbols : List String) : Keeps (Settles closings registries capabilities payloads handles)
      (inspect source path library symbols) := by
  rintro ⟨vault, journal⟩ books
  have opened := books.opened (⟨vault.fresh, source, path⟩) rfl
  unfold inspect
  rw [newId_bind]
  generalize LibraryHandle.mk vault.fresh source path = handle at opened ⊢
  have answers : Keeps (Settles closings registries capabilities payloads (handle :: handles))
      (symbols.mapM fun symbol => do
        tell (.resolved source symbol)
        pure (LibraryLoader.findSymbol source library symbol) : VaultCall _) := by
    refine Keeps.mapM_state (fun symbol => ?_) symbols
    exact (settles_tell rfl).bind_state fun _ => keeps_pure _
  exact (answers _ opened).shut

theorem settles_probe (disk : Disk) (loader : LibraryLoader) (path : Path)
    (symbols : List String) : Keeps (Settles closings registries capabilities payloads handles)
      (probe disk loader path symbols) := by
  unfold probe
  cases loader.openLibrary disk path with
  | error cause =>
      exact Keeps.ite ((settles_tell rfl).bind_state fun _ => keeps_pure _) (keeps_pure _)
  | ok library =>
      have look : Keeps (Settles closings registries capabilities payloads handles) (do
          let answers ← inspect loader.source path library symbols
          pure (.ok (path, answers)) : VaultCall (Except LibraryError _)) :=
        (settles_inspect loader.source path library symbols).bind_state fun _ => keeps_pure _
      exact Keeps.ite ((settles_tell rfl).bind_state fun _ => look) look

/-! ## Closing -/

/-- A capability as a closing leaves it. -/
def emptied (capability : Capability) : Capability :=
  { capability with payload := none, handle := none }

theorem capability?_emptied (vault : Vault) (id other : Nat) :
    capability? { vault with capabilities := vault.capabilities.modify id (Shared.map emptied) }
        other =
      if id = other then (vault.capability? other).map emptied else vault.capability? other := by
  unfold capability? Shared.value?
  dsimp only
  rw [Table.get?_modify]
  split
  · rw [Option.map_map, Option.map_map]
    rfl
  · rfl

/-- What a closed capability had comes into the hands of the caller. -/
theorem emptied_books {id : Nat} {capability : Capability}
    (books : Books closings (vault, journal) registries capabilities payloads handles)
    (found : vault.capability? id = some capability) :
    Books (id :: closings)
      ({ vault with capabilities := vault.capabilities.modify id (Shared.map emptied) }, journal)
      registries capabilities (capability.payload.toList ++ payloads)
      (capability.handle.toList ++ handles) := by
  have distinct := books.capabilities.distinct
  have shown := capability?_emptied vault id
  rcases Option.map_eq_some_iff.mp found with ⟨shared, there, rfl⟩
  have payloads_perm := Shared.gather_empty (fun capability : Capability =>
    capability.payload.toList) distinct there (Shared.map emptied) rfl
  have handles_perm := Shared.gather_empty (fun capability : Capability =>
    capability.handle.toList) distinct there (Shared.map emptied) rfl
  have changed := books.of_capabilities _ _ (books.capabilities.modify id emptied) ?same
    payloads_perm handles_perm
  case same =>
      intro other capability handle at_other keeps
      replace at_other := (shown other).symm.trans at_other
      split at at_other
      · rcases Option.map_eq_some_iff.mp at_other with ⟨_, _, rfl⟩
        cases keeps
      · exact at_other
  refine { changed with closed := fun other member => ?_ }
  rcases List.mem_cons.mp member with rfl | old
  · refine ⟨books.capabilities.early other shared there, fun capability at_other => ?_⟩
    rw [shown, if_pos rfl] at at_other
    rcases Option.map_eq_some_iff.mp at_other with ⟨_, _, rfl⟩
    rfl
  · exact changed.closed other old

/-- Besides its capability, those hold a payload who refer to it from outside. -/
theorem payloadHolders_eq {id payload : Nat} {capability : Capability}
    (books : Books closings (vault, journal) registries capabilities payloads handles)
    (found : vault.capability? id = some capability) (has : capability.payload = some payload) :
    vault.payloadHolders payload = payloads.count payload + 1 := by
  rcases Option.map_eq_some_iff.mp found with ⟨shared, there, rfl⟩
  have member : payload ∈ payloadsOf vault.capabilities :=
    Shared.mem_gather _ there (Option.mem_toList.mpr has)
  change Shared.holdersAt vault.payloads payload = _
  rw [books.payloads.counted, List.count_append,
    List.count_eq_one_of_mem books.apart member]

/-- A capability without a library, or with a payload that is held elsewhere, is not closed. -/
theorem close_refused {id : Nat} {capability : Capability} (journal : Journal)
    (found : vault.capability? id = some capability)
    (refused : capability.handle = none ∨
      ∃ payload, capability.payload = some payload ∧ 1 < vault.payloadHolders payload) :
    Vault.close id (vault, journal) = (false, vault, journal) := by
  unfold Vault.close
  rw [current_bind, found]
  rcases refused with shut | ⟨payload, has, shared⟩
  · simp only [Capability.isOpen, shut, Option.isSome_none, Bool.not_false, Bool.true_or, if_true]
    rfl
  · simp only [has, decide_eq_true shared, Bool.or_true, if_true]
    rfl

/-- A capability with a library and with a payload that nobody else holds is taken apart. -/
theorem close_granted {id payload : Nat} {capability : Capability} {handle : LibraryHandle}
    (journal : Journal) (found : vault.capability? id = some capability)
    (keeps : capability.handle = some handle) (has : capability.payload = some payload)
    (alone : vault.payloadHolders payload = 1) :
    Vault.close id (vault, journal) = (true, (Vault.dismantle capability
      ({ vault with capabilities := vault.capabilities.modify id (Shared.map emptied) },
        journal)).2) := by
  have unshared : ¬1 < vault.payloadHolders payload := alone ▸ Nat.lt_irrefl 1
  unfold Vault.close
  rw [current_bind, found]
  simp only [Capability.isOpen, keeps, has, decide_eq_false unshared, Option.isSome_some,
    Bool.not_true, Bool.or_false, Bool.false_eq_true, if_false]
  rfl

/-- A capability that is the only holder of its payload is taken apart by freeing the payload and
then closing the library. -/
theorem dismantle_alone {payload : Nat} {capability : Capability} {handle : LibraryHandle}
    (journal : Journal) (keeps : capability.handle = some handle)
    (has : capability.payload = some payload) (alone : vault.payloadHolders payload = 1) :
    ∃ value, (Vault.dismantle capability (vault, journal)).2 =
      ({ vault with payloads := vault.payloads.erase payload },
        (journal.push (.payloadFreed payload value)).push (.closed handle)) := by
  unfold Vault.dismantle
  rw [has, keeps]
  dsimp only
  rw [call_bind]
  rcases releasePayload_cases vault journal payload with
    ⟨gone, _⟩ | ⟨shared, _, _, ended⟩ | ⟨shared, used, more, _⟩
  · rw [payloadHolders_of_none gone] at alone
    cases alone
  · rw [ended]
    exact ⟨shared.value, rfl⟩
  · rw [payloadHolders_of_some used] at alone
    exact absurd more (alone ▸ Nat.lt_irrefl 1)

/-- Whether a capability is closed depends on its library and on who else holds its payload. -/
theorem close_cases {capability : Capability} {id : Nat} {journal : Journal}
    (books : Books closings (vault, journal) registries capabilities payloads handles)
    (found : vault.capability? id = some capability) :
    Vault.close id (vault, journal) = (false, vault, journal) ∧
        (capability.handle = none ∨
          ∃ payload, capability.payload = some payload ∧ vault.payloadHolders payload ≠ 1) ∨
      ∃ payload handle, capability.payload = some payload ∧ capability.handle = some handle ∧
        vault.payloadHolders payload = 1 ∧
        Vault.close id (vault, journal) = (true, (Vault.dismantle capability
          ({ vault with capabilities := vault.capabilities.modify id (Shared.map emptied) },
            journal)).2) := by
  cases keeps : capability.handle with
  | none => exact .inl ⟨close_refused journal found (.inl keeps), .inl rfl⟩
  | some handle =>
      rcases (books.tied id capability handle found keeps).2 with ⟨payload, has⟩
      have holders := books.payloadHolders_eq found has
      by_cases elsewhere : payload ∈ payloads
      · have shared : 1 < vault.payloadHolders payload := by
          rw [holders]
          exact Nat.succ_lt_succ (List.count_pos_iff.mpr elsewhere)
        exact .inl ⟨close_refused journal found (.inr ⟨payload, has, shared⟩),
          .inr ⟨payload, has, Nat.ne_of_gt shared⟩⟩
      · rw [List.count_eq_zero_of_not_mem elsewhere] at holders
        exact .inr ⟨payload, handle, has, rfl, holders,
          close_granted journal found keeps has holders⟩

/-- What is not there is not closed. -/
theorem close_of_none {id : Nat} (gone : vault.capability? id = none) (journal : Journal) :
    Vault.close id (vault, journal) = (false, vault, journal) := by
  unfold Vault.close
  rw [current_bind, gone]
  rfl

theorem close (id : Nat) {state : Vault × Journal}
    (books : Books closings state registries capabilities payloads handles) :
    Books (if (Vault.close id state).1 then id :: closings else closings) (Vault.close id state).2
      registries capabilities payloads handles := by
  rcases state with ⟨vault, journal⟩
  cases found : vault.capability? id with
  | none =>
      rw [close_of_none found]
      exact books
  | some capability =>
      rcases books.close_cases found with ⟨refused, _⟩ | ⟨payload, handle, _, _, _, granted⟩
      · rw [refused]
        exact books
      · rw [granted]
        exact (books.emptied_books found).dismantle

/-- A capability is closed once. -/
theorem close_of_mem {id : Nat} {state : Vault × Journal}
    (books : Books closings state registries capabilities payloads handles) (member : id ∈ closings) :
    (Vault.close id state).1 = false := by
  rcases state with ⟨vault, journal⟩
  cases found : vault.capability? id with
  | none => rw [close_of_none found]
  | some capability =>
      have shut := (books.closed id member).2 capability found
      rw [close_refused journal found (.inl shut)]

end Books

end Vault

end ScriptHost
