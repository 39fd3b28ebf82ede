import ScriptHost.Proofs.Capability.Accounts

/-!
# Clients of the vault

A client uses what it has references to: it loads capabilities through its registries,
takes and passes on shares of payloads, closes capabilities, and drops its references in
any order.  Its references and the vault are the two sides of the books, so that nothing is
left in the vault when the client has dropped them, and what was opened has been closed.
-/

namespace ScriptHost.Vault

/-- What a client does. -/
inductive Deed where
  /-- Make a registry. -/
  | addRegistry (builtins : Table String Factory) (libraries : LibraryLoader)
  /-- Take another reference to a registry. -/
  | holdRegistry (id : Nat)
  /-- Drop a reference to a registry. -/
  | dropRegistry (id : Nat)
  /-- Load a capability, as the disk is then. -/
  | load (disk : Disk) (registry : Nat) (name : String) (path : Option Path)
  /-- Take the payload of a capability that must be there. -/
  | require (disk : Disk) (registry : Nat) (name : String) (type : PayloadType)
  /-- Look whether a name has been loaded. -/
  | get (registry : Nat) (name : String)
  /-- Take another reference to a capability. -/
  | hold (id : Nat)
  /-- Drop a reference to a capability. -/
  | drop (id : Nat)
  /-- Close a capability. -/
  | close (id : Nat)
  /-- Take the payload of a capability. -/
  | takePayload (id : Nat)
  /-- Take another reference to a payload. -/
  | holdPayload (id : Nat)
  /-- Drop a reference to a payload. -/
  | dropPayload (id : Nat)
  /-- Look into a library. -/
  | probe (disk : Disk) (loader : LibraryLoader) (path : Path) (symbols : List String)

/-- A client: the vault and the journal as it finds them, its references, and the capabilities
whose closing has succeeded. -/
structure Client where
  /-- The vault and the journal. -/
  state : Vault × Journal
  /-- The registries that it refers to. -/
  registries : List Nat
  /-- The capabilities that it refers to. -/
  capabilities : List Nat
  /-- The payloads that it refers to. -/
  payloads : List Nat
  /-- The capabilities that it has closed. -/
  closings : List Nat

namespace Client

/-- A client that has done nothing. -/
def start : Client := ⟨(.empty, #[]), [], [], [], []⟩

/-- What has happened. -/
def history (client : Client) : List Event :=
  client.state.2.toList

/-- What a call tells. -/
def news {α : Type} (client : Client) (call : VaultCall α) : List Event :=
  (call client.state).2.2.toList.drop client.history.length

/-- Whether the client has the reference that a deed takes. -/
def allows (client : Client) : Deed → Bool
  | .addRegistry .. | .probe .. => true
  | .holdRegistry id | .dropRegistry id | .load _ id .. | .require _ id .. | .get id _ =>
      decide (id ∈ client.registries)
  | .hold id | .drop id | .close id | .takePayload id => decide (id ∈ client.capabilities)
  | .holdPayload id | .dropPayload id => decide (id ∈ client.payloads)

/-- The client after a deed that it has the reference for. -/
def perform (client : Client) : Deed → Client
  | .addRegistry builtins libraries =>
      let (id, state) := Vault.addRegistry builtins libraries client.state
      { client with state, registries := id :: client.registries }
  | .holdRegistry id =>
      { client with
        state := (Vault.holdRegistry id client.state).2
        registries := id :: client.registries }
  | .dropRegistry id =>
      { client with
        state := (Vault.releaseRegistry id client.state).2
        registries := client.registries.erase id }
  | .load disk registry name path =>
      let (id?, state) := Vault.load disk registry name path client.state
      { client with state, capabilities := id?.toList ++ client.capabilities }
  | .require disk registry name type =>
      let (answer, state) := Vault.require disk registry name type client.state
      { client with state, payloads := answer.toOption.toList.map Prod.fst ++ client.payloads }
  | .get registry name =>
      let (id?, state) := Vault.cached registry name client.state
      { client with state, capabilities := id?.toList ++ client.capabilities }
  | .hold id =>
      { client with
        state := (Vault.hold id client.state).2
        capabilities := id :: client.capabilities }
  | .drop id =>
      { client with
        state := (Vault.release id client.state).2
        capabilities := client.capabilities.erase id }
  | .close id =>
      let (closed, state) := Vault.close id client.state
      { client with state, closings := if closed then id :: client.closings else client.closings }
  | .takePayload id =>
      let (id?, state) := Vault.holdPayloadOf id client.state
      { client with state, payloads := id?.toList ++ client.payloads }
  | .holdPayload id =>
      { client with
        state := (Vault.holdPayload id client.state).2
        payloads := id :: client.payloads }
  | .dropPayload id =>
      { client with
        state := (Vault.releasePayload id client.state).2
        payloads := client.payloads.erase id }
  | .probe disk loader path symbols =>
      { client with state := (Vault.probe disk loader path symbols client.state).2 }

/-- Without the reference that it takes, no deed is done. -/
def step (client : Client) (deed : Deed) : Client :=
  if client.allows deed then client.perform deed else client

/-- The client after some deeds. -/
def after (deeds : List Deed) : Client :=
  deeds.foldl step start

/-! ## The books of a client -/

/-- The references of a client balance the vault, and it has closed no capability twice. -/
structure Balanced (client : Client) : Prop where
  books : Books client.closings client.state client.registries client.capabilities
    client.payloads []
  once : client.closings.Nodup

theorem Balanced.start : start.Balanced :=
  ⟨.empty, .nil⟩

variable {client : Client}

/-- A deed for which the client has the reference keeps the balance. -/
theorem Balanced.perform (balanced : client.Balanced) (deed : Deed)
    (allowed : client.allows deed = true) : (client.perform deed).Balanced := by
  have books := balanced.books
  have dropped {id : Nat} {references : List Nat} (member : id ∈ references) :=
    List.perm_cons_erase member
  cases deed
  case addRegistry builtins libraries =>
      exact ⟨books.addRegistry builtins libraries, balanced.once⟩
  case holdRegistry id => exact ⟨books.holdRegistry (of_decide_eq_true allowed), balanced.once⟩
  case dropRegistry id =>
      have given := books.perm (dropped (of_decide_eq_true allowed)) (.refl _) (.refl _)
      exact ⟨given.releaseRegistry, balanced.once⟩
  case load disk registry name path => exact ⟨books.load disk registry name path, balanced.once⟩
  case require disk registry name type =>
      exact ⟨books.require disk registry name type, balanced.once⟩
  case get registry name => exact ⟨books.cached registry name, balanced.once⟩
  case hold id =>
      exact ⟨books.hold (List.mem_append_left _ (of_decide_eq_true allowed)), balanced.once⟩
  case drop id =>
      have given := books.perm (.refl _) (dropped (of_decide_eq_true allowed)) (.refl _)
      exact ⟨given.release, balanced.once⟩
  case close id =>
      refine ⟨books.close id, ?_⟩
      change (if (Vault.close id client.state).1 then id :: client.closings
        else client.closings).Nodup
      split
      next closed =>
          refine List.nodup_cons.mpr ⟨fun member => ?_, balanced.once⟩
          rw [books.close_of_mem member] at closed
          cases closed
      next => exact balanced.once
  case takePayload id => exact ⟨books.holdPayloadOf id, balanced.once⟩
  case holdPayload id =>
      exact ⟨books.holdPayload (List.mem_append_left _ (of_decide_eq_true allowed)), balanced.once⟩
  case dropPayload id =>
      have given := books.perm (.refl _) (.refl _) (dropped (of_decide_eq_true allowed))
      exact ⟨given.releasePayload, balanced.once⟩
  case probe disk loader path symbols =>
      exact ⟨Books.settles_probe disk loader path symbols _ books, balanced.once⟩

/-- The books of a client balance, whatever it has done. -/
theorem balanced_after (deeds : List Deed) : (after deeds).Balanced := by
  have steps (client : Client) (balanced : client.Balanced) :
      (deeds.foldl step client).Balanced := by
    induction deeds generalizing client with
    | nil => exact balanced
    | cons deed rest ih =>
        refine ih (client.step deed) ?_
        unfold step
        split
        next allowed => exact balanced.perform deed allowed
        next => exact balanced
  exact steps start .start

/-! ## What becomes of libraries -/

/-- What a load tells that opens a library and gives nothing ends with the closing. -/
theorem closed_of_opened {fate : Fate} {fresh : Nat} {name : String} {handle : LibraryHandle}
    (nothing : fate.given? fresh = none) (opened : .opened handle ∈ fate.news fresh name) :
    (fate.news fresh name).getLast? = some (.closed handle) ∧ fate.new? fresh = none := by
  cases fate <;> simp_all [Fate.news, Fate.given?, Fate.new?]

/-- A load that has opened a library and fails closes it before it returns, and the registries
remember what they remembered. -/
theorem failed_load {disk : Disk} {registry : Nat} {name : String} {path : Option Path}
    {handle : LibraryHandle} (failed : (load disk registry name path client.state).1 = none)
    (opened : .opened handle ∈ client.news (load disk registry name path)) :
    (client.news (load disk registry name path)).getLast? = some (.closed handle) ∧
      (load disk registry name path client.state).2.1.registries = client.state.1.registries := by
  have fulfils := load_fulfils disk registry name path client.state.1 client.state.2
  have news : client.news (load disk registry name path) =
      (client.state.1.fate disk registry name path).news client.state.1.fresh name := by
    rw [news, fulfils.told, history, List.drop_left]
  rw [fulfils.answer] at failed
  rw [news] at opened ⊢
  rcases closed_of_opened failed opened with ⟨closed, new⟩
  refine ⟨closed, fulfils.registries.trans ?_⟩
  rw [new]
  rfl

/-- What closing a capability comes to. -/
structure Closing (client : Client) (id : Nat) (capability : Capability) : Prop where
  succeeds_iff : (close id client.state).1 = true ↔
    capability.isDynamic = true ∧ capability.handle.isSome = true ∧
      ∀ payload, capability.payload = some payload → client.state.1.payloadHolders payload = 1
  refused : (close id client.state).1 = false → (close id client.state).2 = client.state
  /-- The payload is freed, and then the library is closed. -/
  granted : (close id client.state).1 = true → ∃ payload value handle,
    capability.payload = some payload ∧ capability.handle = some handle ∧
      client.news (close id) = [.payloadFreed payload value, .closed handle] ∧
      (close id client.state).2.1.capability? id =
        some { capability with payload := none, handle := none }

theorem Balanced.closing (balanced : client.Balanced) {id : Nat} {capability : Capability}
    (found : client.state.1.capability? id = some capability) : client.Closing id capability := by
  have books := balanced.books
  rcases client with ⟨⟨vault, journal⟩, registries, capabilities, payloads, closings⟩
  rcases books.close_cases found with
    ⟨refused, reason⟩ | ⟨payload, handle, has, keeps, alone, granted⟩
  · constructor
    case succeeds_iff =>
        rw [refused]
        refine ⟨fun closed => (Bool.false_ne_true closed).elim, fun ⟨_, isOpen, sole⟩ => ?_⟩
        rcases reason with shut | ⟨payload, has, shared⟩
        · rw [shut] at isOpen
          cases isOpen
        · exact absurd (sole payload has) shared
    case refused => exact fun _ => congrArg Prod.snd refused
    case granted =>
        rw [refused]
        exact fun closed => (Bool.false_ne_true closed).elim
  · have unshared : payloadHolders { vault with
        capabilities := vault.capabilities.modify id (Shared.map Books.emptied) } payload = 1 := alone
    rcases Books.dismantle_alone journal keeps has unshared with ⟨value, dismantled⟩
    rw [dismantled] at granted
    constructor
    case succeeds_iff =>
        rw [granted]
        refine ⟨fun _ => ⟨(books.tied id capability handle found keeps).1, ?_, ?_⟩, fun _ => rfl⟩
        · rw [keeps]
          rfl
        · intro other also
          rw [Option.some.inj (also.symm.trans has)]
          exact alone
    case refused =>
        rw [granted]
        exact fun refused => (Bool.false_ne_true refused.symm).elim
    case granted =>
        intro _
        refine ⟨payload, value, handle, has, keeps, ?_, ?_⟩
        · rw [news, granted, history]
          simp
        · rw [granted]
          have shown := Books.capability?_emptied vault id id
          rw [if_pos rfl, show vault.capability? id = some capability from found] at shown
          exact shown

/-- What is so of libraries, whatever a client has done. -/
structure KeepsLibraries (client : Client) : Prop where
  /-- No library is opened twice under one handle, or closed more often than opened. -/
  opened_once : ∀ handle, client.history.count (.opened handle) ≤ 1
  closed_once : ∀ handle,
    client.history.count (.closed handle) ≤ client.history.count (.opened handle)
  /-- Without references to registries and capabilities, what was opened has been closed. -/
  settled : client.registries = [] → client.capabilities = [] → ∀ handle,
    .opened handle ∈ client.history →
      client.history.count (.opened handle) = 1 ∧ client.history.count (.closed handle) = 1
  failed_load : ∀ disk registry name path handle,
    (load disk registry name path client.state).1 = none →
    .opened handle ∈ client.news (load disk registry name path) →
      (client.news (load disk registry name path)).getLast? = some (.closed handle) ∧
        (load disk registry name path client.state).2.1.registries = client.state.1.registries
  /-- A capability that the client refers to is there. -/
  there : ∀ id ∈ client.capabilities, ∃ capability, client.state.1.capability? id = some capability
  /-- Besides a capability, only the client holds its payload. -/
  holders : ∀ id capability payload, client.state.1.capability? id = some capability →
    capability.payload = some payload →
      client.state.1.payloadHolders payload = client.payloads.count payload + 1
  closing : ∀ id capability, client.state.1.capability? id = some capability →
    client.Closing id capability
  /-- No capability is closed twice. -/
  closings_once : client.closings.Nodup

theorem keeps_libraries (deeds : List Deed) : (after deeds).KeepsLibraries := by
  have balanced := balanced_after deeds
  generalize after deeds = client at balanced
  have books := balanced.books
  constructor
  case opened_once => exact books.opened_once
  case closed_once =>
      intro handle
      exact (books.libraries handle).symm ▸ Nat.le_add_right _ _
  case settled =>
      intro no_registries no_capabilities handle opened
      have registries := books.registries
      have capabilities := books.capabilities
      rw [no_registries] at registries
      rw [no_capabilities, loadedBy, registries.gather_nil] at capabilities
      have balance := books.libraries handle
      rw [librariesOf, capabilities.gather_nil] at balance
      have once := Nat.le_antisymm (books.opened_once handle) (List.count_pos_iff.mpr opened)
      exact ⟨once, balance.symm.trans once⟩
  case failed_load => exact fun _ _ _ _ _ failed opened => failed_load failed opened
  case there =>
      intro id member
      rcases books.capabilities.exists_of_mem (List.mem_append_left _ member) with ⟨shared, found⟩
      exact ⟨shared.value, congrArg (Option.map Shared.value) found⟩
  case holders => exact fun id capability payload found has => books.payloadHolders_eq found has
  case closing => exact fun id capability found => balanced.closing found
  case closings_once => exact balanced.once

/-- Libraries of which one has no symbol and one registers nothing. -/
def shelf : LibraryLoader :=
  .table (.ofList [("zlib.so", .ofList [("_register_zlib", some 6)]), ("bare.so", .empty),
    ("null.so", .ofList [("_register_null", none)])])

example :
    let client := after [.addRegistry .empty shelf, .load .empty 0 "zlib" none,
      .load .empty 0 "bare" none, .load .empty 0 "null" none, .takePayload 3, .close 3,
      .dropPayload 2, .dropRegistry 0, .close 3, .close 3, .drop 3]
    client.registries = [] ∧ client.capabilities = [] ∧ client.closings = [3] ∧
      (client.history.filter turnsLibrary).length = 6 := by
  decide +kernel

end Client

end ScriptHost.Vault
