import ScriptHost.Capability.Library
import ScriptHost.Journal
import ScriptHost.Shared

/-!
# Who holds which capability

Capabilities, payloads and registries are shared: each counts its holders and
goes when the last of them lets go.  A capability that goes lets go of its
payload first and then closes its library, so that the code behind a payload is
still there while the payload is freed.

A registry remembers what it has loaded.  The first load of a name decides;
names that are built in are never looked for in a library.
-/

namespace ScriptHost

/-- A registry: the capabilities built in, where to look for others, and those
loaded so far. -/
structure Registry where
  /-- How the built-in capabilities are made. -/
  builtins : Table String Factory
  /-- Where libraries are looked for. -/
  libraries : LibraryLoader
  /-- The capabilities loaded so far. -/
  loaded : Table String Nat

/-- All that is shared. -/
structure Vault where
  /-- The registries in use. -/
  registries : Table Nat (Shared Registry)
  /-- The capabilities in use. -/
  capabilities : Table Nat (Shared Capability)
  /-- The payloads in use. -/
  payloads : Table Nat (Shared Payload)
  /-- The next identity to give away. -/
  fresh : Nat

/-- A change of the vault that is told to the journal. -/
abbrev VaultCall (α : Type) := StateM (Vault × Journal) α

namespace Vault

/-- The vault with nothing in it. -/
def empty : Vault := ⟨Table.empty, Table.empty, Table.empty, 0⟩

instance : Inhabited Vault := ⟨empty⟩

/-- Tell the journal. -/
def tell (event : Event) : VaultCall Unit :=
  modify fun (vault, journal) => (vault, journal.push event)

/-- Change the vault. -/
def change (f : Vault → Vault) : VaultCall Unit :=
  modify fun (vault, journal) => (f vault, journal)

/-- The vault as it is. -/
def current : VaultCall Vault :=
  return (← get).1

/-- A number that was never given before. -/
def newId : VaultCall Nat := do
  let id := (← current).fresh
  change fun vault => { vault with fresh := vault.fresh + 1 }
  pure id

/-! ## Payloads -/

/-- The payload behind an identity. -/
def payload? (vault : Vault) (id : Nat) : Option Payload :=
  Shared.value? vault.payloads id

/-- Keep a new payload for one holder. -/
def addPayload (payload : Payload) : VaultCall Nat := do
  let id ← newId
  change fun vault => { vault with payloads := vault.payloads.insert id (.one payload) }
  pure id

/-- One more holds the payload. -/
def holdPayload (id : Nat) : VaultCall Unit :=
  change fun vault => { vault with payloads := Shared.hold vault.payloads id }

/-- One fewer holds the payload; the last to let go frees it. -/
def releasePayload (id : Nat) : VaultCall Unit := do
  let (gone, payloads) := Shared.letGo (← current).payloads id
  change fun vault => { vault with payloads }
  match gone with
  | some payload => tell (.payloadFreed id payload)
  | none => pure ()

/-! ## Capabilities -/

/-- The capability behind an identity. -/
def capability? (vault : Vault) (id : Nat) : Option Capability :=
  Shared.value? vault.capabilities id

/-- The payload of a capability. -/
def payloadOf? (vault : Vault) (id : Nat) : Option (Nat × Payload) := do
  let capability ← vault.capability? id
  let payload ← capability.payload
  let value ← vault.payload? payload
  some (payload, value)

/-- Keep a new capability for so many holders. -/
def addCapability (capability : Capability) (holders : Nat) : VaultCall Nat := do
  let id ← newId
  change fun vault =>
    { vault with capabilities := vault.capabilities.insert id ⟨capability, holders⟩ }
  pure id

/-- One more holds the capability. -/
def hold (id : Nat) : VaultCall Unit :=
  change fun vault => { vault with capabilities := Shared.hold vault.capabilities id }

/-- Let go of the payload of a capability, then close its library. -/
def dismantle (capability : Capability) : VaultCall Unit := do
  match capability.payload with
  | some payload => releasePayload payload
  | none => pure ()
  match capability.handle with
  | some handle => tell (.closed handle)
  | none => pure ()

/-- How many hold a payload. -/
def payloadHolders (vault : Vault) (id : Nat) : Nat :=
  ((vault.payloads.get? id).map Shared.holders).getD 0

/-- How many besides a capability hold its payload. -/
def sharers (vault : Vault) (capability : Capability) : Nat :=
  (capability.payload.map vault.payloadHolders).getD 0 - 1

/-- One fewer holds the capability; with the last holder it goes. -/
def release (id : Nat) : VaultCall Unit := do
  let (gone, capabilities) := Shared.letGo (← current).capabilities id
  change fun vault => { vault with capabilities }
  match gone with
  | some capability =>
      match capability.handle with
      | some handle => tell (.dropped handle ((← current).sharers capability))
      | none => pure ()
      dismantle capability
  | none => pure ()

/-- Close the library of a capability, unless it has none or its payload is held
elsewhere; whether it was closed. -/
def close (id : Nat) : VaultCall Bool := do
  let vault ← current
  match vault.capability? id with
  | none => pure false
  | some capability =>
      let heldElsewhere :=
        match capability.payload with
        | some payload => decide (1 < vault.payloadHolders payload)
        | none => false
      if !capability.isOpen || heldElsewhere then pure false
      else
        change fun vault =>
          { vault with
            capabilities := vault.capabilities.modify id <|
              Shared.map fun capability => { capability with payload := none, handle := none } }
        dismantle capability
        pure true

/-- Take a share of the payload of a capability. -/
def holdPayloadOf (id : Nat) : VaultCall (Option Nat) := do
  match (← current).payloadOf? id with
  | some (payload, _) =>
      holdPayload payload
      pure (some payload)
  | none => pure none

/-! ## Registries -/

/-- A new registry with one holder. -/
def addRegistry (builtins : Table String Factory) (libraries : LibraryLoader) :
    VaultCall Nat := do
  let id ← newId
  change fun vault =>
    { vault with registries := vault.registries.insert id (.one ⟨builtins, libraries, .empty⟩) }
  pure id

/-- The registry behind an identity. -/
def registryAt? (vault : Vault) (id : Nat) : Option Registry :=
  Shared.value? vault.registries id

/-- One more holds the registry. -/
def holdRegistry (id : Nat) : VaultCall Unit :=
  change fun vault => { vault with registries := Shared.hold vault.registries id }

/-- One fewer holds the registry; with the last holder it goes and lets go of
what it has loaded. -/
def releaseRegistry (id : Nat) : VaultCall Unit := do
  let (gone, registries) := Shared.letGo (← current).registries id
  change fun vault => { vault with registries }
  match gone with
  | some registry => registry.loaded.values.forM release
  | none => pure ()

/-- The capability that a registry has loaded under a name; the caller becomes a
holder. -/
def cached (registry : Nat) (name : String) : VaultCall (Option Nat) := do
  match ((← current).registryAt? registry).bind fun r => r.loaded.get? name with
  | some id =>
      hold id
      pure (some id)
  | none => pure none

/-- Remember a new capability under its name.  The registry and the caller hold it. -/
def remember (registry : Nat) (capability : Capability) : VaultCall Nat := do
  let id ← addCapability capability 2
  change fun vault =>
    { vault with
      registries := vault.registries.modify registry <|
        Shared.map fun state => { state with loaded := state.loaded.insert capability.name id } }
  pure id

/-- The log record for a built-in capability that could not be made. -/
def failedFactory (name : String) (error : Error) : LogRecord :=
  { severity := .warning
    message := "built-in capability failed to initialize"
    fields := [("capability", name), ("error", error.message?.getD "")] }

/-- Make a capability that is built in. -/
def makeBuiltin (registry : Nat) (name : String) (factory : Factory) :
    VaultCall (Option Nat) := do
  tell (.factory name factory.isFoundation)
  match factory.result with
  | .ok payload =>
      let payload ← addPayload payload
      some <$> remember registry ⟨name, false, some payload, none⟩
  | .error error =>
      tell (.log (failedFactory name error))
      pure none

/-- Open a library for a capability and call its registration.  A library that
turns out to be of no use is closed again. -/
def openCapability (disk : Disk) (registry : Nat) (loader : LibraryLoader) (name : String)
    (path : Path) : VaultCall (Option Nat) := do
  let source := loader.source
  tell (.opening source path)
  match loader.openLibrary disk path with
  | .error _ => pure none
  | .ok symbols =>
      let handle : LibraryHandle := ⟨← newId, source, path⟩
      tell (.opened handle)
      let symbol := LibraryLoader.registerSymbol name
      tell (.resolved source symbol)
      match LibraryLoader.findSymbol source symbols symbol with
      | .error _ =>
          tell (.closed handle)
          pure none
      | .ok level? =>
          tell (.registered handle level?)
          match level? with
          | none =>
              tell (.closed handle)
              pure none
          | some level =>
              let payload ← addPayload (.extension level)
              tell (.obtained payload handle)
              some <$> remember registry ⟨name, true, some payload, some handle⟩

/-- The capability of a name, loaded if it is not yet; the caller becomes a
holder. -/
def load (disk : Disk) (registry : Nat) (name : String) (path : Option Path) :
    VaultCall (Option Nat) := do
  match ← cached registry name with
  | some id => pure (some id)
  | none =>
      match (← current).registryAt? registry with
      | none => pure none
      | some state =>
          match state.builtins.get? name with
          | some factory => makeBuiltin registry name factory
          | none =>
              if state.libraries.isSupported then
                openCapability disk registry state.libraries name
                  (path.getD ⟨LibraryLoader.libraryFileName name⟩)
              else pure none

/-- The payload of a capability that must be there and of a type; the caller
becomes a holder of the payload. -/
def require (disk : Disk) (registry : Nat) (name : String) (type : PayloadType) :
    VaultCall (Except Error (Nat × Payload)) := do
  match ← load disk registry name none with
  | none => pure (.error (.missingCapability name))
  | some capability =>
      let answer ←
        match (← current).payloadOf? capability with
        | some (id, payload) =>
            if type.admits payload then
              holdPayload id
              pure (.ok (id, payload))
            else pure (.error (.capabilityType name type.fullName))
        | none => pure (.error (.capabilityType name type.fullName))
      release capability
      pure answer

/-- Look for symbols in a library that was opened only for that, and close it. -/
def inspect (source : LibrarySource) (path : Path) (library : Symbols) (symbols : List String) :
    VaultCall (List (Except LibraryError (Option Int))) := do
  let handle : LibraryHandle := ⟨← newId, source, path⟩
  tell (.opened handle)
  let answers ← symbols.mapM fun symbol => do
    tell (.resolved source symbol)
    pure (LibraryLoader.findSymbol source library symbol)
  tell (.closed handle)
  pure answers

/-- Open a library only to look for symbols. -/
def probe (disk : Disk) (loader : LibraryLoader) (path : Path) (symbols : List String) :
    VaultCall (Except LibraryError (Path × List (Except LibraryError (Option Int)))) := do
  if loader.isSupported then tell (.opening loader.source path)
  match loader.openLibrary disk path with
  | .error cause => pure (.error cause)
  | .ok library => return .ok (path, ← inspect loader.source path library symbols)

end Vault

end ScriptHost
