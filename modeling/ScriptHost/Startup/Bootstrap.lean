import ScriptHost.Startup.Mode
import ScriptHost.World

/-!
# Making a runtime

The capabilities that every runtime needs are loaded first, then the settings
are read, then loop and loader are made.  If any of that fails, what was loaded
is let go of again.
-/

namespace ScriptHost.Startup

variable {σ : Type}

open World

/-- Load capabilities that must be there.  The payloads taken so far are given
back together with the first failure. -/
def acquire (registry : Nat) : List (String × PayloadType) → List Nat →
    Action σ (List Nat × Except Error Unit)
  | [], held => pure (held, .ok ())
  | (name, type) :: rest, held => do
      let disk := (← get).disk
      match ← onVault (Vault.require disk registry name type) with
      | .ok (payload, _) => acquire registry rest (held ++ [payload])
      | .error error => pure (held, .error error)

/-- Let go of payloads and then of the registry they came from. -/
def letGo (payloads : List Nat) (registry : Nat) : Action σ Unit := do
  payloads.reverse.forM fun payload => onVault (Vault.releasePayload payload)
  onVault (Vault.releaseRegistry registry)

/-- The current directory. -/
def workingDirectory : Action σ Path := do
  match (← get).disk.currentPath with
  | .ok path => pure path
  | .error cause => raise (.file cause)

/-- The settings that hold in a directory. -/
def settingsFor (directory : Path) : Action σ Settings := do
  match Settings.find (← get).disk directory with
  | .ok settings => pure settings
  | .error cause => raise (.settings cause)

/-- Read the settings and make loop and loader. -/
def prepare (host : Host) : Action σ (Settings × Nat × Nat) := do
  let appRoot ← workingDirectory
  let settings ← settingsFor appRoot
  let paths := ModulePaths.resolve appRoot (← get).environment settings
  let reactor ← newReactor settings.loopCapacity
  let loader ← newLoader host.resources paths
  pure (settings, reactor, loader)

/-- Make a runtime of a host. -/
def bootstrap (host : Host) (options : Options) : Action σ Nat := do
  let registry ← onVault (Vault.addRegistry host.builtins host.libraries)
  let environment := (← get).environment
  match ← acquire registry Runtime.required [] with
  | (held, .error error) =>
      letGo held registry
      raise error
  | (held, .ok ()) =>
      match ← attempt (prepare host) with
      | .error error =>
          letGo held registry
          raise error
      | .ok (settings, reactor, loader) =>
          let (spent, services) := held.splitAt Runtime.setupOnly
          spent.forM fun payload => onVault (Vault.releasePayload payload)
          let runtime : Runtime :=
            { options, settings, registry, services, environment, reactor, loader
              worker := host.worker }
          newRuntime runtime

/-- One fewer holds the runtime; with the last holder it goes and lets go of all
that it holds.  Its loader stays for the modules that it has loaded. -/
def releaseRuntime (id : Nat) : Action σ Unit := do
  let (gone, runtimes) := Shared.letGo (← get).runtimes id
  modify fun world => { world with runtimes }
  match gone with
  | none => pure ()
  | some runtime =>
      onVault (Vault.releaseRegistry runtime.registry)
      runtime.services.forM fun payload => onVault (Vault.releasePayload payload)
      releaseReactor runtime.reactor

/-- Do something that uses a runtime, which stays until it is done. -/
def withRuntime {α : Type} (id : Nat) (action : Action σ α) : Action σ α := do
  holdRuntime id
  let outcome ← attempt action
  releaseRuntime id
  ofExcept outcome

end ScriptHost.Startup
