import ScriptHost.Loop.Dispatch
import ScriptHost.Startup.Bootstrap

/-!
# Answering requests

What each plain request does to a world.
-/

namespace ScriptHost

variable {σ : Type}

namespace World

/-- Do something to a world that cannot fail. -/
def always {α : Type} (f : World σ → α × World σ) : StateM (World σ) α := f

/-- Look at a world. -/
def look {α : Type} (f : World σ → α) : StateM (World σ) α :=
  fun world => (f world, world)

/-- A change of a world. -/
def change (f : World σ → World σ) : StateM (World σ) Unit :=
  fun world => ((), f world)

/-- The result of an action that runs no script, and so never runs out of fuel. -/
def result {α : Type} (action : Action σ α) : StateM (World σ) (Except Error α) :=
  fun world =>
    match action world with
    | (.ok value, world) => (.ok value, world)
    | (.error (.raised error), world) => (.error error, world)
    | (.error .exhausted, world) => (.error (.config "out of fuel"), world)

/-- A change of the vault, told to the journal. -/
def vaultCall {α : Type} (call : VaultCall α) : StateM (World σ) α :=
  fun world =>
    let (value, vault, journal) := call (world.vault, world.journal)
    (value, { world with vault, journal })

end World

open World

/-- Answer a request. -/
def Request.perform : (request : Request) → StateM (World σ) request.Reply
  | .note line => change fun world => { world with journal := world.journal.push (.note line) }
  | .now => look fun world => world.kernel.now
  | .advance nanos => change fun world => { world with kernel := world.kernel.advance nanos }
  | .armed => look fun world => world.kernel.armedCount
  | .plan fault => change fun world => { world with kernel := world.kernel.plan fault }
  | .pipe => always fun world =>
      let (ends, kernel) := world.kernel.openPipe
      (ends, { world with kernel })
  | .openFile path => always fun world =>
      match world.disk.content path with
      | .ok content =>
          let rest :=
            match content with
            | .bytes bytes => bytes
            | .library _ => []
          match world.kernel.openResource (.file rest) false with
          | (some fd, kernel) => (.ok fd, { world with kernel })
          | (none, _) => (.error (.file (.system Errno.tooManyOpened)), world)
      | .error cause => (.error (.file cause), world)
  | .close fd => always fun world =>
      (world.kernel.opened.contains fd, { world with kernel := world.kernel.close fd })
  | .read fd length => result (system (Streams.read fd length))
  | .write fd bytes => result (system (Streams.write fd bytes))
  | .readToEnd fd chunk => result (system (Streams.readToEnd fd chunk))
  | .setNonblocking fd => result (system (Streams.setNonblocking fd))
  | .newPoller capacity => result (system (Poller.create capacity))
  | .register poller fd token interest => result (system (poller.register fd token interest))
  | .reregister poller fd token interest => result (system (poller.modify fd token interest))
  | .deregister poller fd => result (system (poller.deregister fd))
  | .await poller timeout => result (system (poller.poll timeout))
  | .putNode path node => change fun world => { world with disk := world.disk.put path node }
  | .remove path => always fun world =>
      let (removed, disk) := world.disk.remove path
      (removed, { world with disk })
  | .enterDirectory path => always fun world =>
      let (entered, disk) := world.disk.enterDirectory path
      (entered, { world with disk })
  | .isFile path => look fun world => world.disk.isFile path
  | .readText path => look fun world => (world.disk.readText path).mapError .file
  | .currentPath => look fun world => world.disk.currentPath.mapError .file
  | .environment => look fun world => world.environment
  | .loadSettings path => look fun world => (Settings.load world.disk path).mapError .settings
  | .findSettings start => look fun world => (Settings.find world.disk start).mapError .settings
  | .newLoader resources paths => always fun world =>
      (world.fresh,
        { world with
          fresh := world.fresh + 1
          loaders := world.loaders.insert world.fresh (.start resources paths) })
  | .loader id => look fun world => world.loaders.get? id
  | .record id => look fun world => world.records[id]?
  | .setExports id exports => change fun world =>
      { world with
        records := world.records.modify id fun r => { r with exports }
        journal := world.journal.push (.exportsReplaced id exports) }
  | .newContainer value => always fun world =>
      (world.containers.size, { world with containers := world.containers.push value })
  | .container id => look fun world => world.content id
  | .assign id value => change fun world =>
      { world with containers := world.containers.setIfInBounds id value }
  | .setMember id key value => always fun world =>
      match (world.content id).set? key value with
      | some changed =>
          (true, { world with containers := world.containers.setIfInBounds id changed })
      | none => (false, world)
  | .newRegistry builtins libraries => vaultCall (Vault.addRegistry builtins libraries)
  | .registry id => look fun world => world.vault.registryAt? id
  | .holdRegistry id => vaultCall (Vault.holdRegistry id)
  | .releaseRegistry id => vaultCall (Vault.releaseRegistry id)
  | .load id name path => fun world =>
      vaultCall (Vault.load world.disk id name path) world
  | .loaded id name => vaultCall (Vault.cached id name)
  | .requireCapability id name type => fun world =>
      vaultCall (Vault.require world.disk id name type) world
  | .capability id => look fun world => world.vault.capability? id
  | .release id => vaultCall (Vault.release id)
  | .closeCapability id => vaultCall (Vault.close id)
  | .holdPayloadOf id => vaultCall (Vault.holdPayloadOf id)
  | .payloadOf id => look fun world => world.vault.payloadOf? id
  | .releasePayload id => vaultCall (Vault.releasePayload id)
  | .probe libraries path symbols => fun world =>
      vaultCall (Vault.probe world.disk libraries path symbols) world
  | .newReactor capacity => result (World.newReactor capacity)
  | .holdReactor id => change fun world => (World.holdReactor id world).2
  | .releaseReactor id => change fun world => (World.releaseReactor id world).2
  | .setHook id hook => change fun world =>
      (changeLoop id (fun loop => { loop with hook }) world).2
  | .modify id fd interest =>
      result (onReactor id (Reactor.onLoop (EventLoop.modify fd interest)))
  | .unlisten id fd => result (onReactor id (Reactor.onLoop (EventLoop.remove fd)))
  | .listens id fd => look fun world =>
      (world.loop? id).any fun loop => loop.contains fd
  | .registered id => look fun world => ((world.loop? id).map EventLoop.size).getD 0
  | .timers id => look fun world => (world.reactor? id).map Reactor.timers
  | .cancel id timer => result (Dispatch.cancel id timer)
  | .bootstrap host options => result (Startup.bootstrap host options)
  | .runtime id => look fun world => world.runtime? id
  | .holdRuntime id => change fun world => (World.holdRuntime id world).2
  | .releaseRuntime id => change fun world => (Startup.releaseRuntime id world).2

end ScriptHost
