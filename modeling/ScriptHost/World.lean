import ScriptHost.Script.Basic

/-!
# Worlds

A world is everything that scripts share: the operating system, the files, what
has been loaded, the loops, and the journal.  An action on a world ends in a
value or in a failure, and a failure keeps the world as it was when it arose.

Loops and runtimes are shared: each goes when the last of its holders lets go.
An action that runs one is a holder of it until it ends.

Running out of fuel is a failure of its own: no script can see it, and it is
never mistaken for an error.  The steps of scripts can be limited too, and a run
that is out of steps ends in the same way, in the middle of what it was doing.
-/

namespace ScriptHost

/-- Everything that scripts over a memory `σ` share. -/
structure World (σ : Type) where
  /-- Descriptors and the clock. -/
  kernel : Kernel
  /-- The files. -/
  disk : Disk
  /-- The environment of the process. -/
  environment : Table String String
  /-- Capabilities and registries. -/
  vault : Vault
  /-- The module loaders. -/
  loaders : Table Nat ModuleLoader
  /-- The module records ever made. -/
  records : Array ModuleRecord
  /-- The containers of exports ever made. -/
  containers : Array Value
  /-- The bodies of the functions ever made. -/
  functions : Array (List Value → Script σ)
  /-- The loops with their timers. -/
  reactors : Table Nat (Shared (Reactor (Handler σ)))
  /-- The runtimes. -/
  runtimes : Table Nat (Shared Runtime)
  /-- The next number for a loader, a reactor or a runtime. -/
  fresh : Nat
  /-- What went to standard output. -/
  printed : String
  /-- What has happened. -/
  journal : Journal
  /-- The memory of the scripts. -/
  memory : σ
  /-- The steps that scripts may still take, if there is a limit. -/
  steps : Option Nat

/-- Why an action has no value. -/
inductive Failure where
  /-- An error was raised. -/
  | raised (error : Error)
  /-- There was no fuel left. -/
  | exhausted
deriving DecidableEq, Repr

/-- An action on a world. -/
abbrev Action (σ α : Type) := ExceptT Failure (StateM (World σ)) α

namespace World

variable {σ α : Type}

/-- A world at time zero. -/
def start (kernel : Kernel) (disk : Disk) (environment : Table String String) (memory : σ) :
    World σ :=
  { kernel
    disk
    environment
    vault := .empty
    loaders := .empty
    records := #[]
    containers := #[]
    functions := #[]
    reactors := .empty
    runtimes := .empty
    fresh := 0
    printed := ""
    journal := #[]
    memory
    steps := none }

/-- Raise an error. -/
def raise (error : Error) : Action σ α :=
  throw (.raised error)

/-- The value of a result, or its error raised. -/
def ofExcept : Except Error α → Action σ α
  | .ok value => pure value
  | .error error => raise error

/-- The result of an action; only running out of fuel is not caught. -/
def attempt (action : Action σ α) : Action σ (Except Error α) :=
  fun world =>
    match action world with
    | (.ok value, world) => (.ok (.ok value), world)
    | (.error (.raised error), world) => (.ok (.error error), world)
    | (.error .exhausted, world) => (.error .exhausted, world)

/-- Tell the journal. -/
def tell (event : Event) : Action σ Unit :=
  modify fun world => { world with journal := world.journal.push event }

/-- Take a step, unless there is none left. -/
def tick : Action σ Unit :=
  fun world =>
    match world.steps with
    | none => (.ok (), world)
    | some 0 => (.error .exhausted, world)
    | some (steps + 1) => (.ok (), { world with steps := some steps })

/-- A number that was never given before. -/
def newId : Action σ Nat :=
  modifyGet fun world => (world.fresh, { world with fresh := world.fresh + 1 })

/-! ## Actions on parts of a world -/

/-- A change of the kernel that gives something. -/
def onKernel (f : Kernel → α × Kernel) : Action σ α :=
  modifyGet fun world =>
    let (value, kernel) := f world.kernel
    (value, { world with kernel })

/-- A system call; its failure is raised. -/
def system (call : SystemCall α) : Action σ α := do
  match ← onKernel fun kernel => call kernel with
  | .ok value => pure value
  | .error cause => raise (.system cause)

/-- A change of the vault, told to the journal. -/
def onVault (call : VaultCall α) : Action σ α :=
  modifyGet fun world =>
    let (value, vault, journal) := call (world.vault, world.journal)
    (value, { world with vault, journal })

/-! ## Loops -/

/-- The reactor behind an identity. -/
def reactor? (world : World σ) (id : Nat) : Option (Reactor (Handler σ)) :=
  Shared.value? world.reactors id

/-- The loop of a reactor. -/
def loop? (world : World σ) (id : Nat) : Option (EventLoop (Handler σ)) :=
  (world.reactor? id).map Reactor.loop

/-- A call on a reactor.  On one that is gone it fails. -/
def onReactor (id : Nat) (call : ReactorCall (Handler σ) α) : Action σ α := do
  let world ← get
  match world.reactor? id with
  | none => raise (.config "the loop is gone")
  | some reactor =>
      let (answer, kernel, reactor) := call (world.kernel, reactor)
      set { world with
            kernel
            reactors := world.reactors.modify id (Shared.map fun _ => reactor) }
      ofExcept answer

/-- A change of the state of a loop. -/
def changeLoop (id : Nat) (f : EventLoop (Handler σ) → EventLoop (Handler σ)) :
    Action σ Unit :=
  modify fun world =>
    { world with
      reactors := world.reactors.modify id <|
        Shared.map fun reactor => { reactor with loop := f reactor.loop } }

/-- A new reactor with one holder. -/
def newReactor (capacity : Nat) : Action σ Nat := do
  let reactor ← system (Reactor.create capacity)
  let id ← newId
  modify fun world => { world with reactors := world.reactors.insert id (.one reactor) }
  pure id

/-- One more holds the reactor. -/
def holdReactor (id : Nat) : Action σ Unit :=
  modify fun world => { world with reactors := Shared.hold world.reactors id }

/-- One fewer holds the reactor; with the last holder it goes, and what it has
open is closed. -/
def releaseReactor (id : Nat) : Action σ Unit :=
  modify fun world =>
    let (gone, reactors) := Shared.letGo world.reactors id
    { world with
      reactors
      kernel :=
        match gone with
        | some reactor => reactor.dismantle world.kernel
        | none => world.kernel }

/-- Do something that uses a reactor, which stays until it is done. -/
def withReactor (id : Nat) (action : Action σ α) : Action σ α := do
  holdReactor id
  let outcome ← attempt action
  releaseReactor id
  ofExcept outcome

/-! ## Descriptors with an owner -/

/-- Whether a descriptor is that of a live timer. -/
def times (world : World σ) (fd : Descriptor) : Bool :=
  world.reactors.values.any fun shared => shared.value.times fd

/-- Whether a descriptor belongs to a loop or to a live timer. -/
def owns (world : World σ) (fd : Descriptor) : Bool :=
  world.reactors.values.any fun shared => shared.value.owns fd

/-- Tell the journal if a descriptor that somebody closes or drives has an owner. -/
def noticeSeizure (world : World σ) : Option Descriptor → World σ
  | some fd =>
      if world.owns fd then { world with journal := world.journal.push (.seized fd) }
      else world
  | none => world

/-- Tell the journal if a descriptor that somebody uses is that of a timer. -/
def noticeUse (world : World σ) : Option Descriptor → World σ
  | some fd =>
      if world.times fd then { world with journal := world.journal.push (.meddled fd) }
      else world
  | none => world

/-! ## Runtimes -/

/-- The runtime behind an identity. -/
def runtime? (world : World σ) (id : Nat) : Option Runtime :=
  Shared.value? world.runtimes id

/-- Keep a new runtime for one holder. -/
def newRuntime (runtime : Runtime) : Action σ Nat := do
  let id ← newId
  modify fun world => { world with runtimes := world.runtimes.insert id (.one runtime) }
  pure id

/-- One more holds the runtime. -/
def holdRuntime (id : Nat) : Action σ Unit :=
  modify fun world => { world with runtimes := Shared.hold world.runtimes id }

/-- Take the worker script out of a runtime, if it has one. -/
def takeWorker (id : Nat) : Action σ (Option String) := do
  match ((← get).runtime? id).bind Runtime.worker with
  | none => pure none
  | some source =>
      modify fun world =>
        { world with
          runtimes := world.runtimes.modify id <|
            Shared.map fun runtime => { runtime with worker := none } }
      tell (.handedOver id source)
      pure (some source)

/-! ## Records and containers -/

/-- A new container. -/
def newContainer (value : Value) : Action σ Nat :=
  modifyGet fun world =>
    (world.containers.size, { world with containers := world.containers.push value })

/-- What a container holds. -/
def content (world : World σ) (container : Nat) : Value :=
  (world.containers[container]?).getD .null

/-- Put a value into a container. -/
def assign (container : Nat) (value : Value) : Action σ Unit :=
  modify fun world => { world with containers := world.containers.setIfInBounds container value }

/-- Set a member of what a container holds; whether that is an object. -/
def setMember (container : Nat) (key : String) (value : Value) : Action σ Bool := do
  match ((← get).content container).set? key value with
  | some changed =>
      assign container changed
      pure true
  | none => pure false

/-- A new record. -/
def newRecord (record : ModuleRecord) : Action σ Nat :=
  modifyGet fun world =>
    (world.records.size, { world with records := world.records.push record })

/-- Change a record. -/
def changeRecord (record : Nat) (f : ModuleRecord → ModuleRecord) : Action σ Unit :=
  modify fun world => { world with records := world.records.modify record f }

/-- The container of what a record exports now. -/
def exportsOf (world : World σ) (record : Nat) : Nat :=
  ((world.records[record]?).map ModuleRecord.exports).getD 0

/-- Change a loader. -/
def changeLoader (loader : Nat) (f : ModuleLoader → ModuleLoader) : Action σ Unit :=
  modify fun world => { world with loaders := world.loaders.modify loader f }

/-- A new loader. -/
def newLoader (resources : Table String String) (paths : ModulePaths) : Action σ Nat := do
  let id ← newId
  modify fun world =>
    { world with loaders := world.loaders.insert id (.start resources paths) }
  pure id

/-- The text of a file; what hinders its reading is raised. -/
def readText (path : Path) : Action σ String := do
  match (← get).disk.readText path with
  | .ok text => pure text
  | .error cause => raise (.file cause)

end World

end ScriptHost
