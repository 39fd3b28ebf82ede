import ScriptHost.Proofs.Runs.Parts
import ScriptHost.Script.Session

/-!
# What whole runs keep

A relation between worlds that is kept by the answers to requests, by requires,
by what loops do with handlers, and by changes that concern no part, is kept by
every run of every script.  Requires and loops run further scripts, so their
rules may assume that the scripts they run keep the relation.  The induction is
on the fuel of the run and inside it on the script.

The same induction serves relations that hold only at ends that a run comes to by
itself; calls that run no script are never cut off.
-/

namespace ScriptHost

open World

variable {σ α : Type} {cut : Prop} {engine : Engine σ} {R : World σ → World σ → Prop}

/-- What is to be known of a relation with regard to the table of runtimes. -/
structure Housing (R : World σ → World σ → Prop) : Prop where
  /-- New runtimes. -/
  new : ∀ runtime, Keeps R (World.newRuntime runtime : Action σ Nat)
  /-- Further holders. -/
  hold : ∀ id, Keeps R (World.holdRuntime id : Action σ Unit)
  /-- Holders that let go. -/
  letGo : ∀ id world, R world { world with runtimes := (Shared.letGo world.runtimes id).2 }
  /-- Worker scripts, which only a run takes whose mode that is. -/
  take : ∀ id world runtime, world.runtime? id = some runtime →
    runtime.options.flag "inspector" = false →
    StartupMode.select runtime.options runtime.worker.isSome = .ok .worker →
    R world (takeWorker id world).2

namespace Housing

theorem mono {S : World σ → World σ → Prop} (housing : Housing R)
    (weaker : ∀ before after, R before after → S before after) : Housing S where
  new runtime := (housing.new runtime).mono weaker
  hold id := (housing.hold id).mono weaker
  letGo id world := weaker _ _ (housing.letGo id world)
  take id world runtime found uninspected selected :=
    weaker _ _ (housing.take id world runtime found uninspected selected)

/-- What is not concerned with runtimes is kept by all changes of them. -/
theorem of_changes (indifferent : ∀ before after, Changes .runtimes before after → R before after) :
    Housing R where
  new _ world := indifferent _ _ ⟨Nat.le_succ world.fresh, fun _ => ⟨rfl, rfl⟩,
    fun _ => ⟨rfl, rfl⟩, fun _ => rfl, fun other => absurd rfl other, .refl world.journal⟩
  hold _ world := indifferent _ _ (changes_runtimes world _)
  letGo _ world := indifferent _ _ (changes_runtimes world _)
  take id world _ _ _ _ := indifferent _ _ (changes_takeWorker id world)

end Housing

/-- What is to be known of a relation with regard to calls that run no script. -/
structure Base (R : World σ → World σ → Prop) : Prop where
  /-- Nobody's business. -/
  rest : ∀ before after, Changes .rest before after → R before after
  /-- The table of runtimes. -/
  runtimes : Housing R
  /-- Answers to requests. -/
  request : ∀ request part, Request.part? request = some part → Keeps R (Script.answer request)
  /-- Reads of standard input. -/
  input : ∀ chunk, Keeps R (system (Streams.readToEnd Kernel.stdin chunk))
  /-- Registrations of descriptors. -/
  listen : ∀ reactor fd interest handler, Keeps R (Script.listenFor reactor fd interest handler)
  /-- Starts of timers. -/
  schedule : ∀ reactor delay isRepeating callback,
    Keeps R (Dispatch.schedule reactor delay isRepeating callback)

/-- What is to be known of a relation that runs are to keep. -/
structure Rules (engine : Engine σ) (R : World σ → World σ → Prop) : Prop extends Base R where
  /-- Requires, given that the bodies of modules keep the relation. -/
  require : ∀ run : Script σ → Action σ Value, (∀ script, Keeps R (run script)) →
    ∀ loader requester specifier,
      Keeps R (Modules.require engine run loader requester specifier)
  /-- Requires of native modules. -/
  requireNative : ∀ run : Script σ → Action σ Value, (∀ script, Keeps R (run script)) →
    ∀ loader name, Keeps R (Modules.requireNative engine run loader name)
  /-- Polls, given that handlers keep the relation. -/
  poll : ∀ run : Script σ → Action σ Value, (∀ script, Keeps R (run script)) →
    ∀ reactor timeout, Keeps R (Dispatch.poll run reactor timeout)
  /-- Drives, given that handlers keep the relation. -/
  drive : ∀ run : Script σ → Action σ Value, (∀ script, Keeps R (run script)) →
    ∀ reactor turns, Keeps R (Dispatch.drive run reactor turns)

/-- What is to be known of a relation that the ends of runs are to satisfy.  The scripts
that a call runs are run with some fuel. -/
structure Endings (cut : Prop) (engine : Engine σ) (R : World σ → World σ → Prop) : Prop
    extends Base R where
  /-- Requires. -/
  require : ∀ fuel, (∀ script, Ends cut R (Script.exec engine fuel script)) →
    ∀ loader requester specifier,
      Ends cut R (Modules.require engine (Script.exec engine fuel) loader requester specifier)
  /-- Requires of native modules. -/
  requireNative : ∀ fuel, (∀ script, Ends cut R (Script.exec engine fuel script)) →
    ∀ loader name,
      Ends cut R (Modules.requireNative engine (Script.exec engine fuel) loader name)
  /-- Polls. -/
  poll : ∀ fuel, (∀ script, Ends cut R (Script.exec engine fuel script)) →
    ∀ reactor timeout, Ends cut R (Dispatch.poll (Script.exec engine fuel) reactor timeout)
  /-- Drives. -/
  drive : ∀ fuel, (∀ script, Ends cut R (Script.exec engine fuel script)) →
    ∀ reactor turns, Ends cut R (Dispatch.drive (Script.exec engine fuel) reactor turns)

/-- What runs keep holds at all their ends. -/
theorem Rules.endings (rules : Rules engine R) : Endings True engine R where
  toBase := rules.toBase
  require _ ran loader requester specifier :=
    (rules.require _ (fun script => ends_true_iff.mp (ran script)) loader requester specifier).ends
  requireNative _ ran loader name :=
    (rules.requireNative _ (fun script => ends_true_iff.mp (ran script)) loader name).ends
  poll _ ran reactor timeout :=
    (rules.poll _ (fun script => ends_true_iff.mp (ran script)) reactor timeout).ends
  drive _ ran reactor turns :=
    (rules.drive _ (fun script => ends_true_iff.mp (ran script)) reactor turns).ends

namespace Base

/-- What answers and starts keep, they keep in a weaker form. -/
theorem mono {S : World σ → World σ → Prop} (base : Base R)
    (weaker : ∀ before after, R before after → S before after) : Base S where
  rest before after changes := weaker _ _ (base.rest before after changes)
  runtimes := base.runtimes.mono weaker
  request request part concerns := (base.request request part concerns).mono weaker
  input chunk := (base.input chunk).mono weaker
  listen reactor fd interest handler := (base.listen reactor fd interest handler).mono weaker
  schedule reactor delay isRepeating callback :=
    (base.schedule reactor delay isRepeating callback).mono weaker

section Calls

variable (base : Base R)

include base

/-! ## Changes that concern no part -/

theorem tell (event : Event) (about : event.part = .rest) :
    Keeps R (World.tell event : Action σ Unit) := by
  intro world
  have told : Keeps (Changes .rest) (World.tell event : Action σ Unit) :=
    changes_tell event (.inl about)
  exact base.rest _ _ (told world)

/-! ## Calls that answer requests too -/

theorem addRegistry (builtins : Table String Factory) (libraries : LibraryLoader) :
    Keeps R (onVault (Vault.addRegistry builtins libraries) : Action σ Nat) :=
  fun world => base.request (.newRegistry builtins libraries) .vault rfl world

theorem releaseRegistry (id : Nat) :
    Keeps R (onVault (Vault.releaseRegistry id) : Action σ Unit) :=
  fun world => base.request (.releaseRegistry id) .vault rfl world

theorem releasePayload (id : Nat) : Keeps R (onVault (Vault.releasePayload id) : Action σ Unit) :=
  fun world => base.request (.releasePayload id) .vault rfl world

theorem release (id : Nat) : Keeps R (onVault (Vault.release id) : Action σ Unit) :=
  fun world => base.request (.release id) .vault rfl world

theorem load_from (world : World σ) (registry : Nat) (name : String) :
    R world (onVault (Vault.load world.disk registry name none) world).2 :=
  base.request (.load registry name none) .vault rfl world

theorem require_from (world : World σ) (registry : Nat) (name : String) (type : PayloadType) :
    R world (onVault (Vault.require world.disk registry name type) world).2 :=
  base.request (.requireCapability registry name type) .vault rfl world

theorem newReactor (capacity : Nat) : Keeps R (World.newReactor capacity : Action σ Nat) := by
  intro world
  rw [← result_world]
  exact base.request (.newReactor capacity) .loops rfl world

theorem releaseReactor (id : Nat) : Keeps R (World.releaseReactor id : Action σ Unit) :=
  fun world => base.request (.releaseReactor id) .loops rfl world

theorem newLoader (resources : Table String String) (paths : ModulePaths) :
    Keeps R (World.newLoader resources paths : Action σ Nat) :=
  fun world => base.request (.newLoader resources paths) .modules rfl world

end Calls

/-! ## Runtimes -/

variable [IsPreorder (World σ) R] (base : Base R)

include base

theorem releaseRuntime (id : Nat) : Keeps R (Startup.releaseRuntime id : Action σ Unit) := by
  refine Keeps.get_bind fun world => ?_
  have kept := base.runtimes.letGo id world
  rcases same : Shared.letGo world.runtimes id with ⟨gone, runtimes⟩
  rw [same] at kept
  refine Keeps.bind_from kept fun _ after _ => ?_
  cases gone with
  | none => exact refl_of R after
  | some runtime =>
      have released : Keeps R (do
          onVault (Vault.releaseRegistry runtime.registry)
          runtime.services.forM fun payload => onVault (Vault.releasePayload payload)
          World.releaseReactor runtime.reactor : Action σ Unit) :=
        (base.releaseRegistry runtime.registry).bind fun _ =>
          (Keeps.forM base.releasePayload _).bind fun _ => base.releaseReactor runtime.reactor
      exact released after

theorem letGo (payloads : List Nat) (registry : Nat) :
    Keeps R (Startup.letGo payloads registry : Action σ Unit) :=
  (Keeps.forM base.releasePayload _).bind fun _ => base.releaseRegistry registry

theorem acquire (registry : Nat) (wanted : List (String × PayloadType)) (held : List Nat) :
    Keeps R (Startup.acquire registry wanted held : Action σ _) := by
  induction wanted generalizing held with
  | nil => exact .pure _
  | cons want rest ih =>
      refine Keeps.get_bind fun world => ?_
      refine Keeps.bind_from (base.require_from world registry want.1 want.2) ?_
      intro answer after _
      cases answer with
      | ok payload => exact ih _ after
      | error error => exact refl_of R after

theorem prepare (host : Host) : Keeps R (Startup.prepare host : Action σ _) := by
  have workingDirectory : Keeps R (Startup.workingDirectory : Action σ Path) := by
    refine Keeps.get.bind fun world => ?_
    cases world.disk.currentPath with
    | ok path => exact .pure path
    | error cause => exact .raise _
  have settingsFor (directory : Path) : Keeps R (Startup.settingsFor directory : Action σ _) := by
    refine Keeps.get.bind fun world => ?_
    cases Settings.find world.disk directory with
    | ok settings => exact .pure settings
    | error cause => exact .raise _
  exact workingDirectory.bind fun appRoot => (settingsFor appRoot).bind fun settings =>
    Keeps.get.bind fun world => (base.newReactor _).bind fun reactor =>
      (base.newLoader _ _).bind fun loader => .pure _

theorem bootstrap (host : Host) (options : Options) :
    Keeps R (Startup.bootstrap host options : Action σ Nat) := by
  refine (base.addRegistry _ _).bind fun registry => Keeps.get.bind fun world => ?_
  refine (base.acquire registry _ _).bind fun acquired => ?_
  rcases acquired with ⟨held, _ | _⟩
  · exact (base.letGo held registry).bind fun _ => .raise _
  · refine (base.prepare host).attempt.bind fun prepared => ?_
    cases prepared with
    | error error => exact (base.letGo held registry).bind fun _ => .raise error
    | ok made => exact (Keeps.forM base.releasePayload _).bind fun _ => base.runtimes.new _

theorem inspectorError (runtime : Runtime) :
    Keeps R (Startup.inspectorError runtime : Action σ Error) := by
  refine Keeps.get_bind fun world => ?_
  refine Keeps.bind_from (base.load_from world runtime.registry "inspector") ?_
  intro answer after _
  cases answer with
  | none => exact refl_of R after
  | some capability => exact (base.release capability).bind (fun _ => .pure _) after

/-! ## Scripts -/

theorem answer (request : Request) : Keeps R (Script.answer request) := by
  cases concerns : request.part? with
  | some part => exact base.request request part concerns
  | none =>
      cases request <;> cases concerns
      case none.bootstrap host options =>
          intro world
          have answered : (Script.answer (.bootstrap host options) world).2 =
              (Startup.bootstrap host options world).2 :=
            result_world _ world
          rw [answered]
          exact base.bootstrap host options world
      case none.holdRuntime id => exact base.runtimes.hold id
      case none.releaseRuntime id => exact base.releaseRuntime id

omit [IsPreorder (World σ) R] in
theorem tick : Keeps R (World.tick : Action σ Unit) := by
  intro world
  refine base.rest _ _ ?_
  unfold World.tick
  split <;> exact changes_rest rfl rfl rfl rfl rfl rfl rfl rfl

end Base

/-! ## Runs -/

/-- What scripts are followed with when those that they start have some fuel. -/
def Script.context (engine : Engine σ) (fuel : Nat) : Startup.Context σ :=
  ⟨engine, exec engine fuel, fuel⟩

namespace Endings

variable [IsPreorder (World σ) R]

theorem appRoot (runtime : Runtime) : Ends cut R (Startup.appRoot runtime : Action σ Path) := by
  refine Ends.get.bind fun world => ?_
  cases world.loaders.get? runtime.loader with
  | some loader => exact .pure _
  | none => exact .pure _

section Context

variable {fuel : Nat} (run : ∀ script, Ends cut R (Script.exec engine fuel script))

include run

theorem callMethod (target : Value) (method : String) (arguments : List Value) :
    Ends cut R (Startup.callMethod (Script.context engine fuel) target method arguments) := by
  unfold Startup.callMethod
  split
  · refine Ends.get.bind fun world => ?_
    split
    · exact run _
    · exact .pure _
  · exact .raise _

variable (rules : Endings cut engine R)

include rules

theorem runScript (source name : String) :
    Ends cut R (Startup.runScript (Script.context engine fuel) source name) :=
  (rules.tell _ rfl).ends.bind fun _ => (run _).bind fun _ => .pure ()

theorem runModule (source name : String) :
    Ends cut R (Startup.runModule (Script.context engine fuel) source name) :=
  (rules.tell _ rfl).ends.bind fun _ => (run _).bind fun _ => .pure ()

theorem runWorker_from {world : World σ} {id : Nat} {runtime : Runtime}
    (found : world.runtime? id = some runtime)
    (uninspected : runtime.options.flag "inspector" = false)
    (selected : StartupMode.select runtime.options runtime.worker.isSome = .ok .worker)
    (counts : (Startup.runWorker (Script.context engine fuel) id world).1 = .error .exhausted →
      cut) :
    R world (Startup.runWorker (Script.context engine fuel) id world).2 := by
  revert counts
  unfold Startup.runWorker
  rw [get_bind_eq, found]
  refine Ends.bind_from (fun _ => rules.runtimes.take id world runtime found uninspected selected)
    fun taken => ?_
  cases taken with
  | none => exact .pure ()
  | some source => exact (appRoot runtime).bind fun root => runScript run rules _ _

theorem runFile (runtime : Runtime) (file : String) :
    Ends cut R (Startup.runFile (Script.context engine fuel) runtime file) :=
  (appRoot runtime).bind fun _ => (Keeps.readText _).ends.bind fun _ =>
    Ends.ite (runModule run rules _ _) (runScript run rules _ _)

theorem requireValue (loader : Nat) (specifier : String) :
    Ends cut R (Modules.requireValue engine (Script.exec engine fuel) loader specifier) := by
  refine (rules.require fuel run loader none specifier).bind fun found => ?_
  cases found with
  | some container => exact Ends.get.bind fun world => .pure _
  | none => exact .pure none

theorem optionalModule (runtime : Runtime) (name missing : String) :
    Ends cut R (Startup.optionalModule (Script.context engine fuel) runtime name missing) := by
  refine (requireValue run rules runtime.loader name).bind fun found => ?_
  cases found with
  | some value => exact .pure value
  | none => exact .raise _

theorem buildConfiguration (runtime : Runtime) (target : Option String) (options : Value) :
    Ends cut R
      (Startup.buildConfiguration (Script.context engine fuel) runtime target options) := by
  have value (specifier : String) := requireValue run rules runtime.loader specifier
  unfold Startup.buildConfiguration
  refine Ends.ite ?_ ?_
  · cases target with
    | some target => exact (value target).bind fun _ => .pure _
    | none => exact .pure _
  · cases target with
    | some target =>
        exact (optionalModule run rules runtime _ _).bind fun _ => callMethod run _ _ _
    | none =>
        refine (value _).bind fun found => ?_
        cases found with
        | some configuration => exact .pure configuration
        | none => exact (value _).bind fun _ => .pure _

theorem runBuild (runtime : Runtime) (target : Option String) :
    Ends cut R (Startup.runBuild (Script.context engine fuel) runtime target) := by
  have print (text : String) :
      Keeps R (modify fun world => { world with printed := world.printed ++ text ++ "\n" } :
        Action σ PUnit) :=
    fun world => rules.rest _ _ (changes_rest rfl rfl rfl rfl rfl rfl rfl rfl)
  refine (optionalModule run rules runtime _ _).bind fun build => ?_
  refine (buildConfiguration run rules runtime target _).bind fun configuration => ?_
  refine (callMethod run _ _ _).bind fun result => ?_
  exact Ends.ite (print _).ends (.pure ())

theorem dispatch (id : Nat) (runtime : Runtime) (mode : StartupMode) (other : mode ≠ .worker) :
    Ends cut R (Startup.dispatch (Script.context engine fuel) id runtime mode) := by
  have method (missing name : String) (arguments : List Value) (found : String) :
      Ends cut R (do
        let value ← Startup.optionalModule (Script.context engine fuel) runtime name missing
        let _ ← Startup.callMethod (Script.context engine fuel) value found arguments :
          Action σ Unit) :=
    (optionalModule run rules runtime _ _).bind fun _ => (callMethod run _ _ _).bind fun _ =>
      .pure ()
  cases mode with
  | idle => exact .pure ()
  | worker => exact absurd rfl other
  | repl => exact method _ _ _ _
  | stdin => exact (rules.input _).ends.bind fun bytes => runScript run rules _ _
  | eval source => exact runScript run rules _ _
  | build target => exact runBuild run rules runtime target
  | init name => exact method _ _ _ _
  | clean => exact method _ _ _ _
  | file path => exact runFile run rules runtime path

omit run in
theorem withRuntime (id : Nat) {action : Action σ α} (ends : Ends cut R action) :
    Ends cut R (Startup.withRuntime id action) :=
  (rules.runtimes.hold id).ends.bind fun _ => ends.attempt.bind fun outcome =>
    (rules.releaseRuntime id).ends.bind fun _ => .ofExcept outcome

theorem start (id : Nat) : Ends cut R (Startup.start (Script.context engine fuel) id) := by
  refine withRuntime rules id (Ends.get_bind fun world => ?_)
  cases found : world.runtime? id with
  | none => exact Ends.pure () world
  | some runtime =>
      dsimp only
      split
      next =>
          exact ((rules.inspectorError runtime).ends.bind fun error => Ends.raise error) world
      next uninspected =>
          have drive (_ : Unit) := rules.drive fuel run runtime.reactor fuel
          have proceed (mode : StartupMode) (other : mode ≠ .worker) :=
            (dispatch run rules id runtime mode other).bind drive
          rcases selected : StartupMode.select runtime.options runtime.worker.isSome with
            error | mode
          · exact Ends.raise error world
          · rw [bind_of_ok (show ofExcept (.ok mode) world = (.ok mode, world) from rfl)]
            cases mode with
            | idle => exact Ends.pure () world
            | worker =>
                exact Ends.bind_from (runWorker_from run rules found
                  (Bool.eq_false_iff.mpr uninspected) selected) drive
            | repl | stdin | eval | build | init | clean | file =>
                exact proceed _ (by nofun) world

theorem bare (host : Host) (options : Options) :
    Ends cut R (Startup.bare (Script.context engine fuel) host options) := by
  refine (rules.addRegistry _ _).ends.bind fun registry => ?_
  refine (rules.acquire registry _ _).ends.bind fun acquired => ?_
  rcases acquired with ⟨held, _ | _⟩
  · exact (rules.letGo held registry).ends.bind fun _ => .raise _
  · refine Ends.bind (Ends.attempt ?_) fun outcome =>
      (rules.letGo held registry).ends.bind fun _ => .ofExcept outcome
    cases options.positional? 1 with
    | some source => exact runScript run rules _ _
    | none => exact .raise _

theorem boot (host : Host) (argv : List String) :
    Ends cut R (Startup.boot (Script.context engine fuel) host argv) := by
  refine Ends.ite (bare run rules host _) ?_
  exact (rules.bootstrap host _).ends.bind fun id => (start run rules id).attempt.bind
    fun outcome => (rules.releaseRuntime id).ends.bind fun _ => .ofExcept outcome

/-! ## Scripts -/

/-- Following a script, given that the ends of those it starts satisfy the relation. -/
theorem interpret (script : Script σ) :
    Ends cut R (Script.interpret (Script.context engine fuel) script) := by
  have ticked : Ends cut R (World.tick : Action σ Unit) := rules.tick.ends
  have proceed {β : Type} {action : Action σ β} {next : Except Error β → Script σ}
      (ends : Ends cut R action)
      (ih : ∀ outcome, Ends cut R (Script.interpret (Script.context engine fuel) (next outcome))) :
      Ends cut R (do
        World.tick
        let outcome ← attempt action
        Script.interpret (Script.context engine fuel) (next outcome) : Action σ Value) :=
    ticked.bind fun _ => ends.attempt.bind ih
  induction script with
  | done value => exact ticked.bind fun _ => .pure value
  | fail error => exact ticked.bind fun _ => .raise error
  | ask request next ih =>
      exact ticked.bind fun _ => (rules.answer request).ends.bind fun reply => ih reply
  | fetch next ih => exact ticked.bind fun _ => Ends.get.bind fun world => ih world.memory
  | store memory next ih =>
      refine ticked.bind fun _ => Ends.bind (Keeps.ends fun world => rules.rest _ _ ?_) fun _ => ih
      exact changes_rest rfl rfl rfl rfl rfl rfl rfl rfl
  | define name body next _ ih =>
      refine ticked.bind fun _ => Ends.bind (Keeps.ends fun world => rules.rest _ _ ?_) ih
      exact changes_rest rfl rfl rfl rfl rfl rfl rfl rfl
  | call target method arguments next ih =>
      exact proceed (callMethod run target method arguments) ih
  | require loader requester specifier next ih =>
      exact proceed (rules.require fuel run loader requester specifier) ih
  | requireNative loader name next ih => exact proceed (rules.requireNative fuel run loader name) ih
  | listen reactor fd interest handler next _ ih =>
      exact proceed (rules.listen reactor fd interest handler).ends ih
  | schedule reactor delay isRepeating callback next _ ih =>
      exact proceed (rules.schedule reactor delay isRepeating callback).ends ih
  | poll reactor timeout next ih => exact proceed (rules.poll fuel run reactor timeout) ih
  | drive reactor next ih => exact proceed (rules.drive fuel run reactor fuel) ih
  | start runtime next ih => exact proceed (start run rules runtime) ih
  | boot host argv next ih => exact proceed (boot run rules host argv) ih
  | bare host options next ih => exact proceed (bare run rules host options) ih

end Context

/-- The ends of every run of every script satisfy the relation. -/
theorem exec (rules : Endings cut engine R) (fuel : Nat) (script : Script σ) :
    Ends cut R (Script.exec engine fuel script) := by
  induction fuel generalizing script with
  | zero => exact .throw _
  | succ fuel ih => exact interpret ih rules script

end Endings

/-- Every run of every script keeps the relation. -/
theorem Rules.exec [IsPreorder (World σ) R] (rules : Rules engine R) (fuel : Nat)
    (script : Script σ) : Keeps R (Script.exec engine fuel script) :=
  ends_true_iff.mp (rules.endings.exec fuel script)

/-- Whatever runs keep holds between the start of a session and any later moment of it. -/
theorem Session.keeps [IsPreorder (World σ) R] (session : Session σ)
    (rules : Rules session.engine R) (steps : Nat) :
    R { session.start with steps := some steps } (session.world steps) :=
  rules.exec session.fuel session.script _

end ScriptHost
