import ScriptHost.Proofs.Modules.Effects

/-!
# Bodies of modules

The body of a module is here a finite list of what it does: it requires other modules
and passes their errors on or ignores them, it writes members of its own exports, and it
throws.  Which body a source has is arbitrary.  The engine that gives sources their
bodies runs nothing else, so what a body leaves alone can be said once for whole runs:
the sources, the other records, and the exports of all modules but its own.
-/

namespace ScriptHost.Modules

open World

variable {σ : Type}

/-- What the body of a module requires. -/
inductive Want where
  /-- A module, by a specifier that is seen from the body's own module. -/
  | module (specifier : String)
  /-- A native module, by its name. -/
  | native (name : String)
deriving DecidableEq, Repr

namespace Want

/-- The demand of the module that has a record. -/
def demand (record : Nat) : Want → Demand
  | module specifier => .module (some record) specifier
  | native name => .native name

/-- Where it leads from a directory. -/
def aim (paths : ModulePaths) (directory : Path) : Want → Aim
  | module specifier => .ofSpecifier paths directory specifier
  | native name => .ofNative name

end Want

/-- What the body of a module does in one step. -/
inductive Step where
  /-- Require a module, and go on if that fails only if errors are ignored. -/
  | require (want : Want) (ignores : Bool)
  /-- Set a member of the module's exports. -/
  | write (member : String) (value : Value)
  /-- Throw an error. -/
  | throw (error : Error)

namespace Step

/-- Where the step leads from a directory, if it requires a module. -/
def aim? (paths : ModulePaths) (directory : Path) : Step → Option Aim
  | require want _ => some (want.aim paths directory)
  | write _ _ | throw _ => none

/-- What exports are after the step. -/
def written (exports : Value) : Step → Value
  | write member value => (exports.set? member value).getD exports
  | require _ _ | throw _ => exports

/-- What follows a require. -/
def goOn (ignores : Bool) (next : Script σ) : Except Error (Option Nat) → Script σ
  | .ok _ => next
  | .error error => if ignores then next else .fail error

/-- The script of a step that others follow. -/
def script (scope : ModuleScope) (next : Script σ) : Step → Script σ
  | require (.module specifier) ignores =>
      .require scope.loader (some scope.record) specifier (goOn ignores next)
  | require (.native name) ignores =>
      .requireNative scope.loader name (goOn ignores next)
  | write member value => .ask (.setMember scope.exports member value) fun _ => next
  | throw error => .fail error

end Step

/-- The body of a module. -/
abbrev Body := List Step

namespace Body

/-- The script of a body. -/
def script (scope : ModuleScope) : Body → Script σ
  | [] => .done .null
  | step :: rest => step.script scope (script scope rest)

/-- Where the requires of a body lead from a directory, in their order. -/
def aims (paths : ModulePaths) (directory : Path) (body : Body) : List Aim :=
  body.filterMap (Step.aim? paths directory)

/-- What exports are after the writes of a body. -/
def written (body : Body) (exports : Value) : Value :=
  body.foldl Step.written exports

end Body

/-- Bodies of sources, given with their names; some sources cannot be compiled. -/
abbrev Bodies := String → String → Except Error Body

/-- The engine that runs such bodies, and other scripts as another engine does. -/
def Bodies.engine (bodies : Bodies) (others : Engine σ) : Engine σ :=
  { others with
    compile := fun source name => (bodies source name).map fun body scope => body.script scope }

/-! ## What bodies leave alone -/

/-- Between two worlds nothing was touched but the caches, new records, new containers, and
the one container of a module that is running. -/
structure Leaves (own : Option Nat) (before after : World σ) : Prop where
  disk : after.disk = before.disk
  steps : before.steps = none → after.steps = none
  loaders : ∀ loader, (after.loaders.get? loader).map (fun state => (state.resources, state.paths)) =
    (before.loaders.get? loader).map fun state => (state.resources, state.paths)
  moreRecords : before.records.size ≤ after.records.size
  records : ∀ record < before.records.size,
    (after.records[record]?).map (fun r => (r.directory, r.exports)) =
      (before.records[record]?).map fun r => (r.directory, r.exports)
  moreContainers : before.containers.size ≤ after.containers.size
  contents : ∀ container < before.containers.size, own ≠ some container →
    after.content container = before.content container

variable {own : Option Nat} {before after : World σ}

instance : IsPreorder (World σ) (Leaves own) where
  refl _ := ⟨rfl, id, fun _ => rfl, Nat.le_refl _, fun _ _ => rfl, Nat.le_refl _, fun _ _ _ => rfl⟩
  trans _ _ _ first second :=
    { disk := second.disk.trans first.disk
      steps := fun unlimited => second.steps (first.steps unlimited)
      loaders := fun loader => (second.loaders loader).trans (first.loaders loader)
      moreRecords := Nat.le_trans first.moreRecords second.moreRecords
      records := fun record bound =>
        (second.records record (Nat.lt_of_lt_of_le bound first.moreRecords)).trans
          (first.records record bound)
      moreContainers := Nat.le_trans first.moreContainers second.moreContainers
      contents := fun container bound other =>
        (second.contents container (Nat.lt_of_lt_of_le bound first.moreContainers) other).trans
          (first.contents container bound other) }

theorem Leaves.content {container : Nat} (leaves : Leaves none before after)
    (bound : container < before.containers.size) :
    after.content container = before.content container :=
  leaves.contents container bound fun apart => by cases apart

theorem Leaves.weaken (leaves : Leaves none before after) : Leaves own before after :=
  { leaves with contents := fun _ bound _ => leaves.content bound }

/-- A container that is made meanwhile need not be set apart. -/
theorem Leaves.of_new {container : Nat} (leaves : Leaves (some container) before after)
    (new : before.containers.size ≤ container) : Leaves none before after :=
  { leaves with
    contents := by
      intro other bound _
      refine leaves.contents other bound fun same => ?_
      cases same
      exact absurd bound (Nat.not_lt.mpr new) }

/-- Records that are there keep the directory that their requires start from. -/
theorem Leaves.directory {record : Nat} {directory : Path} (leaves : Leaves own before after)
    (known : (before.records[record]?).map ModuleRecord.directory = some directory) :
    (after.records[record]?).map ModuleRecord.directory = some directory := by
  obtain ⟨r, found, rfl⟩ := Option.map_eq_some_iff.mp known
  obtain ⟨bound, -⟩ := Array.getElem?_eq_some_iff.mp found
  have same := leaves.records record bound
  rw [found] at same
  obtain ⟨r', found', fields⟩ := Option.map_eq_some_iff.mp same
  rw [found']
  exact congrArg some (Prod.mk.inj fields).1

/-- A change of the journal and of nothing else that matters. -/
theorem leaves_of_same (disk : after.disk = before.disk)
    (steps : before.steps = none → after.steps = none) (loaders : after.loaders = before.loaders)
    (records : after.records = before.records) (containers : after.containers = before.containers) :
    Leaves own before after where
  disk := disk
  steps := steps
  loaders loader := by rw [loaders]
  moreRecords := Nat.le_of_eq (congrArg Array.size records.symm)
  records record bound := by rw [records]
  moreContainers := Nat.le_of_eq (congrArg Array.size containers.symm)
  contents container bound other := by rw [content, content, containers]

theorem leaves_tick : Keeps (Leaves own) (tick : Action σ Unit) := by
  intro world
  unfold tick
  split
  next => exact refl_of _ world
  next => exact refl_of _ world
  next limited => exact leaves_of_same rfl (fun unlimited => by simp_all) rfl rfl rfl

theorem leaves_tell (event : Event) : Keeps (Leaves own) (tell event : Action σ Unit) :=
  fun _ => leaves_of_same rfl id rfl rfl rfl

theorem leaves_changeLoader (world : World σ) (loader : Nat) (journal : Journal)
    {f : ModuleLoader → ModuleLoader}
    (same : ∀ state, ((f state).resources, (f state).paths) = (state.resources, state.paths)) :
    Leaves own world { world with loaders := world.loaders.modify loader f, journal } where
  disk := rfl
  steps := id
  loaders other := by
    change ((world.loaders.modify loader f).get? other).map _ = _
    rw [Table.get?_modify]
    split
    · rw [Option.map_map]
      exact Option.map_congr fun state _ => same state
    · rfl
  moreRecords := Nat.le_refl _
  records _ _ := rfl
  moreContainers := Nat.le_refl _
  contents _ _ _ := rfl

theorem leaves_changeRecord (record : Nat) {f : ModuleRecord → ModuleRecord}
    (same : ∀ r, ((f r).directory, (f r).exports) = (r.directory, r.exports)) :
    Keeps (Leaves own) (changeRecord record f : Action σ Unit) := by
  intro world
  refine ⟨rfl, id, fun _ => rfl, Nat.le_of_eq Array.size_modify.symm, ?_, Nat.le_refl _,
    fun _ _ _ => rfl⟩
  intro other bound
  change ((world.records.modify record f)[other]?).map _ = _
  rw [Array.getElem?_modify]
  split
  · rw [Option.map_map]
    exact Option.map_congr fun r _ => same r
  · rfl

theorem leaves_assign (container : Nat) (value : Value) :
    Keeps (Leaves (some container)) (assign container value : Action σ Unit) := by
  intro world
  refine ⟨rfl, id, fun _ => rfl, Nat.le_refl _, fun _ _ => rfl,
    Nat.le_of_eq Array.size_setIfInBounds.symm, ?_⟩
  intro other bound different
  change ((world.containers.setIfInBounds container value)[other]?).getD _ = _
  rw [Array.getElem?_setIfInBounds, if_neg fun same => different (congrArg some same)]
  rfl

theorem leaves_setMember (container : Nat) (member : String) (value : Value) :
    Keeps (Leaves (some container))
      (Script.answer (.setMember container member value) : Action σ Bool) := by
  intro world
  unfold Script.answer
  simp only [Request.seizes?, Request.uses?, noticeSeizure, noticeUse, Request.perform, always]
  cases (world.content container).set? member value with
  | none => exact refl_of _ world
  | some changed => exact leaves_assign container changed world

theorem leaves_searched (world : World σ) (loader : Nat) (path : Path)
    (report? : Option LogRecord) : Leaves own world (searched world loader path report?) :=
  leaves_of_same rfl id rfl rfl rfl

theorem leaves_entered (world : World σ) (loader : Nat) (path : Path) (source : Source) :
    Leaves own world (entered world loader path source) := by
  have kept : Leaves own world { world with
      loaders := world.loaders.modify loader fun state => state.keep path world.records.size } :=
    leaves_changeLoader world loader world.journal fun _ => rfl
  refine ⟨rfl, id, kept.loaders, ?_, ?_, ?_, ?_⟩
  · exact Nat.le_of_lt (Nat.lt_of_lt_of_eq (Nat.lt_succ_self _) (Array.size_push _).symm)
  · intro record bound
    change ((world.records.push _)[record]?).map _ = _
    rw [Array.getElem?_push_lt bound, Array.getElem?_eq_getElem bound]
  · exact Nat.le_of_lt (Nat.lt_of_lt_of_eq (Nat.lt_succ_self _) (Array.size_push _).symm)
  · intro container bound _
    change ((world.containers.push _)[container]?).getD _ = _
    rw [Array.getElem?_push_lt bound, content, Array.getElem?_eq_getElem bound]

theorem leaves_forgotten (world : World σ) (loader record : Nat) (path : Path) :
    Leaves own world (forgotten world loader record path) :=
  leaves_changeLoader world loader _ fun _ => rfl

section Runs

variable (bodies : Bodies) (others : Engine σ) {run : Script σ → Action σ Value}

section Evaluate

variable (ran : ∀ (scope : ModuleScope) (body : Body),
  Keeps (Leaves (some scope.exports)) (run (body.script scope)))

include ran

theorem leaves_evaluate (loader id : Nat) (record : ModuleRecord) :
    Keeps (Leaves (some record.exports))
      (evaluate (bodies.engine others) run loader id record) := by
  have json : Keeps (Leaves (some record.exports)) (evaluateJson record : Action σ Unit) := by
    unfold evaluateJson
    cases Json.parse record.source with
    | ok json => exact leaves_assign _ _
    | error fault => exact .raise _
  have script : Keeps (Leaves (some record.exports))
      (evaluateScript (bodies.engine others) run loader id record) := by
    refine (leaves_tell _).bind fun _ => ?_
    simp only [Bodies.engine]
    cases bodies record.source record.path.text with
    | error error => exact .raise error
    | ok body =>
        have compiled : Keeps (Leaves (some record.exports))
            (changeRecord id fun record => { record with isCompiled := true } : Action σ Unit) :=
          leaves_changeRecord id fun _ => rfl
        intro world
        refine Keeps.bind_from (refl_of _ world) fun value after ended => ?_
        cases ended
        exact (compiled.bind fun _ => (ran ⟨loader, id, record.exports⟩ body).bind fun _ =>
          .pure ()) world
  unfold evaluate
  cases record.kind with
  | json => exact json
  | script | native => exact script

theorem leaves_proceed (world : World σ) (loader : Nat) (path : Path)
    (answer : Except FileError (Option Source)) :
    Leaves none world (proceed (bodies.engine others) run loader path answer world).2 := by
  rcases answer with cause | _ | source
  · exact refl_of _ world
  · exact refl_of _ world
  · have begun : Leaves (some world.containers.size) world (entered world loader path source) :=
      leaves_entered world loader path source
    have evaluated := leaves_evaluate bodies others ran loader world.records.size
      (recordOf world path source) (entered world loader path source)
    have body := (trans_of _ begun evaluated).of_new (Nat.le_refl _)
    rcases ended : evaluate (bodies.engine others) run loader world.records.size
      (recordOf world path source) (entered world loader path source)
      with ⟨(error | _) | _, last⟩ <;> rw [ended] at body
    · rw [proceed_of_raised ended]
      exact trans_of _ body (leaves_forgotten last loader world.records.size path)
    · rw [proceed_of_exhausted ended]
      exact body
    · rw [proceed_of_ok ended]
      have told : Leaves none last (finished last loader world.records.size path) :=
        leaves_of_same rfl id rfl rfl rfl
      exact trans_of _ body told

theorem leaves_ask (demand : Demand) (loader : Nat) :
    Keeps (Leaves none) (demand.ask (bodies.engine others) run loader) := by
  intro world
  cases present : world.loaders.get? loader with
  | none =>
      rw [demand.ask_of_gone _ run present]
      exact refl_of _ world
  | some state =>
      cases found : state.lookup? (demand.aim world state).path with
      | some record =>
          rw [← demand.target_eq] at found
          rw [demand.ask_of_kept _ run present found]
          exact leaves_of_same rfl id rfl rfl rfl
      | none =>
          rw [demand.ask_of_absent _ run present found]
          exact trans_of _ (leaves_searched world loader _ _)
            (leaves_proceed bodies others ran _ loader _ _)

end Evaluate

/-- A step of a body, given that what it requires leaves the exports of all modules alone. -/
theorem leaves_step {fuel : Nat}
    (asked : ∀ (demand : Demand) (loader : Nat), Keeps (Leaves none)
      (demand.ask (bodies.engine others) (Script.exec (bodies.engine others) fuel) loader))
    (scope : ModuleScope) (step : Step) {next : Script σ}
    (rest : Keeps (Leaves (some scope.exports))
      (Script.interpret (Script.context (bodies.engine others) fuel) next)) :
    Keeps (Leaves (some scope.exports))
      (Script.interpret (Script.context (bodies.engine others) fuel) (step.script scope next)) := by
  have goesOn (ignores : Bool) (outcome : Except Error (Option Nat)) :
      Keeps (Leaves (some scope.exports))
        (Script.interpret (Script.context (bodies.engine others) fuel)
          (Step.goOn ignores next outcome)) := by
    rcases outcome with error | _
    · cases ignores
      · exact leaves_tick.bind fun _ => .raise error
      · exact rest
    · exact rest
  have demands (demand : Demand) : Keeps (Leaves (some scope.exports)) (attempt
      (demand.ask (bodies.engine others) (Script.exec (bodies.engine others) fuel)
        scope.loader)) :=
    ((asked demand scope.loader).mono fun _ _ => Leaves.weaken).attempt
  rcases step with ⟨specifier | name, ignores⟩ | ⟨member, value⟩ | error
  · exact leaves_tick.bind fun _ =>
      (demands (.module (some scope.record) specifier)).bind (goesOn ignores)
  · exact leaves_tick.bind fun _ => (demands (.native name)).bind (goesOn ignores)
  · exact leaves_tick.bind fun _ => (leaves_setMember _ member value).bind fun _ => rest
  · exact leaves_tick.bind fun _ => .raise error

/-- Whatever a body runs, in its own time and while others run, leaves all exports alone but
its own. -/
theorem leaves_exec (fuel : Nat) (scope : ModuleScope) (body : Body) :
    Keeps (Leaves (some scope.exports))
      (Script.exec (bodies.engine others) fuel (body.script scope)) := by
  induction fuel generalizing scope body with
  | zero => exact .throw _
  | succ fuel ih =>
      have asked := leaves_ask bodies others ih
      change Keeps _ (Script.interpret (Script.context (bodies.engine others) fuel) _)
      induction body with
      | nil => exact leaves_tick.bind fun _ => .pure Value.null
      | cons step rest later => exact leaves_step bodies others asked scope step later

theorem leaves_demand (fuel : Nat) (demand : Demand) (loader : Nat) :
    Keeps (Leaves none)
      (demand.ask (bodies.engine others) (Script.exec (bodies.engine others) fuel) loader) :=
  leaves_ask bodies others (leaves_exec bodies others fuel) demand loader

end Runs

end ScriptHost.Modules
