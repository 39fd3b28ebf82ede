import ScriptHost.Json.Reader
import ScriptHost.Module.Search
import ScriptHost.World

/-!
# Requiring modules

A require finds the record of its key in the cache or makes one.  A new record
is kept before it is evaluated, so that a module that is required again while
it runs is found with what it has exported so far, and is forgotten again if
its evaluation fails.
-/

namespace ScriptHost.Modules

variable {σ : Type}

open World

/-- Evaluate a record that holds a JSON text: its exports are the document. -/
def evaluateJson (record : ModuleRecord) : Action σ Unit := do
  match Json.parse record.source with
  | .ok json => assign record.exports (Value.ofJson json)
  | .error fault => raise (.json record.path.text fault)

/-- Evaluate a record that holds a script. -/
def evaluateScript (engine : Engine σ) (run : Script σ → Action σ Value) (loader id : Nat)
    (record : ModuleRecord) : Action σ Unit := do
  let name := record.path.text
  tell (.compiled name Engine.moduleParameters)
  let body ← ofExcept (engine.compile record.source name)
  changeRecord id fun record => { record with isCompiled := true }
  let _ ← run (body ⟨loader, id, record.exports⟩)

/-- Evaluate a record according to its kind. -/
def evaluate (engine : Engine σ) (run : Script σ → Action σ Value) (loader id : Nat)
    (record : ModuleRecord) : Action σ Unit :=
  match record.kind with
  | .json => evaluateJson record
  | .script | .native => evaluateScript engine run loader id record

/-- Make a record with a container of its own and keep it for its path. -/
def enter (loader : Nat) (path directory : Path) (kind : ModuleKind) (origin : ModuleOrigin)
    (source : String) : Action σ (Nat × ModuleRecord) := do
  let exports ← newContainer (.object [])
  let record : ModuleRecord := ⟨path, directory, kind, origin, source, false, exports⟩
  let id ← newRecord record
  changeLoader loader fun state => state.keep path id
  tell (.evaluating loader id exports path)
  pure (id, record)

/-- Keep a new record, evaluate it, and give the container of its exports.  A
record that could not be evaluated is forgotten. -/
def instantiate (engine : Engine σ) (run : Script σ → Action σ Value) (loader : Nat)
    (path directory : Path) (kind : ModuleKind) (origin : ModuleOrigin) (source : String) :
    Action σ Nat := do
  let (id, record) ← enter loader path directory kind origin source
  match ← attempt (evaluate engine run loader id record) with
  | .ok () =>
      let container := (← get).exportsOf id
      tell (.evaluated loader id container path)
      pure container
  | .error error =>
      changeLoader loader fun state => state.evict path
      tell (.evaluationFailed loader id path)
      raise error

/-- Answer a require with what a kept record exports. -/
def answerWith (loader record : Nat) (path : Path) : Action σ (Option Nat) := do
  let container := (← get).exportsOf record
  tell (.found loader record container path)
  pure (some container)

/-- Require a native module by its name. -/
def requireNative (engine : Engine σ) (run : Script σ → Action σ Value) (loader : Nat)
    (name : String) : Action σ (Option Nat) := do
  let entry := Specifier.nativeEntry name
  let path : Path := ⟨entry⟩
  let world ← get
  match world.loaders.get? loader with
  | none => pure none
  | some state =>
      match state.lookup? path with
      | some record => answerWith loader record path
      | none =>
          tell (.searched loader path)
          match state.resources.get? entry with
          | none => pure none
          | some text =>
              some <$> instantiate engine run loader path state.paths.appRoot .native
                (.embedded entry) text

/-- The directory that the specifiers of a requester start from. -/
def baseDirectory (world : World σ) (paths : ModulePaths) (requester : Option Nat) : Path :=
  match requester.bind fun record => world.records[record]? with
  | some record => record.directory
  | none => paths.appRoot

/-- Require a file module, whose kind is already known. -/
def requireFile (engine : Engine σ) (run : Script σ → Action σ Value) (loader : Nat)
    (state : ModuleLoader) (requester : Option Nat) (kind : ModuleKind) (specifier : String) :
    Action σ (Option Nat) := do
  let world ← get
  let path := (baseDirectory world state.paths requester).resolve specifier
  match state.lookup? path with
  | some record => answerWith loader record path
  | none =>
      tell (.searched loader path)
      let (answer, report?) :=
        ModuleSearch.locate world.disk state.resources state.paths path
      match report? with
      | some report => tell (.log report)
      | none => pure ()
      match answer with
      | .error cause => raise (.file cause)
      | .ok none => pure none
      | .ok (some (source, origin)) =>
          let directory := path.parent?.getD state.paths.appRoot
          some <$> instantiate engine run loader path directory kind origin source

/-- Require a module: a specifier with the extension of a file module names a
file, any other a native module. -/
def require (engine : Engine σ) (run : Script σ → Action σ Value) (loader : Nat)
    (requester : Option Nat) (specifier : String) : Action σ (Option Nat) := do
  match (← get).loaders.get? loader with
  | none => pure none
  | some state =>
      let specifier := (Specifier.expandAlias? specifier state.paths.appRoot).getD specifier
      match ModuleKind.ofExtension? (Specifier.extension specifier) with
      | some kind => requireFile engine run loader state requester kind specifier
      | none => requireNative engine run loader specifier

/-- What a module that may be required exports now, if it is there. -/
def requireValue (engine : Engine σ) (run : Script σ → Action σ Value) (loader : Nat)
    (specifier : String) : Action σ (Option Value) := do
  match ← require engine run loader none specifier with
  | some container => return some ((← get).content container)
  | none => pure none

end ScriptHost.Modules
