import ScriptHost.Json.Printer
import ScriptHost.Loop.Dispatch
import ScriptHost.Module.Require
import ScriptHost.Startup.Bootstrap

/-!
# Running a runtime

A run picks the startup mode, does what the mode asks for, and then drives the
loop until nothing is registered.  A worker script is taken out of the runtime
before it is run, so no later run finds it.
-/

namespace ScriptHost.Startup

variable {σ : Type}

open World

/-- What a run needs besides the world: the engine, how to run a script, and the
number of turns that a loop may take. -/
structure Context (σ : Type) where
  /-- The script engine. -/
  engine : Engine σ
  /-- How a script is run. -/
  run : Script σ → Action σ Value
  /-- The turns that a loop may take. -/
  turns : Nat

/-- Call a function. -/
def callFunction (context : Context σ) (body : Nat) (arguments : List Value) :
    Action σ Value := do
  match (← get).functions[body]? with
  | some body => context.run (body arguments)
  | none => pure .null

/-- Call the method of an object.  What is no function cannot be called. -/
def callMethod (context : Context σ) (target : Value) (method : String)
    (arguments : List Value) : Action σ Value := do
  match target.get? method with
  | some (.function _ body) => callFunction context body arguments
  | _ => raise (.script method (method ++ " is not a function"))

/-- Hand a script to the engine. -/
def runScript (context : Context σ) (source name : String) : Action σ Unit := do
  tell (.script name source)
  let _ ← context.run (context.engine.runScript source name)

/-- Hand a module of the language itself to the engine. -/
def runModule (context : Context σ) (source name : String) : Action σ Unit := do
  tell (.module name source)
  let _ ← context.run (context.engine.runModule source name)

/-- What a module exports; without the module there is a configuration error. -/
def optionalModule (context : Context σ) (runtime : Runtime) (name missing : String) :
    Action σ Value := do
  match ← Modules.requireValue context.engine context.run runtime.loader name with
  | some value => pure value
  | none => raise (.config missing)

/-- The application root of a runtime. -/
def appRoot (runtime : Runtime) : Action σ Path := do
  match (← get).loaders.get? runtime.loader with
  | some loader => pure loader.paths.appRoot
  | none => pure ⟨""⟩

/-- The name of a worker script whose program has none. -/
def workerName : String := "thread"

/-- Take the worker script out of a runtime and run it. -/
def runWorker (context : Context σ) (id : Nat) : Action σ Unit := do
  match (← get).runtime? id with
  | none => pure ()
  | some runtime =>
      match ← takeWorker id with
      | none => pure ()
      | some source =>
          let root ← appRoot runtime
          runScript context source (root.join ((runtime.options.positional? 0).getD workerName)).text

/-- How many bytes of standard input are read at a time. -/
def stdinChunk : Nat := 4096

/-- Run the script on standard input. -/
def runStdin (context : Context σ) : Action σ Unit := do
  let bytes ← system (Streams.readToEnd Kernel.stdin stdinChunk)
  runScript context (Text.Utf8.textLossy ⟨bytes.toArray⟩) "stdin"

/-- Run a file. -/
def runFile (context : Context σ) (runtime : Runtime) (file : String) : Action σ Unit := do
  let path := (← appRoot runtime).resolve file
  let source ← readText path
  if runtime.options.flag "esm" then runModule context source path.text
  else runScript context source path.text

/-- The configuration of a build.  A target is a configuration itself, or is
handed to the module that configures targets; without a target the application
may bring its configuration as data or as a script. -/
def buildConfiguration (context : Context σ) (runtime : Runtime) (target : Option String)
    (options : Value) : Action σ Value := do
  let value (specifier : String) : Action σ (Option Value) :=
    Modules.requireValue context.engine context.run runtime.loader specifier
  if runtime.options.flag "config" then
    match target with
    | some target => return (← value target).getD (.object [])
    | none => pure (.object [])
  else
    match target with
    | some target =>
        let configure ←
          optionalModule context runtime "configure" "configure module not available"
        callMethod context configure "run" [.string target, options]
    | none =>
        match ← value "config.json" with
        | some configuration => pure configuration
        | none => return (← value "config.js").getD (.object [])

/-- Build, and print the result if that is asked for. -/
def runBuild (context : Context σ) (runtime : Runtime) (target : Option String) :
    Action σ Unit := do
  let build ← optionalModule context runtime "build" "Build not available"
  let options := runtime.options.toValue
  let configuration ← buildConfiguration context runtime target options
  let result ← callMethod context build "run" [configuration, options]
  if runtime.options.flag "dump" then
    modify fun world => { world with printed := world.printed ++ result.toJson.pretty ++ "\n" }

/-- Do what a startup mode asks for. -/
def dispatch (context : Context σ) (id : Nat) (runtime : Runtime) :
    StartupMode → Action σ Unit
  | .idle => pure ()
  | .worker => runWorker context id
  | .repl => do
      let repl ← optionalModule context runtime "repl" "REPL not enabled"
      let _ ← callMethod context repl "repl" []
  | .stdin => runStdin context
  | .eval source => runScript context source "eval"
  | .build target => runBuild context runtime target
  | .init name => do
      let build ← optionalModule context runtime "build" "Build not available"
      let _ ← callMethod context build "init" [.string name]
  | .clean => do
      let build ← optionalModule context runtime "build" "Build not available"
      let _ ← callMethod context build "clean" []
  | .file path => runFile context runtime path

/-- Why there is no inspector. -/
def inspectorError (runtime : Runtime) : Action σ Error := do
  let disk := (← get).disk
  match ← onVault (Vault.load disk runtime.registry "inspector" none) with
  | none => pure (.config "inspector module is not enabled")
  | some capability =>
      onVault (Vault.release capability)
      pure (.config "inspector integration is not supported")

/-- Run a runtime in its startup mode.  It stays until the run is over. -/
def start (context : Context σ) (id : Nat) : Action σ Unit :=
  withRuntime id do
    match (← get).runtime? id with
    | none => pure ()
    | some runtime =>
        if runtime.options.flag "inspector" then
          raise (← inspectorError runtime)
        else
          match ← ofExcept (StartupMode.select runtime.options runtime.worker.isSome) with
          | .idle => pure ()
          | mode => do
              dispatch context id runtime mode
              Dispatch.drive context.run runtime.reactor context.turns

/-- Run the script that the second positional is, with an engine and nothing
else. -/
def bare (context : Context σ) (host : Host) (options : Options) : Action σ Unit := do
  let registry ← onVault (Vault.addRegistry host.builtins host.libraries)
  match ← acquire registry [("vm", .vm)] [] with
  | (held, .error error) =>
      letGo held registry
      raise error
  | (held, .ok ()) =>
      let outcome ← attempt <|
        match options.positional? 1 with
        | some source => runScript context source "eval"
        | none => raise (.config "bare mode requires a script")
      letGo held registry
      ofExcept outcome

/-- Make a runtime, run it and drop it; in bare mode, run only a script. -/
def boot (context : Context σ) (host : Host) (argv : List String) : Action σ Unit := do
  let options := Options.parse argv
  if options.flag "bare" then
    bare context host options
  else
    let id ← bootstrap host options
    let outcome ← attempt (start context id)
    releaseRuntime id
    ofExcept outcome

end ScriptHost.Startup
