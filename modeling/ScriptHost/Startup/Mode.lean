import ScriptHost.Error
import ScriptHost.Options

/-!
# Startup modes

What a runtime does when it starts is decided by its positionals and by whether
it was given a worker script.  Flags play no part.
-/

namespace ScriptHost

/-- What a runtime does when it starts. -/
inductive StartupMode where
  /-- Nothing: there is not even a program name. -/
  | idle
  /-- Run the worker script. -/
  | worker
  /-- Talk to the user. -/
  | repl
  /-- Run the script read from standard input. -/
  | stdin
  /-- Run a script given as an argument. -/
  | eval (source : String)
  /-- Build, perhaps a target. -/
  | build (target : Option String)
  /-- Start a project. -/
  | init (name : String)
  /-- Remove what was built. -/
  | clean
  /-- Run a file. -/
  | file (path : String)
deriving DecidableEq, Repr

namespace StartupMode

/-- The name of a project that was given none. -/
def defaultProject : String := "hello"

/-- The mode for some options. -/
def select (options : Options) (hasWorker : Bool) : Except Error StartupMode :=
  if options.positionals.isEmpty then
    .ok idle
  else if hasWorker then
    .ok worker
  else
    let operand := options.positional? 2
    match options.positional? 1 with
    | none => .ok repl
    | some "--" => .ok stdin
    | some "eval" =>
        match operand with
        | some source => .ok (eval source)
        | none => .error (.config "eval requires a script")
    | some "build" => .ok (build operand)
    | some "init" => .ok (init (operand.getD defaultProject))
    | some "clean" => .ok clean
    | some path => .ok (file path)

end StartupMode

end ScriptHost
