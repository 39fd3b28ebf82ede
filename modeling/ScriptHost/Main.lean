import ScriptHost.Script.Exec

/-!
# The command line

The program on its own brings the foundation and no script engine, and it sees
no files but those of an empty disk.  It starts like any other host; the error
that ends the start goes to standard error.
-/

namespace ScriptHost.CommandLine

/-- The name that the program goes by. -/
def programName : String := "scripthost"

/-- What the program brings along. -/
def host : Host :=
  { builtins := Host.builtinTable false []
    libraries := .linker
    resources := .empty
    worker := none }

/-- The engine of a host that has none: it takes no source. -/
def noEngine : Engine Unit :=
  let refusal : Error := .missingCapability "vm"
  { compile := fun _ _ => .error refusal
    runScript := fun _ _ => .fail refusal
    runModule := fun _ _ => .fail refusal }

/-- Start the program with some arguments after its name. -/
def start (arguments : List String) : Except Error Unit :=
  let world : World Unit :=
    World.start (Kernel.start [] none) .empty .empty ()
  let script : Script Unit :=
    .boot host (programName :: arguments) fun outcome =>
      match outcome with
      | .ok () => .done .null
      | .error error => .fail error
  match (Script.exec noEngine 2 script world).1 with
  | .ok _ => .ok ()
  | .error (.raised error) => .error error
  | .error .exhausted => .error (.config "out of fuel")

end ScriptHost.CommandLine

/-- Start the program; the exit status tells whether that went well. -/
def main (arguments : List String) : IO UInt32 := do
  match ScriptHost.CommandLine.start arguments with
  | .ok () => pure 0
  | .error error =>
      (← IO.getStderr).putStrLn ("Error: " ++ error.message?.getD "")
      pure 1
