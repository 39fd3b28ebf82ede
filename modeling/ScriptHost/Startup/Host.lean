import ScriptHost.Capability.Vault
import ScriptHost.Options
import ScriptHost.Settings

/-!
# Hosts and runtimes

A host is what a program brings along: capabilities, embedded texts, a way to
open libraries, and perhaps a worker script.  A runtime is what is made of it.
-/

namespace ScriptHost

/-- What a program brings along. -/
structure Host where
  /-- The capabilities that are built in. -/
  builtins : Table String Factory
  /-- Where libraries are looked for. -/
  libraries : LibraryLoader
  /-- The embedded texts, by name. -/
  resources : Table String String
  /-- The worker script, if there is one. -/
  worker : Option String

namespace Host

/-- The capabilities of every host, except the script engine. -/
def foundation : List (String × Factory) :=
  [("epoll", ⟨true, .ok .epoll⟩), ("fs", ⟨true, .ok .fileSystem⟩),
    ("net", ⟨true, .ok .net⟩), ("sys", ⟨true, .ok .sys⟩)]

/-- The capability of the script engine. -/
def engineFactory : String × Factory :=
  ("vm", ⟨true, .ok .vm⟩)

/-- The built-in capabilities of a host: the foundation, the engine if there is
one, and those the host adds, which may replace the others. -/
def builtinTable (hasEngine : Bool) (added : List (String × Factory)) :
    Table String Factory :=
  Table.ofList (foundation ++ (if hasEngine then [engineFactory] else []) ++ added)

end Host

/-- A running host. -/
structure Runtime where
  /-- The options it was started with. -/
  options : Options
  /-- Its settings. -/
  settings : Settings
  /-- Its registry of capabilities. -/
  registry : Nat
  /-- The payloads it holds for its own use. -/
  services : List Nat
  /-- The environment when it was started. -/
  environment : Table String String
  /-- Its loop and timers. -/
  reactor : Nat
  /-- Its module loader. -/
  loader : Nat
  /-- The worker script, until it has been run. -/
  worker : Option String

namespace Runtime

/-- The capabilities that a runtime cannot do without, in the order in which
they are asked for. -/
def required : List (String × PayloadType) :=
  [("vm", .vm), ("epoll", .epoll), ("fs", .fileSystem), ("net", .net), ("sys", .sys)]

/-- The first of these are only held while the runtime is made. -/
def setupOnly : Nat := 2

end Runtime

end ScriptHost
