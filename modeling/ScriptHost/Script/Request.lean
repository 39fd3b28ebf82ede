import ScriptHost.Loop.Timers
import ScriptHost.Module.Record
import ScriptHost.Startup.Host

/-!
# Requests

What a script may ask of the system that does not run other scripts before it
is answered.  Each request has a type of replies.  Loops, loaders, records,
containers, registries, capabilities, payloads and runtimes are named by number.
-/

namespace ScriptHost

/-- A question or command of a script. -/
inductive Request where
  /-- Write a line to the journal. -/
  | note (line : String)
  -- the clock and descriptors
  | now
  | advance (nanos : Nat)
  | armed
  | plan (fault : Kernel.PlannedFault)
  | pipe
  | openFile (path : Path)
  | close (fd : Descriptor)
  | read (fd : Descriptor) (length : Nat)
  | write (fd : Descriptor) (bytes : Bytes)
  | readToEnd (fd : Descriptor) (chunk : Nat)
  | setNonblocking (fd : Descriptor)
  -- pollers
  | newPoller (capacity : Nat)
  | register (poller : Poller) (fd : Descriptor) (token : UInt64) (interest : Interest)
  | reregister (poller : Poller) (fd : Descriptor) (token : UInt64) (interest : Interest)
  | deregister (poller : Poller) (fd : Descriptor)
  | await (poller : Poller) (timeout : Option Kernel.Span)
  -- files and the environment
  | putNode (path : Path) (node : Disk.Node)
  | remove (path : Path)
  | enterDirectory (path : Path)
  | isFile (path : Path)
  | readText (path : Path)
  | currentPath
  | environment
  | loadSettings (path : Path)
  | findSettings (start : Path)
  -- modules
  | newLoader (resources : Table String String) (paths : ModulePaths)
  | loader (loader : Nat)
  | record (record : Nat)
  | setExports (record : Nat) (container : Nat)
  | newContainer (value : Value)
  | container (container : Nat)
  | assign (container : Nat) (value : Value)
  | setMember (container : Nat) (key : String) (value : Value)
  -- capabilities
  | newRegistry (builtins : Table String Factory) (libraries : LibraryLoader)
  | registry (registry : Nat)
  | holdRegistry (registry : Nat)
  | releaseRegistry (registry : Nat)
  | load (registry : Nat) (name : String) (path : Option Path)
  | loaded (registry : Nat) (name : String)
  | requireCapability (registry : Nat) (name : String) (type : PayloadType)
  | capability (capability : Nat)
  | release (capability : Nat)
  | closeCapability (capability : Nat)
  | holdPayloadOf (capability : Nat)
  | payloadOf (capability : Nat)
  | releasePayload (payload : Nat)
  | probe (libraries : LibraryLoader) (path : Path) (symbols : List String)
  -- loops and timers
  | newReactor (capacity : Nat)
  | holdReactor (reactor : Nat)
  | releaseReactor (reactor : Nat)
  | setHook (reactor : Nat) (hook : ErrorHook)
  | modify (reactor : Nat) (fd : Descriptor) (interest : Interest)
  | unlisten (reactor : Nat) (fd : Descriptor)
  | listens (reactor : Nat) (fd : Descriptor)
  | registered (reactor : Nat)
  | timers (reactor : Nat)
  | cancel (reactor : Nat) (timer : TimerHandle)
  -- runtimes
  | bootstrap (host : Host) (options : Options)
  | runtime (runtime : Nat)
  | holdRuntime (runtime : Nat)
  | releaseRuntime (runtime : Nat)

namespace Request

/-- The descriptor that a request closes, or drives as a readiness list. -/
def seizes? : Request → Option Descriptor
  | close fd => some fd
  | register poller _ _ _ | reregister poller _ _ _ | deregister poller _ | await poller _ =>
      some poller.list
  | _ => none

/-- The descriptor that a request uses. -/
def uses? : Request → Option Descriptor
  | read fd _ | write fd _ | readToEnd fd _ | setNonblocking fd => some fd
  | register _ fd _ _ | reregister _ fd _ _ | deregister _ fd => some fd
  | modify _ fd _ | unlisten _ fd => some fd
  | _ => none

/-- What a request is answered with. -/
def Reply : Request → Type
  | note _ => Unit
  | now => Nat
  | advance _ => Unit
  | armed => Nat
  | plan _ => Unit
  | pipe => Descriptor × Descriptor
  | openFile _ => Except Error Descriptor
  | close _ => Bool
  | read _ _ => Except Error Bytes
  | write _ _ => Except Error Nat
  | readToEnd _ _ => Except Error Bytes
  | setNonblocking _ => Except Error Unit
  | newPoller _ => Except Error Poller
  | register _ _ _ _ => Except Error Unit
  | reregister _ _ _ _ => Except Error Unit
  | deregister _ _ => Except Error Unit
  | await _ _ => Except Error (List Readiness)
  | putNode _ _ => Unit
  | remove _ => Bool
  | enterDirectory _ => Bool
  | isFile _ => Bool
  | readText _ => Except Error String
  | currentPath => Except Error Path
  | environment => Table String String
  | loadSettings _ => Except Error Settings
  | findSettings _ => Except Error Settings
  | newLoader _ _ => Nat
  | loader _ => Option ModuleLoader
  | record _ => Option ModuleRecord
  | setExports _ _ => Unit
  | newContainer _ => Nat
  | container _ => Value
  | assign _ _ => Unit
  | setMember _ _ _ => Bool
  | newRegistry _ _ => Nat
  | registry _ => Option Registry
  | holdRegistry _ => Unit
  | releaseRegistry _ => Unit
  | load _ _ _ => Option Nat
  | loaded _ _ => Option Nat
  | requireCapability _ _ _ => Except Error (Nat × Payload)
  | capability _ => Option Capability
  | release _ => Unit
  | closeCapability _ => Bool
  | holdPayloadOf _ => Option Nat
  | payloadOf _ => Option (Nat × Payload)
  | releasePayload _ => Unit
  | probe _ _ _ => Except LibraryError (Path × List (Except LibraryError (Option Int)))
  | newReactor _ => Except Error Nat
  | holdReactor _ => Unit
  | releaseReactor _ => Unit
  | setHook _ _ => Unit
  | modify _ _ _ => Except Error Unit
  | unlisten _ _ => Except Error Bool
  | listens _ _ => Bool
  | registered _ => Nat
  | timers _ => Option Timers
  | cancel _ _ => Except Error Bool
  | bootstrap _ _ => Except Error Nat
  | runtime _ => Option Runtime
  | holdRuntime _ => Unit
  | releaseRuntime _ => Unit

end Request

end ScriptHost
