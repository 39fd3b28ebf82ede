import ScriptHost.Capability.Basic
import ScriptHost.Kernel.Clock

/-!
# The journal

Everything that a host does and that somebody outside could notice, in the
order in which it happened, with the notes that scripts write in between.
-/

namespace ScriptHost

/-- How serious a log record is. -/
inductive Severity where
  | warning
  | error
deriving DecidableEq, Repr

/-- A record for the log. -/
structure LogRecord where
  /-- How serious it is. -/
  severity : Severity
  /-- The sentence. -/
  message : String
  /-- What the sentence is about. -/
  fields : List (String × String)
deriving DecidableEq, Repr

/-- The identity of a timer: its descriptor, which may be used again, and its
number, which is not. -/
@[ext]
structure TimerHandle where
  /-- The descriptor of the timer. -/
  fd : Descriptor
  /-- The number of the timer. -/
  id : Nat
deriving DecidableEq, Repr

/-- The start of a handler for a reported event. -/
structure Delivery where
  /-- The loop. -/
  reactor : Nat
  /-- The registration whose handler was started. -/
  serial : Nat
  /-- The registration in force for the descriptor when the event was reported. -/
  reported : Option Nat
  /-- The registration in force for the descriptor when the handler was started. -/
  current : Option Nat
  /-- How many registrations the loop had been asked for. -/
  asked : Nat
  /-- The token of the event. -/
  token : UInt64
  /-- The time. -/
  time : Nat
deriving DecidableEq, Repr

/-- Something that happened. -/
inductive Event where
  /-- A line that a script wrote. -/
  | note (line : String)
  /-- A record went to the log. -/
  | log (record : LogRecord)
  /-- An error of a handler was given to a listener. -/
  | uncaught (listener : Nat) (error : Error)
  /-- A source was compiled to a function of some parameters. -/
  | compiled (name : String) (parameters : List String)
  /-- A script was run. -/
  | script (name source : String)
  /-- A module of the language itself was run. -/
  | module (name source : String)
  /-- The worker script of a runtime was taken out of it, to be handed to the engine. -/
  | handedOver (runtime : Nat) (source : String)
  /-- A require found its record in the cache and was answered with its exports. -/
  | found (loader record container : Nat) (path : Path)
  /-- A require found no record and looked for a source. -/
  | searched (loader : Nat) (path : Path)
  /-- A record with a container for its exports was kept and its evaluation began. -/
  | evaluating (loader record container : Nat) (path : Path)
  /-- The evaluation of a record ended well and its exports were handed out. -/
  | evaluated (loader record container : Nat) (path : Path)
  /-- The evaluation of a record ended in an error and the record was forgotten. -/
  | evaluationFailed (loader record : Nat) (path : Path)
  /-- A record was given another container for its exports. -/
  | exportsReplaced (record container : Nat)
  /-- A built-in capability was made. -/
  | factory (name : String) (isFoundation : Bool)
  /-- A library was asked for. -/
  | opening (source : LibrarySource) (path : Path)
  /-- A library was opened. -/
  | opened (handle : LibraryHandle)
  /-- A symbol was looked up. -/
  | resolved (source : LibrarySource) (symbol : String)
  /-- A registration was called and gave a payload of some level, or none. -/
  | registered (handle : LibraryHandle) (level : Option Int)
  /-- A payload came out of a library and was given to a capability. -/
  | obtained (payload : Nat) (handle : LibraryHandle)
  /-- A payload was freed. -/
  | payloadFreed (id : Nat) (payload : Payload)
  /-- A capability with an open library went, while so many others held its payload. -/
  | dropped (handle : LibraryHandle) (sharers : Nat)
  /-- A library was closed. -/
  | closed (handle : LibraryHandle)
  /-- A handler was started. -/
  | handling (delivery : Delivery)
  /-- A loop was driven until nothing was registered. -/
  | drained (reactor : Nat)
  /-- A timer was started, on a descriptor from some opening. -/
  | scheduled (reactor : Nat) (timer : TimerHandle) (isRepeating : Bool) (opening : Option Nat)
  /-- A timer that was started had been armed at some time, for some delay. -/
  | armed (reactor : Nat) (timer : TimerHandle) (isRepeating : Bool) (time : Nat)
      (delay : Kernel.Span)
  /-- The callback of a timer is to be started, though no expiry of it is unread. -/
  | hollow (reactor : Nat) (timer : TimerHandle)
  /-- The callback of a timer was started. -/
  | ringing (reactor : Nat) (timer : TimerHandle) (time : Nat)
  /-- The callback of a timer came back and the timer was settled. -/
  | rang (reactor : Nat) (timer : TimerHandle)
  /-- The callback of a timer that is live still came back, and expiries are unread. -/
  | unread (reactor : Nat) (timer : TimerHandle)
  /-- A live timer was cancelled. -/
  | cancelled (reactor : Nat) (timer : TimerHandle)
  /-- The descriptor of a timer was used by others than its timers. -/
  | meddled (fd : Descriptor)
  /-- A descriptor that a loop or a timer owns was closed or driven by others. -/
  | seized (fd : Descriptor)
deriving DecidableEq, Repr

/-- What has happened so far. -/
abbrev Journal := Array Event

end ScriptHost
