import ScriptHost.Script.Request

/-!
# Scripts

A script is what an engine makes of a source: a tree of what it does next.  It
asks the system for something and goes on according to the reply, until it
returns a value or fails.  A script has a memory `σ` of its own, which all
scripts of a world share.

Besides the plain requests a script can hand over other scripts, to be run when
a descriptor is ready, when a timer rings or when a function is called, and it
can do what runs other scripts before it comes back.
-/

namespace ScriptHost

/-- A script over a memory `σ`. -/
inductive Script (σ : Type) : Type where
  /-- Return a value. -/
  | done (value : Value)
  /-- Fail. -/
  | fail (error : Error)
  /-- Ask the system for something. -/
  | ask (request : Request) (next : request.Reply → Script σ)
  /-- Look at the memory. -/
  | fetch (next : σ → Script σ)
  /-- Change the memory. -/
  | store (memory : σ) (next : Script σ)
  /-- Make a function. -/
  | define (name : String) (body : List Value → Script σ) (next : Value → Script σ)
  /-- Call the method of an object. -/
  | call (target : Value) (method : String) (arguments : List Value)
      (next : Except Error Value → Script σ)
  /-- Require a module, on behalf of another if one is given. -/
  | require (loader : Nat) (requester : Option Nat) (specifier : String)
      (next : Except Error (Option Nat) → Script σ)
  /-- Require a native module. -/
  | requireNative (loader : Nat) (name : String)
      (next : Except Error (Option Nat) → Script σ)
  /-- Register a descriptor with a handler. -/
  | listen (reactor : Nat) (fd : Descriptor) (interest : Interest)
      (handler : Descriptor → Interest → Script σ) (next : Except Error Unit → Script σ)
  /-- Start a timer. -/
  | schedule (reactor : Nat) (delay : Kernel.Span) (isRepeating : Bool) (callback : Script σ)
      (next : Except Error TimerHandle → Script σ)
  /-- Wait once and run the handlers of what is ready. -/
  | poll (reactor : Nat) (timeout : Option Kernel.Span) (next : Except Error Nat → Script σ)
  /-- Wait and run handlers until nothing is registered. -/
  | drive (reactor : Nat) (next : Except Error Unit → Script σ)
  /-- Run a runtime in its startup mode. -/
  | start (runtime : Nat) (next : Except Error Unit → Script σ)
  /-- Make a runtime, run it and drop it. -/
  | boot (host : Host) (argv : List String) (next : Except Error Unit → Script σ)
  /-- Run a script with an engine and nothing else. -/
  | bare (host : Host) (options : Options) (next : Except Error Unit → Script σ)

/-- What a handler of a loop does. -/
inductive Handler (σ : Type) where
  /-- Run a script that is told the descriptor and its readiness. -/
  | script (body : Descriptor → Interest → Script σ)
  /-- Run the callback of a timer. -/
  | timer (timer : TimerHandle) (isRepeating : Bool) (callback : Script σ)

/-- Where a module is evaluated: its loader, its record, and the container of its
exports when it began. -/
structure ModuleScope where
  loader : Nat
  record : Nat
  exports : Nat
deriving DecidableEq, Repr

/-- A script engine: what it makes of sources. -/
structure Engine (σ : Type) where
  /-- Compile the body of a module, given its source and name. -/
  compile : String → String → Except Error (ModuleScope → Script σ)
  /-- The script of a source and a name. -/
  runScript : String → String → Script σ
  /-- The script of a source and a name that is a module of the language itself. -/
  runModule : String → String → Script σ

namespace Engine

/-- The parameters of a compiled module. -/
def moduleParameters : List String := ["exports", "require", "module"]

end Engine

end ScriptHost
