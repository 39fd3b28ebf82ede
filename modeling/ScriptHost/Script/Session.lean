import ScriptHost.Script.Exec

/-!
# Sessions

A session is one script that is run in a fresh world.  Everything that decides
what happens in it is given beforehand.  A session can be looked at after any
number of steps, so what holds of `Session.world` holds of every world that any
script of the session ever sees, however deep in handlers and module bodies it
is being run.
-/

namespace ScriptHost

/-- A script to be run in a fresh world. -/
structure Session (σ : Type) where
  /-- The engine. -/
  engine : Engine σ
  /-- The script. -/
  script : Script σ
  /-- How deep scripts may start each other. -/
  fuel : Nat
  /-- What is on standard input. -/
  input : Bytes
  /-- The number of waits that are allowed, if there is a limit. -/
  waitLimit : Option Nat
  /-- The numbers that new descriptors take, where they are free. -/
  offers : List Descriptor
  /-- The files. -/
  disk : Disk
  /-- The environment of the process. -/
  environment : Table String String
  /-- What the scripts remember at first. -/
  memory : σ

namespace Session

variable {σ : Type}

/-- The world in which the session starts. -/
def start (session : Session σ) : World σ :=
  World.start { Kernel.start session.input session.waitLimit with offers := session.offers }
    session.disk session.environment session.memory

/-- The world of the session when its scripts have taken so many steps. -/
def world (session : Session σ) (steps : Nat) : World σ :=
  (Script.exec session.engine session.fuel session.script
    { session.start with steps := some steps }).2

/-- What has happened in the session by then. -/
def history (session : Session σ) (steps : Nat) : List Event :=
  (session.world steps).journal.toList

end Session

end ScriptHost
