import ScriptHost.Script.Perform
import ScriptHost.Startup.Run

/-!
# Executing scripts

`interpret` follows one script, given how to run those that it starts on the
way.  `exec` ties the knot: scripts that are started are run with one unit of
fuel less, so fuel bounds how deep scripts start each other, and also how often
a loop turns.
-/

namespace ScriptHost

variable {σ : Type}

open World

namespace Script

/-- Answer a request as part of an action.  The journal is told if the request goes
behind the back of a loop or a timer. -/
def answer (request : Request) : Action σ request.Reply :=
  fun world =>
    let world := (world.noticeSeizure request.seizes?).noticeUse request.uses?
    let (reply, world) := request.perform world
    (.ok reply, world)

/-- Make a function with a new identity. -/
def newFunction (name : String) (body : List Value → Script σ) : Action σ Value :=
  modifyGet fun world =>
    (.function name world.functions.size, { world with functions := world.functions.push body })

/-- Register a descriptor with a script for its events. -/
def listenFor (reactor : Nat) (fd : Descriptor) (interest : Interest)
    (handler : Descriptor → Interest → Script σ) : Action σ Unit := do
  modify fun world => world.noticeUse (some fd)
  onReactor reactor (Reactor.onLoop (EventLoop.add fd interest (.script handler)))

/-- Follow a script.  Whatever it does takes a step. -/
def interpret (context : Startup.Context σ) : Script σ → Action σ Value
  | done value => do
      tick
      pure value
  | fail error => do
      tick
      raise error
  | ask request next => do
      tick
      let reply ← answer request
      interpret context (next reply)
  | fetch next => do
      tick
      let memory := (← get).memory
      interpret context (next memory)
  | store memory next => do
      tick
      modify fun world => { world with memory }
      interpret context next
  | define name body next => do
      tick
      let function ← newFunction name body
      interpret context (next function)
  | call target method arguments next => do
      tick
      let outcome ← attempt (Startup.callMethod context target method arguments)
      interpret context (next outcome)
  | require loader requester specifier next => do
      tick
      let outcome ← attempt
        (Modules.require context.engine context.run loader requester specifier)
      interpret context (next outcome)
  | requireNative loader name next => do
      tick
      let outcome ← attempt (Modules.requireNative context.engine context.run loader name)
      interpret context (next outcome)
  | listen reactor fd interest handler next => do
      tick
      let outcome ← attempt (listenFor reactor fd interest handler)
      interpret context (next outcome)
  | schedule reactor delay isRepeating callback next => do
      tick
      let outcome ← attempt (Dispatch.schedule reactor delay isRepeating callback)
      interpret context (next outcome)
  | poll reactor timeout next => do
      tick
      let outcome ← attempt (Dispatch.poll context.run reactor timeout)
      interpret context (next outcome)
  | drive reactor next => do
      tick
      let outcome ← attempt (Dispatch.drive context.run reactor context.turns)
      interpret context (next outcome)
  | start runtime next => do
      tick
      let outcome ← attempt (Startup.start context runtime)
      interpret context (next outcome)
  | boot host argv next => do
      tick
      let outcome ← attempt (Startup.boot context host argv)
      interpret context (next outcome)
  | bare host options next => do
      tick
      let outcome ← attempt (Startup.bare context host options)
      interpret context (next outcome)

/-- Run a script with some fuel. -/
def exec (engine : Engine σ) : Nat → Script σ → Action σ Value
  | 0, _ => throw .exhausted
  | fuel + 1, script => interpret ⟨engine, exec engine fuel, fuel⟩ script

end Script

end ScriptHost
