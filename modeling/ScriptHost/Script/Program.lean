import ScriptHost.Script.Basic

/-!
# Scripts in direct style

A program is a script with a hole for what comes after it.  Programs form a
monad, so that scripts can be written as sequences of steps.
-/

namespace ScriptHost

/-- A script that gives an `α` to what comes after it. -/
def Program (σ α : Type) : Type :=
  (α → Script σ) → Script σ

namespace Program

variable {σ α β : Type}

instance : Monad (Program σ) where
  pure value := fun next => next value
  bind program continuation := fun next => program fun value => continuation value next

/-- Ask the system for something. -/
def ask (request : Request) : Program σ request.Reply :=
  fun next => .ask request next

/-- The memory of the scripts. -/
def fetch : Program σ σ :=
  fun next => .fetch next

/-- Change the memory of the scripts. -/
def update (f : σ → σ) : Program σ Unit :=
  fun next => .fetch fun memory => .store (f memory) (next ())

/-- The script of a program that ends in a value or an error. -/
def toScript (program : Program σ (Except Error Value)) : Script σ :=
  program fun outcome =>
    match outcome with
    | .ok value => .done value
    | .error error => .fail error

end Program

end ScriptHost
