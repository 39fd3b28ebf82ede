import ScriptHost.Error
import ScriptHost.Kernel.ReadyList

/-!
# Pollers

A poller is a readiness list together with the number of events it reports at
most per wait.  Failed calls carry the name of the system call; an interrupted
wait counts as one that found nothing.

The system takes that number as a signed word of 32 bits.  How a larger one is
cut to it is not modelled: what is said here of a poller with room for more than
2147483647 events is not said of one of the system.
-/

namespace ScriptHost

/-- A call that gives a result or names the system call that failed. -/
abbrev SystemCall (α : Type) := ExceptT SystemError (StateM Kernel) α

namespace Kernel

/-- Run a kernel call under the name of its system call. -/
def named {α : Type} (syscall : String) (call : KernelCall α) : SystemCall α :=
  fun kernel =>
    match call kernel with
    | (.ok value, kernel) => (.ok value, kernel)
    | (.error errno, kernel) => (.error ⟨syscall, errno⟩, kernel)

/-- The whole milliseconds of a span; the largest number stands for all longer ones. -/
def Span.toMillis (span : Span) : Nat :=
  min (span.toNanos / nanosPerMilli) 2147483647

end Kernel

/-- A readiness list and the room for its events. -/
structure Poller where
  /-- The descriptor of the readiness list. -/
  list : Descriptor
  /-- The number of events that a wait reports at most. -/
  capacity : Nat
deriving DecidableEq, Repr

namespace Poller

/-- A new poller.  It reports at least one event at a time. -/
def create (capacity : Nat) : SystemCall Poller := do
  let list ← Kernel.named "epoll_create1" Kernel.createReadyList
  pure ⟨list, max capacity 1⟩

/-- Register a descriptor. -/
def register (poller : Poller) (fd : Descriptor) (token : UInt64) (interest : Interest) :
    SystemCall Unit :=
  Kernel.named "epoll_ctl" (Kernel.watch poller.list fd token interest)

/-- Change a registration. -/
def modify (poller : Poller) (fd : Descriptor) (token : UInt64) (interest : Interest) :
    SystemCall Unit :=
  Kernel.named "epoll_ctl" (Kernel.rewatch poller.list fd token interest)

/-- Remove a registration. -/
def deregister (poller : Poller) (fd : Descriptor) : SystemCall Unit :=
  Kernel.named "epoll_ctl" (Kernel.forget poller.list fd)

/-- The events of one wait, which is cut to whole milliseconds. -/
def poll (poller : Poller) (timeout : Option Kernel.Span) : SystemCall (List Readiness) :=
  fun kernel =>
    match Kernel.wait poller.list poller.capacity (timeout.map Kernel.Span.toMillis) kernel with
    | (.ok events, kernel) => (.ok events, kernel)
    | (.error errno, kernel) =>
        if errno = Errno.interrupted then (.ok [], kernel)
        else (.error ⟨"epoll_wait", errno⟩, kernel)

end Poller

end ScriptHost
