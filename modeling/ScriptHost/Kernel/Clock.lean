import ScriptHost.Kernel.Basic

/-!
# The clock and its timers

A timer descriptor counts its expiries.  Timers that are due go off one at a
time, earliest first and in the order of arming where they are due together.  A
repeating timer that has missed several expiries counts them all at once and
is armed again after the last of them; any other goes off once.
-/

namespace ScriptHost.Kernel

/-- How many nanoseconds a second has. -/
def nanosPerSecond : Nat := Nat.pow 10 9

/-- How many nanoseconds a millisecond has. -/
def nanosPerMilli : Nat := Nat.pow 10 6

/-- A span of time, split as the calls of the system take it. -/
structure Span where
  /-- Whole seconds. -/
  seconds : Nat
  /-- Nanoseconds beyond them. -/
  nanos : Nat
deriving DecidableEq, Repr

namespace Span

/-- The span of so many milliseconds. -/
def ofMillis (millis : Nat) : Span :=
  ⟨millis / 1000, millis % 1000 * nanosPerMilli⟩

/-- The span of some seconds and nanoseconds, of which there may be more than a
second holds. -/
def ofParts (seconds nanos : Nat) : Span :=
  ⟨seconds + nanos / nanosPerSecond, nanos % nanosPerSecond⟩

/-- The nanoseconds of a span. -/
def toNanos (span : Span) : Nat :=
  span.seconds * nanosPerSecond + span.nanos

/-- No time at all. -/
def zero : Span := ⟨0, 0⟩

/-- The seconds are taken as a signed word, so the upper half of the range is
negative. -/
def isNegative (span : Span) : Bool :=
  Nat.pow 2 63 ≤ span.seconds

end Span

/-- A number of expiries is cut at this. -/
def maxExpiries : Nat := Nat.pow 2 60

/-- The alarm of a timer descriptor, while armed. -/
def alarm? (kernel : Kernel) (fd : Descriptor) : Option Alarm :=
  match kernel.resource? fd with
  | some (.timer timer) => timer.alarm
  | _ => none

/-- The armed timers with their alarms. -/
def armedTimers (kernel : Kernel) : List (Descriptor × Alarm) :=
  kernel.opened.keys.filterMap fun fd => (kernel.alarm? fd).map fun alarm => (fd, alarm)

/-- The number of armed timers. -/
def armedCount (kernel : Kernel) : Nat :=
  kernel.armedTimers.length

/-- The earlier of two timers. -/
def earlier (first : Descriptor × Alarm) : Option (Descriptor × Alarm) → Option (Descriptor × Alarm)
  | none => some first
  | some second => if second.2.before first.2 then some second else some first

/-- The armed timer that goes off next. -/
def nextAlarm? (kernel : Kernel) : Option (Descriptor × Alarm) :=
  kernel.armedTimers.foldr earlier none

/-- The timer after the expiries up to `now`, the first of which is `alarm`, and
how many there were. -/
def expire (timer : Timer) (alarm : Alarm) (now serial : Nat) : Timer × Nat :=
  if timer.interval = 0 then
    ({ timer with alarm := none }, 1)
  else
    let count := 1 + (now - alarm.expiry) / timer.interval
    ({ timer with alarm := some ⟨alarm.expiry + count * timer.interval, serial⟩ }, count)

/-- Let one timer go off and wake its descriptor. -/
def goOff (kernel : Kernel) (fd : Descriptor) (alarm : Alarm) : Kernel :=
  match kernel.resource? fd with
  | some (.timer timer) =>
      let (timer, count) := expire timer alarm kernel.now kernel.alarms
      let timer := { timer with count := timer.count + min count maxExpiries }
      ({ kernel with alarms := kernel.alarms + 1 }.setResource fd (.timer timer)).wake fd
  | _ => kernel

/-- Let at most `fuel` due timers go off. -/
def fireAtMost (kernel : Kernel) : Nat → Kernel
  | 0 => kernel
  | fuel + 1 =>
      match kernel.nextAlarm? with
      | some (fd, alarm) =>
          if alarm.expiry ≤ kernel.now then (kernel.goOff fd alarm).fireAtMost fuel else kernel
      | none => kernel

/-- Let every due timer go off.  None is due again after it has gone off. -/
def fire (kernel : Kernel) : Kernel :=
  kernel.fireAtMost kernel.armedCount

/-- Move the clock on to a time.  It never goes back. -/
def moveTo (kernel : Kernel) (time : Nat) : Kernel :=
  { kernel with now := max kernel.now time }

/-- Move the clock and let the timers go off that are then due. -/
def advance (kernel : Kernel) (nanos : Nat) : Kernel :=
  (kernel.moveTo (kernel.now + nanos)).fire

/-- The expiries of a timer descriptor since the last read. -/
def unread (kernel : Kernel) (fd : Descriptor) : Nat :=
  match kernel.resource? fd with
  | some (.timer timer) => timer.count
  | _ => 0

/-- A new timer that is not armed. -/
def createTimer : KernelCall Descriptor := do
  meetFault "timerfd_create"
  match (← get).openResource (.timer ⟨none, 0, 0⟩) true with
  | (some fd, kernel) =>
      set kernel
      pure fd
  | (none, _) => throw Errno.tooManyOpened

/-- Arm a timer: it expires after `delay` and then every `interval`, if that is
any time at all.  No delay disarms it. -/
def setTimer (fd : Descriptor) (delay interval : Span) : KernelCall Unit := do
  meetFault "timerfd_settime"
  if delay.isNegative || interval.isNegative then throw Errno.invalid
  let kernel ← get
  match kernel.resource? fd with
  | some (.timer _) =>
      let alarm :=
        if delay.toNanos = 0 then none
        else some ⟨kernel.now + delay.toNanos, kernel.alarms⟩
      set ({ kernel with alarms := kernel.alarms + 1 }.setResource fd
        (.timer ⟨alarm, interval.toNanos, 0⟩))
  | some _ => throw Errno.invalid
  | none => throw Errno.badDescriptor

end ScriptHost.Kernel
