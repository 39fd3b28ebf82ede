import ScriptHost.Loop.Streams
import ScriptHost.Proofs.Kernel.Ticking
import ScriptHost.Proofs.Runs.Keeping

/-!
# Where descriptors stand

Of an open descriptor a loop depends on two things: from which opening it comes,
and what it is to others: a timer, or a readiness list and what that watches.  Almost
every call leaves both alone for every descriptor, and lets all timers go on.  The
calls that open, close or change what is watched are described by the descriptors that
they touch; all others keep their opening and watch at most what they watched before.
-/

namespace ScriptHost

variable {α : Type}

/-- What a resource is to others. -/
inductive Kernel.Role where
  /-- A timer. -/
  | timer
  /-- A readiness list, with what it watches. -/
  | list (watches : Table Descriptor Watch)
  /-- Something else. -/
  | other

/-- What a resource is to others. -/
def Kernel.Resource.role : Kernel.Resource → Kernel.Role
  | .timer _ => .timer
  | .readyList state => .list state.watches
  | _ => .other

/-- Which opening a descriptor comes from, and what it is to others. -/
def Kernel.Opened.standing (opened : Kernel.Opened) : Nat × Kernel.Role :=
  (opened.opening, opened.resource.role)

namespace Kernel

/-- Where a descriptor stands, if it is open. -/
def standing? (kernel : Kernel) (fd : Descriptor) : Option (Nat × Role) :=
  (kernel.opened.get? fd).map Opened.standing

/-- Every descriptor stands where it stood. -/
structure Stands (before after : Kernel) : Prop where
  openings : after.openings = before.openings
  standing : ∀ fd, after.standing? fd = before.standing? fd

/-- Every descriptor stands where it stood, and all timers go on. -/
structure Still (before after : Kernel) : Prop extends Stands before after where
  ticks : Ticks (fun _ => False) before after

instance : IsPreorder Kernel Stands where
  refl _ := ⟨rfl, fun _ => rfl⟩
  trans _ _ _ first second :=
    ⟨second.openings.trans first.openings, fun fd =>
      (second.standing fd).trans (first.standing fd)⟩

instance : IsPreorder Kernel Still where
  refl kernel := ⟨refl_of Stands kernel, refl_of (Ticks _) kernel⟩
  trans _ _ _ first second :=
    ⟨trans_of Stands first.toStands second.toStands, trans_of (Ticks _) first.ticks second.ticks⟩

variable {kernel : Kernel} {fd : Descriptor}

theorem stands_of_opened {after : Kernel} (openings : after.openings = kernel.openings)
    (opened : after.opened = kernel.opened) : Stands kernel after :=
  ⟨openings, fun fd => by rw [standing?, standing?, opened]⟩

/-- A kernel with other tables besides the descriptors, and the clock not behind. -/
theorem still_of_opened {after : Kernel} (openings : after.openings = kernel.openings)
    (opened : after.opened = kernel.opened) (passed : kernel.now ≤ after.now) :
    Still kernel after where
  toStands := stands_of_opened openings opened
  ticks := ticks_of_timers passed fun fd timer _ found => by
    rw [resource?, opened]
    exact found

/-- Another resource behind a descriptor that is the same to others. -/
theorem stands_setResource {resource : Resource}
    (same : ∀ opened, kernel.opened.get? fd = some opened →
      resource.role = opened.resource.role) :
    Stands kernel (kernel.setResource fd resource) := by
  refine ⟨rfl, fun other => ?_⟩
  rw [standing?, standing?, setResource, Table.get?_modify]
  split
  next here =>
      subst here
      cases found : kernel.opened.get? fd with
      | none => rfl
      | some opened =>
          simp only [Option.map_some, Opened.standing]
          rw [same opened found]
  next => rfl

theorem stands_mapValues {change : Descriptor → Opened → Opened}
    (same : ∀ fd opened, (change fd opened).standing = opened.standing) :
    Stands kernel { kernel with opened := kernel.opened.mapValues change } := by
  refine ⟨rfl, fun fd => ?_⟩
  rw [standing?, standing?, Table.get?_mapValues]
  cases kernel.opened.get? fd with
  | none => rfl
  | some opened => exact congrArg some (same fd opened)

theorem stands_wakeIf (kernel : Kernel) (fd : Descriptor) (concerns : Watch → Bool) :
    Stands kernel (kernel.wakeIf fd concerns) := by
  refine stands_mapValues fun other opened => ?_
  split
  next list found =>
      split
      next =>
          split
          · simp only [Opened.standing, found, Resource.role]
          · rfl
      next => rfl
  next => rfl

theorem still_wakeIf (kernel : Kernel) (fd : Descriptor) (concerns : Watch → Bool) :
    Still kernel (kernel.wakeIf fd concerns) :=
  ⟨stands_wakeIf kernel fd concerns, ticks_wakeIf kernel fd concerns⟩

/-- A kernel with other pipes in which a descriptor is woken where that concerns it. -/
theorem still_wakeIf_pipes (kernel : Kernel) (pipes : Table Nat Pipe) (fd : Descriptor)
    (concerns : Watch → Bool) :
    Still kernel ({ kernel with pipes }.wakeIf fd concerns) := by
  have piped : Still kernel { kernel with pipes } := still_of_opened rfl rfl (Nat.le_refl _)
  exact trans_of Still piped (still_wakeIf _ fd concerns)

theorem still_hangUp (kernel : Kernel) (resource : Resource) :
    Still kernel (kernel.hangUp resource) := by
  cases resource with
  | reader pipe =>
      simp only [hangUp]
      split
      · exact still_wakeIf_pipes kernel _ _ _
      · exact still_of_opened rfl rfl (Nat.le_refl _)
  | writer pipe =>
      simp only [hangUp]
      split
      · exact still_wakeIf_pipes kernel _ _ _
      · exact still_of_opened rfl rfl (Nat.le_refl _)
  | timer | file | readyList => exact refl_of Still kernel

/-! ## The clock -/

/-- Setting the state of a resource to another that is the same to others. -/
theorem stands_setResource_of_role {old : Resource} (new : Resource)
    (found : kernel.resource? fd = some old) (same : new.role = old.role) : Stands kernel (kernel.setResource fd new) := by
  refine stands_setResource fun opened at_fd => ?_
  rcases resource?_eq_some found with ⟨opened', found', rfl⟩
  rw [Option.some.inj (at_fd.symm.trans found'), same]

/-- Setting a timer after counting an alarm. -/
theorem stands_setTimer {old new : Timer} (found : kernel.resource? fd = some (.timer old)) :
    Stands kernel ({ kernel with alarms := kernel.alarms + 1 }.setResource fd (.timer new)) := by
  have counted : Stands kernel { kernel with alarms := kernel.alarms + 1 } :=
    stands_of_opened rfl rfl
  have timed : { kernel with alarms := kernel.alarms + 1 }.resource? fd = some (.timer old) :=
    found
  exact trans_of Stands counted (stands_setResource_of_role (.timer new) timed rfl)

theorem stands_goOff (kernel : Kernel) (fd : Descriptor) (alarm : Alarm) :
    Stands kernel (kernel.goOff fd alarm) := by
  unfold goOff
  split
  next timer found => exact trans_of Stands (stands_setTimer found) (stands_wakeIf _ fd _)
  next => exact refl_of Stands kernel

theorem still_fireAtMost (kernel : Kernel) (fuel : Nat) :
    Still kernel (kernel.fireAtMost fuel) := by
  refine ⟨?_, ticks_fireAtMost kernel fuel⟩
  induction fuel generalizing kernel with
  | zero => exact refl_of Stands kernel
  | succ fuel ih =>
      unfold fireAtMost
      split
      · split
        · exact trans_of Stands (stands_goOff kernel _ _) (ih _)
        · exact refl_of Stands kernel
      · exact refl_of Stands kernel

theorem still_moveTo (kernel : Kernel) (time : Nat) : Still kernel (kernel.moveTo time) :=
  still_of_opened rfl rfl (Nat.le_max_left _ _)

theorem still_fire_at (kernel : Kernel) (time : Nat) : Still kernel (kernel.moveTo time).fire :=
  trans_of Still (still_moveTo kernel time) (still_fireAtMost _ _)

theorem still_advance (kernel : Kernel) (nanos : Nat) : Still kernel (kernel.advance nanos) :=
  still_fire_at kernel _

/-! ## Calls -/

theorem still_meetFault (call : String) : Keeps Still (meetFault call) := by
  refine Keeps.get_bind fun kernel => ?_
  rcases strike call kernel.faults with ⟨struck, faults⟩
  refine Keeps.set_bind (still_of_opened rfl rfl (Nat.le_refl _)) ?_
  cases struck with
  | some errno => exact refl_of Still _
  | none => exact refl_of Still _

theorem still_meetTransferFault (call : String) (fd : Descriptor) :
    Keeps Still (meetTransferFault call fd) := by
  refine Keeps.get_bind fun kernel => ?_
  rcases kernel.resource? fd with _ | _ | _ | _ | _ | _
  case some.file => exact refl_of Still kernel
  all_goals exact still_meetFault call kernel

theorem still_readPipe (fd : Descriptor) (pipe length : Nat) :
    Keeps Still (readPipe fd pipe length) := by
  refine Keeps.get_bind fun kernel => ?_
  cases kernel.pipes.get? pipe with
  | none => exact refl_of Still kernel
  | some state =>
      cases kernel.opened.get? fd with
      | none => exact refl_of Still kernel
      | some opened =>
          dsimp only
          split
          · exact Keeps.ite (.pure []) (Keeps.ite (.throw _) (Keeps.ite (.pure []) (.throw _))) kernel
          · split
            · exact refl_of Still kernel
            · generalize (state.hasWriter && state.isFull) = frees, writerOf? _ pipe = writer
              rcases frees with _ | _ <;> rcases writer with _ | writer
              case true.some =>
                  exact Keeps.set_bind (still_wakeIf_pipes kernel _ _ _) (refl_of Still _)
              all_goals exact Keeps.set_bind (still_of_opened rfl rfl (Nat.le_refl _)) (refl_of Still _)

theorem still_read (fd : Descriptor) (length : Nat) : Keeps Still (read fd length) := by
  refine (still_meetTransferFault _ fd).bind fun _ => Keeps.get_bind fun kernel => ?_
  cases found : kernel.resource? fd with
  | none => exact refl_of Still kernel
  | some resource =>
      cases resource with
      | reader pipe => exact still_readPipe fd pipe length kernel
      | timer timer =>
          dsimp only
          split
          · exact refl_of Still kernel
          · split
            · exact refl_of Still kernel
            · refine Keeps.set_bind ?_ (refl_of Still _)
              exact ⟨stands_setResource_of_role _ found rfl,
                ticks_setTimer found (Timer.goesOn_read _ timer)⟩
      | file rest =>
          refine Keeps.set_bind ?_ (refl_of Still _)
          exact ⟨stands_setResource_of_role _ found rfl,
            ticks_setResource (by rw [found]; nofun)⟩
      | writer | readyList => exact refl_of Still kernel

theorem still_writePipe (fd : Descriptor) (pipe : Nat) (bytes : Bytes) :
    Keeps Still (writePipe fd pipe bytes) := by
  refine Keeps.get_bind fun kernel => ?_
  cases kernel.pipes.get? pipe with
  | none => exact refl_of Still kernel
  | some state =>
      cases kernel.opened.get? fd with
      | none => exact refl_of Still kernel
      | some opened =>
          dsimp only
          split
          · exact refl_of Still kernel
          · split
            · exact refl_of Still kernel
            · split
              · exact refl_of Still kernel
              · split
                · exact refl_of Still kernel
                · generalize readerOf? _ pipe = reader
                  cases reader with
                  | some reader =>
                      exact Keeps.set_bind (still_wakeIf_pipes kernel _ _ _) (refl_of Still _)
                  | none => exact Keeps.set_bind (still_of_opened rfl rfl (Nat.le_refl _)) (refl_of Still _)

theorem still_write (fd : Descriptor) (bytes : Bytes) : Keeps Still (write fd bytes) := by
  refine (still_meetTransferFault _ fd).bind fun _ => Keeps.get_bind fun kernel => ?_
  rcases kernel.resource? fd with _ | _ | pipe | _ | _ | _
  case some.writer => exact still_writePipe fd pipe bytes kernel
  all_goals exact refl_of Still kernel

theorem still_isNonblocking (fd : Descriptor) : Keeps Still (isNonblocking fd) := by
  refine (still_meetFault _).bind fun _ => Keeps.get_bind fun kernel => ?_
  cases kernel.opened.get? fd with
  | some opened => exact refl_of Still kernel
  | none => exact refl_of Still kernel

/-- A kernel with other modes of its descriptors. -/
theorem still_modify {change : Opened → Opened}
    (standing : ∀ opened, (change opened).standing = opened.standing)
    (resource : ∀ opened, (change opened).resource = opened.resource) :
    Still kernel { kernel with opened := kernel.opened.modify fd change } := by
  constructor
  case toStands =>
      refine ⟨rfl, fun other => ?_⟩
      rw [standing?, standing?, Table.get?_modify]
      split
      · rw [Option.map_map]
        exact congrFun (congrArg Option.map (funext standing)) _
      · rfl
  case ticks =>
      refine ticks_of_timers (Nat.le_refl _) fun other timer _ found => ?_
      rw [resource?, Table.get?_modify, ← found]
      split
      · rw [Option.map_map]
        exact congrFun (congrArg Option.map (funext resource)) _
      · rfl

theorem still_setNonblocking (fd : Descriptor) : Keeps Still (setNonblocking fd) := by
  refine (still_meetFault _).bind fun _ => Keeps.get_bind fun kernel => ?_
  split
  · exact still_modify (fun _ => rfl) fun _ => rfl
  · exact refl_of Still kernel

/-! ## Arming -/

/-- A timer has been armed. -/
structure Arms (fd : Descriptor) (delay interval : Span) (before after : Kernel) : Prop where
  stands : Stands before after
  now : after.now = before.now
  ticks : Ticks (fun other => other = fd) before after
  armed : ∃ timer, after.resource? fd = some (.timer timer) ∧
    (∀ alarm, timer.alarm = some alarm → alarm.expiry = before.now + delay.toNanos) ∧
    timer.interval = interval.toNanos ∧ timer.count = 0

theorem meetFault_now (call : String) (kernel : Kernel) :
    (meetFault call kernel).2.now = kernel.now := by
  unfold meetFault
  rw [get_bind_eq]
  rcases strike call kernel.faults with ⟨_ | errno, faults⟩ <;> rfl

/-- A timer as it is when it has just been armed. -/
def armedWith (kernel : Kernel) (delay interval : Span) : Timer :=
  ⟨if delay.toNanos = 0 then none else some ⟨kernel.now + delay.toNanos, kernel.alarms⟩,
    interval.toNanos, 0⟩

theorem arms_setResource {timer : Timer} (found : kernel.resource? fd = some (.timer timer))
    (delay interval : Span) :
    Arms fd delay interval kernel ({ kernel with alarms := kernel.alarms + 1 }.setResource fd
      (.timer (kernel.armedWith delay interval))) where
  stands := stands_setTimer found
  now := rfl
  ticks := ticks_of_timers (Nat.le_refl _) fun other state different found' => by
    rw [resource?_setResource, if_neg fun same => different same.symm]
    exact found'
  armed := by
    have timed : { kernel with alarms := kernel.alarms + 1 }.resource? fd = some (.timer timer) :=
      found
    refine ⟨kernel.armedWith delay interval, ?_, fun alarm armed => ?_, rfl, rfl⟩
    · rw [resource?_setResource, if_pos rfl, timed]
      rfl
    · unfold armedWith at armed
      dsimp only at armed
      split at armed
      · cases armed
      · exact (congrArg Alarm.expiry (Option.some.inj armed)).symm

/-- A timer is armed, or the call fails and has done nothing. -/
theorem setTimer_outcome (fd : Descriptor) (delay interval : Span) (kernel : Kernel) :
    (∃ errno after, setTimer fd delay interval kernel = (.error errno, after) ∧
      Still kernel after) ∨
    ∃ after, setTimer fd delay interval kernel = (.ok (), after) ∧
      Arms fd delay interval kernel after := by
  have met := still_meetFault "timerfd_settime" kernel
  have now := meetFault_now "timerfd_settime" kernel
  unfold setTimer
  rcases struck : meetFault "timerfd_settime" kernel with ⟨errno | _, middle⟩
  · rw [struck] at met
    exact .inl ⟨errno, middle, bind_of_error struck, met⟩
  · rw [struck] at met now
    rw [bind_of_ok struck]
    dsimp only at met now
    split
    · exact .inl ⟨_, middle, rfl, met⟩
    · dsimp only
      rw [get_bind_eq]
      cases found : middle.resource? fd with
      | none => exact .inl ⟨_, middle, rfl, met⟩
      | some resource =>
          cases resource with
          | timer timer =>
              rcases arms_setResource found delay interval with ⟨stands, now', ticks, armed⟩
              refine .inr ⟨_, rfl, trans_of Stands met.toStands stands, now'.trans now,
                met.ticks.beside.andThen ticks fun _ same => .inl same, ?_⟩
              rw [← now]
              exact armed
          | reader | writer | file | readyList => exact .inl ⟨_, middle, rfl, met⟩

/-! ## Calls under the name of their system call -/

theorem named_world (syscall : String) (call : KernelCall α) (kernel : Kernel) :
    (named syscall call kernel).2 = (call kernel).2 := by
  unfold named
  split
  next ended => rw [ended]
  next ended => rw [ended]

theorem keeps_named {R : Kernel → Kernel → Prop} {call : KernelCall α} (syscall : String)
    (keeps : Keeps R call) : Keeps R (named syscall call) := by
  intro kernel
  rw [named_world]
  exact keeps kernel

theorem still_gather {read : Kernel → Except Int Bytes × Kernel} (reads : Keeps Still read)
    (fuel : Nat) (pieces : List Bytes) : Keeps Still (Streams.gather read fuel pieces) := by
  induction fuel generalizing pieces with
  | zero => exact fun kernel => refl_of Still kernel
  | succ fuel ih =>
      intro kernel
      have once := reads kernel
      unfold Streams.gather
      split
      next ended => rw [ended] at once; exact once
      next ended => rw [ended] at once; exact trans_of Still once (ih _ _)
      next ended =>
          rw [ended] at once
          split
          · exact trans_of Still once (ih _ _)
          · exact once

theorem still_readToEnd (fd : Descriptor) (chunk : Nat) :
    Keeps Still (Streams.readToEnd fd chunk) :=
  keeps_named _ fun kernel => still_gather (still_read fd _) _ _ kernel

theorem still_makeNonblocking (fd : Descriptor) : Keeps Still (Streams.setNonblocking fd) :=
  (keeps_named _ (still_isNonblocking fd)).bind fun _ => keeps_named _ (still_setNonblocking fd)

/-! ## Waiting -/

variable {list : Descriptor}

theorem readyList?_eq_some {state : ReadyList} (found : kernel.readyList? list = some state) :
    kernel.resource? list = some (.readyList state) := by
  unfold readyList? at found
  split at found
  next same => rw [← Option.some.inj found, same]
  next => cases found

/-- Another queue for a readiness list. -/
theorem still_requeue {state : ReadyList} (found : kernel.readyList? list = some state)
    (queue : List Descriptor) :
    Still kernel (kernel.setResource list (.readyList { state with queue })) := by
  refine ⟨stands_setResource fun opened at_list => ?_, ticks_setResource ?_⟩
  · rcases resource?_eq_some (readyList?_eq_some found) with ⟨opened', found', same⟩
    rw [Option.some.inj (at_list.symm.trans found'), same]
    rfl
  · rw [readyList?_eq_some found]
    nofun

theorem still_queueIfReady (kernel : Kernel) (list fd : Descriptor) :
    Still kernel (kernel.queueIfReady list fd) := by
  unfold queueIfReady
  split
  next state found =>
      split
      · split
        · exact still_requeue found _
        · exact refl_of Still kernel
      · exact refl_of Still kernel
  next => exact refl_of Still kernel

theorem still_collect (kernel : Kernel) (list : Descriptor) (room : Nat) :
    Still kernel (kernel.collect list room).2 := by
  unfold collect
  split
  next state found => exact still_requeue found _
  next => exact refl_of Still kernel

theorem still_collectBy (list : Descriptor) (room : Nat) (deadline : Option Nat) (jumps : Nat) :
    Keeps Still (collectBy list room deadline jumps) := by
  induction jumps generalizing deadline with
  | zero => exact .throw _
  | succ jumps ih =>
      refine Keeps.get_bind fun kernel => ?_
      have collected := still_collect kernel list room
      generalize kernel.collect list room = found at collected ⊢
      rcases found with ⟨events, after⟩
      refine Keeps.set_bind collected ?_
      split
      · exact refl_of Still after
      · rcases after.nextAlarm? with _ | ⟨armed, alarm⟩ <;> cases deadline
        case none.none => exact refl_of Still after
        case none.some deadline =>
            exact Keeps.set_bind (still_moveTo after deadline) (refl_of Still _)
        case some.none => exact Keeps.set_bind (still_fire_at after _) (ih _ _)
        case some.some deadline =>
            dsimp only
            split
            · exact Keeps.set_bind (still_fire_at after _) (ih _ _)
            · exact Keeps.set_bind (still_moveTo after deadline) (refl_of Still _)

theorem still_wait (list : Descriptor) (room : Nat) (timeout : Option Nat) :
    Keeps Still (wait list room timeout) := by
  refine (still_meetFault _).bind fun _ => Keeps.get_bind fun kernel => ?_
  refine Keeps.set_bind (still_of_opened rfl rfl (Nat.le_refl _)) ?_
  cases kernel.waitLimit with
  | none => exact still_collectBy list room _ _ _
  | some limit =>
      have go := still_collectBy list room
      exact Keeps.ite (.throw _) (go _ _) _

end Kernel

end ScriptHost
