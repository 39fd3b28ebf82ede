import ScriptHost.Proofs.Kernel.Clocks
import ScriptHost.Proofs.Kernel.Watching

/-!
# Calls beside a queue

Making, arming, watching, reading, forgetting and closing a timer concern the
descriptor of that timer alone.  Whoever else is queued in a readiness list keeps its
place there, whoever else is armed stays so, and no other fault is planned.
-/

namespace ScriptHost.Kernel

variable {kernel middle after : Kernel} {list fd other : Descriptor}

/-- The descriptors that are queued in a readiness list. -/
def queueOf (kernel : Kernel) (list : Descriptor) : List Descriptor :=
  ((kernel.readyList? list).map ReadyList.queue).getD []

/-- What lies between two kernels concerns one descriptor: the clock, the timers of others, what
a list watches others for, and the order in which others are queued are as they were. -/
structure Aside (list fd : Descriptor) (before after : Kernel) : Prop
    extends Freezes fd before after where
  alarms : before.alarms ≤ after.alarms
  armed : ∀ other, fd ≠ other → after.alarm? other = before.alarm? other
  watching : ∀ other, fd ≠ other → after.watch? list other = before.watch? list other
  queue : (after.queueOf list).filter (· ≠ fd) = (before.queueOf list).filter (· ≠ fd)
  opened : (∀ other ∈ before.queueOf list, before.opening? other ≠ none) →
    ∀ other ∈ after.queueOf list, after.opening? other ≠ none
  faults : before.faults = [] → after.faults = []
  limit : after.waitLimit = before.waitLimit

instance : IsPreorder Kernel (Aside list fd) where
  refl kernel :=
    ⟨refl_of (Freezes fd) kernel, Nat.le_refl _, fun _ _ => rfl, fun _ _ => rfl, rfl, id, id, rfl⟩
  trans _ _ _ first second :=
    { toFreezes := trans_of (Freezes fd) first.toFreezes second.toFreezes
      alarms := Nat.le_trans first.alarms second.alarms
      armed := fun other different => (second.armed other different).trans (first.armed other different)
      watching := fun other different =>
        (second.watching other different).trans (first.watching other different)
      queue := second.queue.trans first.queue
      opened := fun opened => second.opened (first.opened opened)
      faults := fun none => second.faults (first.faults none)
      limit := second.limit.trans first.limit }

/-- Another descriptor is queued as it was. -/
theorem Aside.mem_queueOf (aside : Aside list fd kernel after) (different : fd ≠ other) :
    other ∈ after.queueOf list ↔ other ∈ kernel.queueOf list := by
  have mem {queue : List Descriptor} : other ∈ queue ↔ other ∈ queue.filter (· ≠ fd) := by
    simp [different.symm]
  rw [mem, aside.queue, ← mem]

/-! ## What a kernel is made of -/

theorem resource?_congr (same : after.opened.get? fd = kernel.opened.get? fd) :
    after.resource? fd = kernel.resource? fd := by
  rw [resource?, resource?, same]

theorem readyList?_congr (same : after.resource? list = kernel.resource? list) :
    after.readyList? list = kernel.readyList? list := by
  rw [readyList?, readyList?, same]

theorem alarm?_congr (same : after.resource? fd = kernel.resource? fd) :
    after.alarm? fd = kernel.alarm? fd := by
  rw [alarm?, alarm?, same]

theorem queueOf_of_readyList {state : ReadyList} (found : kernel.readyList? list = some state) :
    kernel.queueOf list = state.queue := by
  rw [queueOf, found]
  rfl

theorem queueOf_of_none (gone : kernel.readyList? list = none) : kernel.queueOf list = [] := by
  rw [queueOf, gone]
  rfl

/-- What a list watches, as its registrations say. -/
theorem watch?_congr_list (same : after.readyList? list = kernel.readyList? list)
    (fd : Descriptor) : after.watch? list fd = kernel.watch? list fd := by
  rw [watch?, watch?, same]

theorem alarm?_of_timer {timer : Timer} (timed : kernel.resource? fd = some (.timer timer)) :
    kernel.alarm? fd = timer.alarm := by
  rw [alarm?, timed]

theorem alarm?_of_readyList {state : ReadyList} (found : kernel.readyList? fd = some state) :
    kernel.alarm? fd = none := by
  rw [alarm?, readyList?_eq_some found]

theorem resource?_of_free (free : kernel.opening? fd = none) : kernel.resource? fd = none := by
  rw [opening?, Option.map_eq_none_iff] at free
  rw [resource?, free]
  rfl

theorem opening?_of_resource {resource : Resource} (found : kernel.resource? fd = some resource) :
    kernel.opening? fd ≠ none := fun free => by
  rw [resource?_of_free free] at found
  cases found

/-! ## One descriptor -/

/-- What happens to one descriptor, which is not the list. -/
theorem aside_of_others (away : fd ≠ list) (now : after.now = kernel.now)
    (alarms : kernel.alarms ≤ after.alarms) (faults : kernel.faults = [] → after.faults = [])
    (limit : after.waitLimit = kernel.waitLimit)
    (others : ∀ other, fd ≠ other → after.opened.get? other = kernel.opened.get? other)
    (stays : kernel.opening? fd ≠ none → after.opening? fd ≠ none) : Aside list fd kernel after := by
  have resource {other : Descriptor} (different : fd ≠ other) :
      after.resource? other = kernel.resource? other := resource?_congr (others other different)
  have listed := readyList?_congr (resource away)
  have queue : after.queueOf list = kernel.queueOf list := by rw [queueOf, queueOf, listed]
  refine
    { now, alarms, faults, limit
      timers := fun other timer different found => (resource different).trans found
      armed := fun other different => alarm?_congr (resource different)
      watching := fun other _ => watch?_congr_list listed other
      queue := by rw [queue]
      opened := fun opened other member => ?_ }
  rw [queue] at member
  by_cases same : fd = other
  · subst same
    exact stays (opened fd member)
  · rw [opening?, others other same]
    exact opened other member

theorem aside_meetFault (call : String) (away : fd ≠ list) :
    Keeps (Aside list fd) (meetFault call) := by
  refine Keeps.get_bind fun kernel => ?_
  rcases struck : strike call kernel.faults with ⟨fault, faults⟩
  refine Keeps.set_bind ?_ ?_
  · refine aside_of_others away rfl (Nat.le_refl _) (fun none => ?_) rfl (fun _ _ => rfl) id
    rw [none] at struck
    cases struck
    rfl
  · cases fault with
    | some errno => exact refl_of (Aside list fd) _
    | none => exact refl_of (Aside list fd) _

theorem meetFault_opened (call : String) (kernel : Kernel) :
    (meetFault call kernel).2.opened = kernel.opened := by
  unfold meetFault
  rw [get_bind_eq]
  rcases strike call kernel.faults with ⟨_ | errno, faults⟩ <;> rfl

theorem meetFault_alarms (call : String) (kernel : Kernel) :
    (meetFault call kernel).2.alarms = kernel.alarms := by
  unfold meetFault
  rw [get_bind_eq]
  rcases strike call kernel.faults with ⟨_ | errno, faults⟩ <;> rfl

theorem queueOf_of_opened (same : after.opened = kernel.opened) (list : Descriptor) :
    after.queueOf list = kernel.queueOf list := by
  have resource : after.resource? list = kernel.resource? list := resource?_congr (by rw [same])
  rw [queueOf, queueOf, readyList?_congr resource]

theorem aside_openResource {resource : Resource} {nonblocking : Bool} (away : fd ≠ list)
    (made : kernel.openResource resource nonblocking = (some fd, after)) :
    Aside list fd kernel after := by
  unfold openResource at made
  split at made
  next =>
      cases made
      refine aside_of_others away rfl (Nat.le_refl _) id rfl (fun other different => ?_) fun _ => ?_
      · exact (Table.get?_insert _ _ _ _).trans (if_neg different)
      · rw [opening?, Table.get?_insert, if_pos rfl]
        exact Option.some_ne_none _
  next => cases made

/-- Setting what is behind the descriptor, after an alarm has been counted or not. -/
theorem aside_setResource (kernel : Kernel) (resource : Resource) (counted : Nat) (away : fd ≠ list) :
    Aside list fd kernel ({ kernel with alarms := kernel.alarms + counted }.setResource fd resource) := by
  refine aside_of_others away rfl (Nat.le_add_right _ _) id rfl (fun other different => ?_) ?_
  · rw [setResource, Table.get?_modify, if_neg different]
  · rw [opening?_setResource]
    exact id

theorem resource?_setTimer {timer : Timer} (timed : kernel.resource? fd = some (.timer timer))
    (later : Timer) (fd' : Descriptor) :
    ({ kernel with alarms := kernel.alarms + 1 }.setResource fd (.timer later)).resource? fd' =
      if fd = fd' then some (.timer later) else kernel.resource? fd' := by
  rw [resource?_setResource]
  split
  next same =>
      subst same
      exact congrArg (Option.map fun _ => Resource.timer later) timed
  next => rfl

theorem queueOf_setTimer {timer : Timer} (timed : kernel.resource? fd = some (.timer timer))
    (later : Timer) (list : Descriptor) :
    ({ kernel with alarms := kernel.alarms + 1 }.setResource fd (.timer later)).queueOf list =
      kernel.queueOf list := by
  rw [queueOf, queueOf, readyList?, readyList?, resource?_setTimer timed]
  by_cases same : fd = list
  · subst same
    rw [if_pos rfl, timed]
  · rw [if_neg same]

/-- Arming a timer fails, if only because a fault was met, or it is armed at once. -/
theorem setTimer_cases (fd : Descriptor) (delay interval : Span) (kernel : Kernel) :
    (∃ errno, setTimer fd delay interval kernel =
        (.error errno, (meetFault "timerfd_settime" kernel).2)) ∨
    ∃ timer, (meetFault "timerfd_settime" kernel).2.resource? fd = some (.timer timer) ∧
      setTimer fd delay interval kernel =
        (.ok (), { (meetFault "timerfd_settime" kernel).2 with
            alarms := (meetFault "timerfd_settime" kernel).2.alarms + 1 }.setResource fd
          (.timer ((meetFault "timerfd_settime" kernel).2.armedWith delay interval))) := by
  unfold setTimer
  rcases struck : meetFault "timerfd_settime" kernel with ⟨errno | _, middle⟩
  · exact .inl ⟨errno, bind_of_error struck⟩
  · rw [bind_of_ok struck]
    split
    · exact .inl ⟨_, rfl⟩
    · dsimp only
      rw [get_bind_eq]
      rcases found : middle.resource? fd with _ | resource
      · exact .inl ⟨_, rfl⟩
      · cases resource with
        | timer timer => exact .inr ⟨timer, rfl, rfl⟩
        | reader | writer | file | readyList => exact .inl ⟨_, rfl⟩

theorem aside_setTimer (delay interval : Span) (away : fd ≠ list) :
    Keeps (Aside list fd) (setTimer fd delay interval) := by
  intro kernel
  have met := aside_meetFault "timerfd_settime" away kernel
  rcases setTimer_cases fd delay interval kernel with ⟨errno, ended⟩ | ⟨timer, -, ended⟩
  · rw [ended]
    exact met
  · rw [ended]
    exact trans_of (Aside list fd) met (aside_setResource _ _ 1 away)

/-- A timer that has been armed. -/
theorem setTimer_of_ok {delay interval : Span}
    (ended : setTimer fd delay interval kernel = (.ok (), after)) :
    after.resource? fd = some (.timer (kernel.armedWith delay interval)) ∧
      after.alarms = kernel.alarms + 1 ∧ after.queueOf list = kernel.queueOf list := by
  rcases setTimer_cases fd delay interval kernel with ⟨errno, failed⟩ | ⟨timer, timed, armed⟩
  · cases failed.symm.trans ended
  · cases armed.symm.trans ended
    refine ⟨?_, congrArg Nat.succ (meetFault_alarms _ kernel), ?_⟩
    · rw [resource?_setTimer timed, if_pos rfl, armedWith, armedWith, meetFault_now, meetFault_alarms]
    · rw [queueOf_setTimer timed, queueOf_of_opened (meetFault_opened _ kernel)]

/-- Reading from a timer. -/
theorem aside_read {timer : Timer} (timed : kernel.resource? fd = some (.timer timer))
    (length : Nat) (away : fd ≠ list) : Aside list fd kernel (read fd length kernel).2 := by
  have met : meetTransferFault "read" fd kernel = meetFault "read" kernel := by
    unfold meetTransferFault
    rw [get_bind_eq, timed]
  have first : Aside list fd kernel (meetTransferFault "read" fd kernel).2 := by
    rw [met]
    exact aside_meetFault "read" away kernel
  unfold read
  refine Keeps.bind_from first fun _ middle ended => ?_
  have same : middle.opened = kernel.opened := by
    rw [← meetFault_opened "read" kernel, ← met, ended]
  have timed' : middle.resource? fd = some (.timer timer) := by
    rw [← timed]
    exact resource?_congr (by rw [same])
  rw [get_bind_eq, timed']
  dsimp only
  split
  · exact refl_of (Aside list fd) middle
  · split
    · exact refl_of (Aside list fd) middle
    · exact Keeps.set_bind (aside_setResource middle _ 0 away) (refl_of (Aside list fd) _)

/-! ## Registrations -/

theorem readyList?_setResource {state : ReadyList} (found : kernel.readyList? list = some state)
    (later : ReadyList) :
    (kernel.setResource list (.readyList later)).readyList? list = some later := by
  rw [readyList?, resource?_setResource, if_pos rfl, readyList?_eq_some found]
  rfl

/-- The list changes for the descriptor alone. -/
theorem aside_setList {state later : ReadyList} (away : fd ≠ list)
    (found : kernel.readyList? list = some state)
    (watches : ∀ other, fd ≠ other → later.watches.get? other = state.watches.get? other)
    (queue : later.queue.filter (· ≠ fd) = state.queue.filter (· ≠ fd))
    (opened : fd ∈ later.queue → fd ∈ state.queue ∨ kernel.opening? fd ≠ none) :
    Aside list fd kernel (kernel.setResource list (.readyList later)) := by
  have listed := readyList?_setResource found later
  refine
    { toFreezes := freezes_setList found _
      alarms := Nat.le_refl _
      armed := fun other _ => ?_
      watching := fun other different => ?_
      queue := ?_
      opened := fun opened' other member => ?_
      faults := id
      limit := rfl }
  · by_cases same : list = other
    · subst same
      rw [alarm?_of_readyList listed, alarm?_of_readyList found]
    · exact alarm?_congr ((resource?_setResource _ _ _ _).trans (if_neg same))
  · rw [watch?_of_readyList listed, watch?_of_readyList found]
    exact watches other different
  · rw [queueOf_of_readyList listed, queueOf_of_readyList found]
    exact queue
  · rw [queueOf_of_readyList listed] at member
    rw [queueOf_of_readyList found] at opened'
    rw [opening?_setResource]
    by_cases same : other = fd
    · subst same
      rcases opened member with queued | there
      · exact opened' other queued
      · exact there
    · have kept : other ∈ later.queue.filter (· ≠ fd) := List.mem_filter.mpr ⟨member, by simpa using same⟩
      rw [queue] at kept
      exact opened' other (List.mem_filter.mp kept).1

theorem mem_enqueue {queue : List Descriptor} :
    other ∈ enqueue queue fd ↔ other ∈ queue ∨ other = fd := by
  unfold enqueue
  split
  next present =>
      refine ⟨.inl, fun cases => cases.elim id ?_⟩
      rintro rfl
      exact List.contains_iff_mem.mp present
  next => rw [List.mem_append, List.mem_singleton]

theorem enqueue_of_mem {queue : List Descriptor} (member : fd ∈ queue) :
    enqueue queue fd = queue :=
  if_pos (List.contains_iff_mem.mpr member)

theorem enqueue_of_not_mem {queue : List Descriptor} (absent : fd ∉ queue) :
    enqueue queue fd = queue ++ [fd] :=
  if_neg fun present => absent (List.contains_iff_mem.mp present)

theorem filter_enqueue (queue : List Descriptor) (fd : Descriptor) :
    (enqueue queue fd).filter (· ≠ fd) = queue.filter (· ≠ fd) := by
  by_cases member : fd ∈ queue
  · rw [enqueue_of_mem member]
  · rw [enqueue_of_not_mem member, List.filter_append]
    simp

theorem aside_queueIfReady (kernel : Kernel) (away : fd ≠ list) :
    Aside list fd kernel (kernel.queueIfReady list fd) := by
  unfold queueIfReady
  split
  next state found =>
      split
      next watch _ =>
          split
          next heard =>
              refine aside_setList away found (fun _ _ => rfl) (filter_enqueue _ _) fun _ => .inr ?_
              intro free
              apply heard
              rw [Kernel.heard, readiness, resource?_of_free free]
              exact UInt8.zero_and
          next => exact refl_of (Aside list fd) kernel
      next => exact refl_of (Aside list fd) kernel
  next => exact refl_of (Aside list fd) kernel

/-- What is not ready is not queued. -/
theorem queueIfReady_of_unready (unready : kernel.readiness fd = .nothing) :
    kernel.queueIfReady list fd = kernel := by
  have unheard (watch : Watch) : (kernel.heard fd watch).bits = 0 := by
    rw [Kernel.heard, unready]
    exact UInt8.zero_and
  unfold queueIfReady
  split
  · split
    · rw [if_neg (not_not_intro (unheard _))]
    · rfl
  · rfl

theorem aside_registrations (away : fd ≠ list) : Keeps (Aside list fd) (registrations list fd) := by
  refine (aside_meetFault _ away).bind fun _ => Keeps.get_bind fun kernel => ?_
  rcases kernel.resource? fd with _ | _ | _ | _ | _ | _ <;>
    cases kernel.readyList? list <;> exact refl_of (Aside list fd) kernel

theorem aside_watch (token : UInt64) (interest : Interest) (away : fd ≠ list) :
    Keeps (Aside list fd) (watch list fd token interest) := by
  intro kernel
  refine Keeps.bind_from (aside_registrations away kernel) fun state middle ended => ?_
  split
  · exact refl_of (Aside list fd) middle
  · refine trans_of (Aside list fd) ?_ (aside_queueIfReady _ away)
    refine aside_setList away (registrations_of_ok ended).1 (fun other different => ?_) rfl .inl
    exact (Table.get?_insert _ _ _ _).trans (if_neg different)

theorem aside_forget (away : fd ≠ list) : Keeps (Aside list fd) (forget list fd) := by
  intro kernel
  refine Keeps.bind_from (aside_registrations away kernel) fun state middle ended => ?_
  split
  · exact refl_of (Aside list fd) middle
  · refine aside_setList away (registrations_of_ok ended).1 (fun other different => ?_) ?_ ?_
    · exact (Table.get?_erase _ _ _).trans (if_neg different)
    · rw [List.filter_filter]
      simp
    · exact fun member => .inl (List.mem_filter.mp member).1

/-! ## A new timer -/

/-- Making a timer fails, if only because a fault was met, or a descriptor is opened for it. -/
theorem createTimer_cases (kernel : Kernel) :
    (∃ errno, createTimer kernel = (.error errno, (meetFault "timerfd_create" kernel).2)) ∨
    ∃ fd after, (meetFault "timerfd_create" kernel).2.openResource (.timer ⟨none, 0, 0⟩) true =
        (some fd, after) ∧ createTimer kernel = (.ok fd, after) := by
  unfold createTimer
  rcases struck : meetFault "timerfd_create" kernel with ⟨errno | _, middle⟩
  · exact .inl ⟨errno, bind_of_error struck⟩
  · rw [bind_of_ok struck, get_bind_eq]
    rcases made : middle.openResource (.timer ⟨none, 0, 0⟩) true with ⟨_ | fd, after⟩
    · exact .inl ⟨_, rfl⟩
    · exact .inr ⟨fd, after, rfl, rfl⟩

theorem aside_createTimer (made : createTimer kernel = (.ok fd, after)) (away : fd ≠ list) :
    Aside list fd kernel after := by
  rcases createTimer_cases kernel with ⟨errno, failed⟩ | ⟨other, middle, opened, ended⟩
  · cases failed.symm.trans made
  · cases ended.symm.trans made
    exact trans_of (Aside list fd) (aside_meetFault _ away kernel) (aside_openResource away opened)

theorem resource?_openResource {resource : Resource} {nonblocking : Bool}
    (made : kernel.openResource resource nonblocking = (some fd, after)) :
    after.resource? fd = some resource := by
  unfold openResource at made
  split at made
  · cases made
    rw [resource?, Table.get?_insert, if_pos rfl]
    rfl
  · cases made

/-- What has just been made is a timer that is not armed. -/
theorem resource?_createTimer (made : createTimer kernel = (.ok fd, after)) :
    after.resource? fd = some (.timer ⟨none, 0, 0⟩) := by
  rcases create_of_ok made with ⟨middle, _, _, opened⟩
  exact resource?_openResource opened

/-- Nothing is queued in a new readiness list. -/
theorem queueOf_createReadyList (made : createReadyList kernel = (.ok fd, after)) :
    after.queueOf fd = [] := by
  rcases create_of_ok made with ⟨middle, _, _, opened⟩
  rw [queueOf, readyList?, resource?_openResource opened]
  rfl

theorem queueOf_createTimer (made : createTimer kernel = (.ok fd, after)) (away : fd ≠ list) :
    after.queueOf list = kernel.queueOf list := by
  rcases createTimer_cases kernel with ⟨errno, failed⟩ | ⟨other, middle, opened, ended⟩
  · cases failed.symm.trans made
  · cases ended.symm.trans made
    rw [← queueOf_of_opened (meetFault_opened "timerfd_create" kernel)]
    unfold openResource at opened
    split at opened
    · cases opened
      rw [queueOf, queueOf, readyList?_congr (resource?_congr ?_)]
      exact (Table.get?_insert _ _ _ _).trans (if_neg away)
    · cases opened

/-- Registering a descriptor that is not ready leaves the queue as it is. -/
theorem watch_of_ok {token : UInt64} {interest : Interest}
    (ended : watch list fd token interest kernel = (.ok (), after)) :
    ∃ state, (meetFault "epoll_ctl" kernel).2.readyList? list = some state ∧
      after = ((meetFault "epoll_ctl" kernel).2.setResource list (.readyList { state with
        watches := state.watches.insert fd ⟨token, interest.requested⟩ })).queueIfReady list fd := by
  unfold watch at ended
  rcases bind_eq_ok_iff.mp ended with ⟨state, middle, checked, ended⟩
  have met := registrations_world list fd kernel
  rw [checked] at met
  subst met
  refine ⟨state, (registrations_of_ok checked).1, ?_⟩
  split at ended
  · cases ended
  · cases ended
    rfl

/-- Registering a timer from which nothing can be read. -/
theorem watch_of_unready {timer : Timer} {token : UInt64} {interest : Interest}
    (timed : kernel.resource? fd = some (.timer timer)) (unread : timer.count = 0)
    (away : fd ≠ list) (ended : watch list fd token interest kernel = (.ok (), after)) :
    after.queueOf list = kernel.queueOf list ∧
      after.resource? fd = some (.timer timer) ∧ after.alarms = kernel.alarms := by
  rcases watch_of_ok ended with ⟨state, found, rfl⟩
  have same := meetFault_opened "epoll_ctl" kernel
  have set : ((meetFault "epoll_ctl" kernel).2.setResource list (.readyList { state with
      watches := state.watches.insert fd ⟨token, interest.requested⟩ })).resource? fd =
        some (.timer timer) := by
    rw [resource?_setResource, if_neg away.symm, ← timed]
    exact resource?_congr (by rw [same])
  have unready : ((meetFault "epoll_ctl" kernel).2.setResource list (.readyList { state with
      watches := state.watches.insert fd ⟨token, interest.requested⟩ })).readiness fd = .nothing := by
    simp only [readiness, set, unread]
    rfl
  rw [queueIfReady_of_unready unready]
  refine ⟨?_, set, meetFault_alarms _ kernel⟩
  rw [queueOf_of_readyList (readyList?_setResource found _), ← queueOf_of_opened same,
    queueOf_of_readyList found]

/-- A timer that has been made, armed and registered is armed later than all others, and is not
queued. -/
theorem joins_of_calls {delay interval : Span} {token : UInt64} {created armed : Kernel}
    (away : fd ≠ list) (some_delay : delay.toNanos ≠ 0)
    (made : createTimer kernel = (.ok fd, created))
    (set : setTimer fd delay interval created = (.ok (), armed))
    (watched : watch list fd token .readable armed = (.ok (), after)) :
    Aside list fd kernel after ∧
      after.watch? list fd = some ⟨token, Interest.readable.requested⟩ ∧
      after.queueOf list = kernel.queueOf list ∧
      ∃ serial, kernel.alarms ≤ serial ∧ serial < after.alarms ∧
        after.resource? fd =
          some (.timer ⟨some ⟨kernel.now + delay.toNanos, serial⟩, interval.toNanos, 0⟩) := by
  have first := aside_createTimer made away
  have second : Aside list fd created armed := by
    have keeps := aside_setTimer delay interval away created
    rw [set] at keeps
    exact keeps
  have third : Aside list fd armed after := by
    have keeps := aside_watch token .readable away armed
    rw [watched] at keeps
    exact keeps
  refine ⟨trans_of (Aside list fd) first (trans_of (Aside list fd) second third), ?_⟩
  rcases setTimer_of_ok set with ⟨timed, counted, queued⟩
  rcases watch_of_unready timed rfl away watched with ⟨queued', timed', counted'⟩
  rw [queued', queued, queueOf_createTimer made away]
  refine ⟨?_, rfl, created.alarms, first.alarms, ?_, ?_⟩
  · have registers := registers_watch list fd token .readable armed
    rw [watched] at registers
    cases registers with
    | accepted _ _ sets => rw [sets.watch? fd, if_pos rfl]
  · rw [counted', counted]
    exact Nat.lt_succ_self _
  · rw [timed', ← first.now]
    simp only [armedWith, if_neg some_delay]

/-! ## Closing -/

theorem resource?_unwatch (kernel : Kernel) (fd other : Descriptor) :
    (kernel.unwatch fd).resource? other =
      (kernel.resource? other).map fun resource =>
        match resource with
        | .readyList state =>
            .readyList ⟨state.watches.erase fd, state.queue.filter (· ≠ fd)⟩
        | resource => resource := by
  rw [unwatch, resource?, resource?, Table.get?_mapValues]
  rcases kernel.opened.get? other with _ | ⟨resource, nonblocking, opening⟩
  · rfl
  · cases resource <;> rfl

theorem close_of_timer {timer : Timer} (timed : kernel.resource? fd = some (.timer timer)) :
    kernel.close fd = { kernel with opened := kernel.opened.erase fd }.unwatch fd := by
  rw [close, timed]
  rfl

/-- Closing a timer. -/
theorem aside_close (timed : ∀ resource, kernel.resource? fd = some resource →
    ∃ timer, resource = .timer timer) (away : fd ≠ list) :
    Aside list fd kernel (kernel.close fd) := by
  cases found : kernel.resource? fd with
  | none =>
      rw [close, found]
      exact refl_of (Aside list fd) kernel
  | some resource =>
      rcases timed resource found with ⟨timer, rfl⟩
      have others {other : Descriptor} (different : fd ≠ other) :
          { kernel with opened := kernel.opened.erase fd }.resource? other = kernel.resource? other := by
        rw [resource?, Table.get?_erase, if_neg different]
        rfl
      have closed {other : Descriptor} (different : fd ≠ other) :
          (kernel.close fd).resource? other = (kernel.resource? other).map fun resource =>
            match resource with
            | .readyList state =>
                .readyList ⟨state.watches.erase fd, state.queue.filter (· ≠ fd)⟩
            | resource => resource := by
        rw [close_of_timer found, resource?_unwatch, others different]
      have listed : (kernel.close fd).readyList? list = (kernel.readyList? list).map fun state =>
          ⟨state.watches.erase fd, state.queue.filter (· ≠ fd)⟩ := by
        rw [readyList?, readyList?, closed away]
        rcases kernel.resource? list with _ | resource
        · rfl
        · cases resource <;> rfl
      have queue : (kernel.close fd).queueOf list = (kernel.queueOf list).filter (· ≠ fd) := by
        rw [queueOf, queueOf, listed]
        cases kernel.readyList? list <;> rfl
      refine
        { toFreezes := freezes_close kernel fd
          alarms := ?_
          armed := fun other different => ?_
          watching := fun other different => watch?_close kernel away different
          queue := ?_
          opened := fun opened other member => ?_
          faults := ?_
          limit := ?_ }
      · rw [close_of_timer found]
        exact Nat.le_refl _
      · rw [alarm?, alarm?, closed different]
        rcases kernel.resource? other with _ | resource
        · rfl
        · cases resource <;> rfl
      · rw [queue, List.filter_filter]
        simp
      · rw [queue, List.mem_filter] at member
        rw [opening?_close, if_neg fun same => by simp [same] at member]
        exact opened other member.1
      · rw [close_of_timer found]
        exact id
      · rw [close_of_timer found]
        rfl

end ScriptHost.Kernel
