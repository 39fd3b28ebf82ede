import ScriptHost.Proofs.Kernel.Sparing

/-!
# What calls leave of timers

A timer is open only where one was made: every other call leaves behind only timers that
were there before.  Closing a descriptor, reading from it, or taking it off a readiness
list leaves all other timers exactly as they are, with the expiries that were not read,
and the clock stands still.
-/

namespace ScriptHost.Kernel

variable {kernel after : Kernel} {fd list : Descriptor} {opening : Nat}

/-! ## Where timers come from -/

theorem role_eq_timer {resource : Resource} (timed : resource.role = .timer) :
    ∃ timer, resource = .timer timer := by
  cases resource with
  | timer timer => exact ⟨timer, rfl⟩
  | reader | writer | file | readyList => cases timed

theorem readyList_ne_timer (state : ReadyList) (timer : Timer) :
    Resource.readyList state ≠ .timer timer := by
  rintro ⟨⟩

/-- A descriptor is that of a timer, from some opening. -/
def IsTimer (kernel : Kernel) (fd : Descriptor) (opening : Nat) : Prop :=
  kernel.standing? fd = some (opening, .timer)

theorem isTimer_iff :
    kernel.IsTimer fd opening ↔
      kernel.opening? fd = some opening ∧ ∃ timer, kernel.resource? fd = some (.timer timer) := by
  rw [IsTimer, standing?, opening?, resource?]
  cases kernel.opened.get? fd with
  | none => simp
  | some opened =>
      rcases opened with ⟨resource, nonblocking, number⟩
      cases resource <;> simp [Opened.standing, Resource.role]

/-- Every timer that is open was open before. -/
def Inherits (before after : Kernel) : Prop :=
  ∀ fd opening, after.IsTimer fd opening → before.IsTimer fd opening

instance : IsPreorder Kernel Inherits where
  refl _ _ _ timed := timed
  trans _ _ _ first second fd opening timed := first fd opening (second fd opening timed)

theorem Stands.inherits (stands : Stands kernel after) : Inherits kernel after := by
  intro fd opening timed
  rw [IsTimer, stands.standing] at timed
  exact timed

theorem standing?_openResource {resource : Resource} {nonblocking : Bool}
    (made : kernel.openResource resource nonblocking = (some fd, after)) (other : Descriptor) :
    after.standing? other =
      if fd = other then some (kernel.openings, resource.role) else kernel.standing? other := by
  unfold openResource at made
  split at made
  next free =>
      cases made
      rw [standing?, Table.get?_insert]
      split <;> rfl
  next => cases made

theorem inherits_openResource (kernel : Kernel) {resource : Resource} (nonblocking : Bool)
    (untimed : ∀ timer, resource ≠ .timer timer) :
    Inherits kernel (kernel.openResource resource nonblocking).2 := by
  rcases made : kernel.openResource resource nonblocking with ⟨_ | fd, after⟩
  · rw [openResource_of_none made]
    exact refl_of Inherits kernel
  · intro other opening timed
    rw [IsTimer, standing?_openResource made] at timed
    split at timed
    · rcases role_eq_timer (congrArg Prod.snd (Option.some.inj timed)) with ⟨timer, same⟩
      exact absurd same (untimed timer)
    · exact timed

theorem inherits_openPipe (kernel : Kernel) : Inherits kernel kernel.openPipe.2 := by
  have piped : Stands kernel
      { kernel with pipes := kernel.pipes.insert kernel.pipes.size ⟨[], true, true⟩ } :=
    stands_of_opened rfl rfl
  exact trans_of Inherits piped.inherits
    (trans_of Inherits (inherits_openResource _ false (by nofun))
      (inherits_openResource _ false (by nofun)))

theorem inherits_create {call : String} {resource : Resource} {nonblocking : Bool}
    (untimed : ∀ timer, resource ≠ .timer timer) :
    Keeps Inherits (create call resource nonblocking) := by
  intro kernel
  rcases made : create call resource nonblocking kernel with ⟨errno | fd, after⟩
  · exact (create_of_error made).inherits
  · rcases create_of_ok made with ⟨middle, still, -, opened⟩
    have opens := inherits_openResource middle nonblocking untimed
    rw [opened] at opens
    exact trans_of Inherits still.inherits opens

theorem inherits_createReadyList : Keeps Inherits createReadyList :=
  inherits_create (readyList_ne_timer _)

theorem inherits_close (kernel : Kernel) (fd : Descriptor) : Inherits kernel (kernel.close fd) := by
  intro other opening timed
  rw [IsTimer, standing?_close] at timed
  split at timed
  · cases timed
  · split at timed
    · rcases Option.map_eq_some_iff.mp timed with ⟨⟨number, role⟩, stands, same⟩
      cases role <;> cases same
      exact stands
    · exact timed

theorem inherits_closeAll (kernel : Kernel) (fds : List Descriptor) :
    Inherits kernel (fds.foldl close kernel) := by
  induction fds generalizing kernel with
  | nil => exact refl_of Inherits kernel
  | cons first rest ih => exact trans_of Inherits (inherits_close kernel first) (ih _)

theorem inherits_setResource (kernel : Kernel) (fd : Descriptor) {resource : Resource}
    (untimed : ∀ timer, resource ≠ .timer timer) :
    Inherits kernel (kernel.setResource fd resource) := by
  intro other opening timed
  by_cases same : fd = other
  · subst same
    rw [IsTimer, standing?, setResource, Table.get?_modify, if_pos rfl, Option.map_map] at timed
    rcases Option.map_eq_some_iff.mp timed with ⟨opened, _, stands⟩
    rcases role_eq_timer (congrArg Prod.snd stands) with ⟨timer, same⟩
    exact absurd same (untimed timer)
  · rwa [IsTimer, standing?_setResource_of_ne kernel resource same] at timed

theorem inherits_watch (list fd : Descriptor) (token : UInt64) (interest : Interest) :
    Keeps Inherits (watch list fd token interest) := by
  intro kernel
  refine Keeps.bind_from (still_registrations list fd kernel).inherits fun state after _ => ?_
  split
  · exact refl_of Inherits after
  · exact trans_of Inherits (inherits_setResource _ list (readyList_ne_timer _))
      (still_queueIfReady _ list fd).inherits

theorem inherits_rewatch (list fd : Descriptor) (token : UInt64) (interest : Interest) :
    Keeps Inherits (rewatch list fd token interest) := by
  intro kernel
  refine Keeps.bind_from (still_registrations list fd kernel).inherits fun state after _ => ?_
  split
  · exact refl_of Inherits after
  · exact trans_of Inherits (inherits_setResource _ list (readyList_ne_timer _))
      (still_queueIfReady _ list fd).inherits

theorem inherits_forget (list fd : Descriptor) : Keeps Inherits (forget list fd) := by
  intro kernel
  refine Keeps.bind_from (still_registrations list fd kernel).inherits fun state after _ => ?_
  split
  · exact refl_of Inherits after
  · exact inherits_setResource _ list (readyList_ne_timer _)

/-! ## Timers that are left as they are -/

/-- The clock stands still, and all timers but that of a descriptor are as they were. -/
structure Freezes (fd : Descriptor) (before after : Kernel) : Prop where
  now : after.now = before.now
  timers : ∀ other timer, fd ≠ other → before.resource? other = some (.timer timer) →
    after.resource? other = some (.timer timer)

instance : IsPreorder Kernel (Freezes fd) where
  refl _ := ⟨rfl, fun _ _ _ found => found⟩
  trans _ _ _ first second :=
    ⟨second.now.trans first.now, fun other timer different found =>
      second.timers other timer different (first.timers other timer different found)⟩

theorem freezes_of_opened (now : after.now = kernel.now) (opened : after.opened = kernel.opened) :
    Freezes fd kernel after := by
  refine ⟨now, fun other timer _ found => ?_⟩
  rw [resource?, opened]
  exact found

theorem freezes_setResource (kernel : Kernel) (fd : Descriptor) (resource : Resource) :
    Freezes fd kernel (kernel.setResource fd resource) := by
  refine ⟨rfl, fun other timer different found => ?_⟩
  rw [resource?_setResource, if_neg different]
  exact found

/-- Setting what is behind a readiness list. -/
theorem freezes_setList {state : ReadyList} (found : kernel.readyList? list = some state)
    (resource : Resource) : Freezes fd kernel (kernel.setResource list resource) := by
  refine ⟨rfl, fun other timer _ timed => ?_⟩
  rw [resource?_setResource, if_neg, timed]
  rintro rfl
  rw [readyList?_eq_some found] at timed
  cases timed

theorem freezes_mapValues {change : Descriptor → Opened → Opened}
    (same : ∀ fd opened timer, opened.resource = .timer timer → change fd opened = opened) :
    Freezes fd kernel { kernel with opened := kernel.opened.mapValues change } := by
  refine ⟨rfl, fun other timer _ found => ?_⟩
  rcases resource?_eq_some found with ⟨opened, there, timed⟩
  rw [resource?, Table.get?_mapValues, there, Option.map_some, same other opened timer timed,
    Option.map_some, timed]

/-- Waking a descriptor, after something has been done to pipes. -/
theorem freezes_wakeIf (kernel : Kernel) (pipes : Table Nat Pipe) (other : Descriptor)
    (concerns : Watch → Bool) :
    Freezes fd kernel ({ kernel with pipes }.wakeIf other concerns) := by
  have piped : Freezes fd kernel { kernel with pipes } := freezes_of_opened rfl rfl
  refine trans_of (Freezes fd) piped (freezes_mapValues fun _ opened timer timed => ?_)
  rw [timed]

theorem freezes_hangUp (kernel : Kernel) (resource : Resource) :
    Freezes fd kernel (kernel.hangUp resource) := by
  cases resource with
  | reader pipe | writer pipe =>
      simp only [hangUp]
      split
      · exact freezes_wakeIf kernel _ _ _
      · exact freezes_of_opened rfl rfl
  | timer | file | readyList => exact refl_of (Freezes fd) kernel

theorem freezes_close (kernel : Kernel) (fd : Descriptor) :
    Freezes fd kernel (kernel.close fd) := by
  unfold close
  split
  next => exact refl_of (Freezes fd) kernel
  next resource _ =>
      have erased : Freezes fd kernel { kernel with opened := kernel.opened.erase fd } := by
        refine ⟨rfl, fun other timer different found => ?_⟩
        rw [resource?, Table.get?_erase, if_neg different]
        exact found
      refine trans_of (Freezes fd) erased
        (trans_of (Freezes fd) (freezes_mapValues ?_) (freezes_hangUp _ resource))
      intro other opened timer timed
      rw [timed]

theorem freezes_meetFault (call : String) : Keeps (Freezes fd) (meetFault call) := by
  refine Keeps.get_bind fun kernel => ?_
  rcases strike call kernel.faults with ⟨struck, faults⟩
  refine Keeps.set_bind (freezes_of_opened rfl rfl) ?_
  cases struck with
  | some errno => exact refl_of (Freezes fd) _
  | none => exact refl_of (Freezes fd) _

theorem freezes_registrations (list other : Descriptor) :
    Keeps (Freezes fd) (registrations list other) := by
  refine (freezes_meetFault _).bind fun _ => Keeps.get_bind fun kernel => ?_
  rcases kernel.resource? other with _ | _ | _ | _ | _ | _ <;>
    cases kernel.readyList? list <;> exact refl_of (Freezes fd) kernel

theorem freezes_forget (list other : Descriptor) : Keeps (Freezes fd) (forget list other) := by
  intro kernel
  refine Keeps.bind_from (freezes_registrations list other kernel) fun state after ended => ?_
  split
  · exact refl_of (Freezes fd) after
  · exact freezes_setList (registrations_of_ok ended).1 _

theorem freezes_readPipe (other : Descriptor) (pipe length : Nat) :
    Keeps (Freezes fd) (readPipe other pipe length) := by
  refine Keeps.get_bind fun kernel => ?_
  cases kernel.pipes.get? pipe with
  | none => exact refl_of (Freezes fd) kernel
  | some state =>
      cases kernel.opened.get? other with
      | none => exact refl_of (Freezes fd) kernel
      | some opened =>
          dsimp only
          split
          · exact Keeps.ite (.pure []) (Keeps.ite (.throw _) (Keeps.ite (.pure []) (.throw _))) kernel
          · split
            · exact refl_of (Freezes fd) kernel
            · generalize (state.hasWriter && state.isFull) = frees, writerOf? _ pipe = writer
              rcases frees with _ | _ <;> rcases writer with _ | writer
              case true.some =>
                  exact Keeps.set_bind (freezes_wakeIf kernel _ _ _) (refl_of (Freezes fd) _)
              all_goals exact Keeps.set_bind (freezes_of_opened rfl rfl) (refl_of (Freezes fd) _)

/-- Reading from a descriptor touches no timer but its own. -/
theorem freezes_read (fd : Descriptor) (length : Nat) : Keeps (Freezes fd) (read fd length) := by
  have met : Keeps (Freezes fd) (meetTransferFault "read" fd) := by
    refine Keeps.get_bind fun kernel => ?_
    rcases kernel.resource? fd with _ | _ | _ | _ | _ | _
    case some.file => exact refl_of (Freezes fd) kernel
    all_goals exact freezes_meetFault "read" kernel
  refine met.bind fun _ => Keeps.get_bind fun kernel => ?_
  cases kernel.resource? fd with
  | none => exact refl_of (Freezes fd) kernel
  | some resource =>
      cases resource with
      | reader pipe => exact freezes_readPipe fd pipe length kernel
      | timer timer =>
          dsimp only
          split
          · exact refl_of (Freezes fd) kernel
          · split
            · exact refl_of (Freezes fd) kernel
            · exact Keeps.set_bind (freezes_setResource kernel fd _) (refl_of (Freezes fd) _)
      | file rest =>
          exact Keeps.set_bind (freezes_setResource kernel fd _) (refl_of (Freezes fd) _)
      | writer | readyList => exact refl_of (Freezes fd) kernel

end ScriptHost.Kernel
