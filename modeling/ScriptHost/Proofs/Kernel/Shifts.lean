import Mathlib.Logic.Relation
import ScriptHost.Proofs.Kernel.Aside

/-!
# What lists may watch

Whatever is called, descriptors and readiness lists shift in few ways: a descriptor is opened or
closed, a list watches an open one for something else, or everything stands where it stood.
Closing takes a descriptor off all lists, so what is not open is not watched.  Who opens a
descriptor and closes it again has therefore left no trace of it.
-/

namespace ScriptHost.Kernel

variable {kernel middle after : Kernel} {list fd : Descriptor}

/-! ## Shifts -/

/-- What one call does to descriptors and lists. -/
inductive Shift : Kernel → Kernel → Prop where
  /-- All descriptors stand where they stood. -/
  | stands {before after : Kernel} (stands : Stands before after) : Shift before after
  /-- A descriptor is opened that watches nothing. -/
  | opens {before after : Kernel} {fd : Descriptor} (opens : Opens before after fd)
      (blank : ∀ other, after.watch? fd other = none) : Shift before after
  /-- A list watches an open descriptor for something else, or not any more. -/
  | sets {before after : Kernel} {list fd : Descriptor} {wanted : Option Watch}
      (opened : before.opening? fd ≠ none) (sets : Sets list fd wanted before after) :
      Shift before after
  /-- A descriptor is closed. -/
  | closes (kernel : Kernel) (fd : Descriptor) : Shift kernel (kernel.close fd)

/-- Shifts one after another. -/
def Shifts : Kernel → Kernel → Prop := Relation.ReflTransGen Shift

instance : IsPreorder Kernel Shifts where
  refl _ := Relation.ReflTransGen.refl
  trans _ _ _ := Relation.ReflTransGen.trans

theorem Shift.shifts (shift : Shift kernel after) : Shifts kernel after :=
  Relation.ReflTransGen.single shift

/-- What is not open is not watched. -/
def Watchful (kernel : Kernel) : Prop :=
  ∀ list fd, kernel.opening? fd = none → kernel.watch? list fd = none

theorem standing?_of_free (free : kernel.opening? fd = none) : kernel.standing? fd = none := by
  rw [opening?_eq] at free
  exact Option.map_eq_none_iff.mp free

theorem watch?_of_free (free : kernel.opening? list = none) : kernel.watch? list fd = none := by
  rw [watch?_eq, standing?_of_free free]
  rfl

/-- What has been closed is watched by no list. -/
theorem watch?_close_of_open (opened : kernel.opening? fd ≠ none) (list : Descriptor) :
    (kernel.close fd).watch? list fd = none := by
  rw [watch?_eq, standing?_close]
  split
  · rfl
  · rw [if_pos (Option.isSome_iff_ne_none.mpr opened)]
    cases stands : kernel.standing? list with
    | none => rfl
    | some standing =>
        rcases standing with ⟨opening, timer | watches | other⟩
        case list => exact (Table.get?_erase watches fd fd).trans (if_pos rfl)
        all_goals rfl

theorem close_of_free (free : kernel.opening? fd = none) : kernel.close fd = kernel := by
  rw [close, resource?_of_free free]

theorem Shift.watchful (shift : Shift kernel after) (watchful : kernel.Watchful) :
    after.Watchful := by
  intro list fd free
  cases shift with
  | stands stands =>
      rw [opening?_eq, stands.standing, ← opening?_eq] at free
      rw [watch?_congr (stands.standing list)]
      exact watchful list fd free
  | @opens _ fd' opens blank =>
      have away : fd' ≠ fd := by
        rintro rfl
        exact Option.some_ne_none _ (opens.opened.symm.trans free)
      rw [opening?_eq, opens.others fd away, ← opening?_eq] at free
      by_cases here : fd' = list
      · rw [← here]
        exact blank fd
      · rw [watch?_congr (opens.others list here)]
        exact watchful list fd free
  | @sets _ list' fd' wanted opened sets =>
      rw [sets.opening?] at free
      have away : fd' ≠ fd := by
        rintro rfl
        exact opened free
      by_cases here : list' = list
      · rw [← here, sets.watch?, if_neg away]
        exact watchful list' fd free
      · rw [watch?_congr (sets.others list here)]
        exact watchful list fd free
  | closes fd' =>
      by_cases opened : kernel.opening? fd' = none
      · rw [close_of_free opened] at free ⊢
        exact watchful list fd free
      · by_cases here : fd' = list
        · rw [← here]
          exact watch?_of_free (opening?_close_self kernel fd')
        · by_cases away : fd' = fd
          · rw [← away]
            exact watch?_close_of_open opened list
          · rw [opening?_close, if_neg away] at free
            rw [watch?_close kernel here away]
            exact watchful list fd free

theorem Shifts.watchful (shifts : Shifts kernel after) (watchful : kernel.Watchful) :
    after.Watchful := by
  induction shifts with
  | refl => exact watchful
  | tail _ shift ih => exact shift.watchful ih

theorem watchful_start (input : Bytes) (waitLimit : Option Nat) :
    (start input waitLimit).Watchful := by
  intro list fd _
  rw [watch?_eq]
  change Option.bind (Option.map _ (if stdin = list then some _ else none)) _ = none
  split <;> rfl

/-! ## There and back -/

/-- A descriptor that was opened and is closed again has changed nothing for others. -/
theorem standing?_close_of_opens (watchful : kernel.Watchful) (opens : Opens kernel middle fd)
    (other : Descriptor) : (middle.close fd).standing? other = kernel.standing? other := by
  rw [standing?_close]
  split
  next same =>
      rw [← same, standing?_of_free opens.free]
  next different =>
      have open_fd : (middle.opening? fd).isSome = true := by
        rw [opens.opened]
        rfl
      rw [if_pos open_fd, opens.others other different]
      cases stands : kernel.standing? other with
      | none => rfl
      | some standing =>
          rcases standing with ⟨opening, timer | watches | other'⟩
          case list =>
              have unwatched := watchful other fd opens.free
              rw [watch?_of_standing stands] at unwatched
              exact congrArg (fun watches => some (opening, Role.list watches))
                (Table.erase_of_absent unwatched)
          all_goals rfl

theorem opening?_close_of_opens (watchful : kernel.Watchful) (opens : Opens kernel middle fd)
    (other : Descriptor) : (middle.close fd).opening? other = kernel.opening? other := by
  rw [opening?_eq, standing?_close_of_opens watchful opens, ← opening?_eq]

theorem watch?_close_of_opens (watchful : kernel.Watchful) (opens : Opens kernel middle fd)
    (list other : Descriptor) : (middle.close fd).watch? list other = kernel.watch? list other :=
  watch?_congr (standing?_close_of_opens watchful opens list) other

/-! ## Calls -/

theorem Stands.shifts (stands : Stands kernel after) : Shifts kernel after :=
  (Shift.stands stands).shifts

theorem Still.shifts (still : Still kernel after) : Shifts kernel after :=
  still.toStands.shifts

theorem shifts_close (kernel : Kernel) (fd : Descriptor) : Shifts kernel (kernel.close fd) :=
  (Shift.closes kernel fd).shifts

theorem shifts_closeAll (kernel : Kernel) (fds : List Descriptor) :
    Shifts kernel (fds.foldl close kernel) := by
  induction fds generalizing kernel with
  | nil => exact refl_of Shifts kernel
  | cons first rest ih => exact trans_of Shifts (shifts_close kernel first) (ih _)

section Resources

variable {resource : Resource} {nonblocking : Bool}
  (blank : ∀ state, resource = .readyList state → state.watches = .empty)

include blank

theorem shifts_openResource (kernel : Kernel) :
    Shifts kernel (kernel.openResource resource nonblocking).2 := by
  rcases made : kernel.openResource resource nonblocking with ⟨_ | fd, after⟩
  · rw [openResource_of_none made]
    exact refl_of Shifts kernel
  · refine (Shift.opens (openResource_opens made) fun other => ?_).shifts
    rw [watch?, readyList?, resource?_openResource made]
    cases resource with
    | readyList state =>
        change state.watches.get? other = none
        rw [blank state rfl]
        rfl
    | reader | writer | timer | file => rfl

theorem shifts_create (call : String) : Keeps Shifts (create call resource nonblocking) := by
  intro kernel
  rcases made : create call resource nonblocking kernel with ⟨errno | fd, after⟩
  · exact (create_of_error made).shifts
  · rcases create_of_ok made with ⟨middle, still, -, opened⟩
    have opens : Shifts middle (middle.openResource resource nonblocking).2 :=
      shifts_openResource blank middle
    rw [opened] at opens
    exact trans_of Shifts still.shifts opens

end Resources

theorem shifts_openPipe (kernel : Kernel) : Shifts kernel kernel.openPipe.2 := by
  have piped : Stands kernel
      { kernel with pipes := kernel.pipes.insert kernel.pipes.size ⟨[], true, true⟩ } :=
    stands_of_opened rfl rfl
  exact trans_of Shifts piped.shifts
    (trans_of Shifts (shifts_openResource (by rintro _ ⟨⟩) _)
      (shifts_openResource (by rintro _ ⟨⟩) _))

theorem shifts_createTimer : Keeps Shifts createTimer :=
  shifts_create (by rintro _ ⟨⟩) _

theorem shifts_createReadyList : Keeps Shifts createReadyList :=
  shifts_create (by rintro _ ⟨⟩; rfl) _

theorem Registers.shifts {due : Option Watch → Prop} {wanted : Option Watch}
    {outcome : Except Int Unit × Kernel} (registers : Registers list fd due wanted kernel outcome) :
    Shifts kernel outcome.2 := by
  cases registers with
  | refused still => exact still.shifts
  | accepted opened _ sets => exact (Shift.sets opened sets).shifts

end ScriptHost.Kernel

namespace ScriptHost.Poller

open Kernel

variable (poller : Poller) (fd : Descriptor) (token : UInt64) (interest : Interest)

theorem shifts_register : Keeps Shifts (poller.register fd token interest) :=
  keeps_named _ fun kernel => (registers_watch poller.list fd token interest kernel).shifts

theorem shifts_modify : Keeps Shifts (poller.modify fd token interest) :=
  keeps_named _ fun kernel => (registers_rewatch poller.list fd token interest kernel).shifts

theorem shifts_deregister : Keeps Shifts (poller.deregister fd) :=
  keeps_named _ fun kernel => (registers_forget poller.list fd kernel).shifts

theorem shifts_create (capacity : Nat) : Keeps Shifts (Poller.create capacity) :=
  (keeps_named _ shifts_createReadyList).bind fun _ => .pure _

end ScriptHost.Poller
