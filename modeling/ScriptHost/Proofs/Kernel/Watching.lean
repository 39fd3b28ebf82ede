import ScriptHost.Proofs.Kernel.Sparing

/-!
# What readiness lists watch

A call that changes a registration either fails, and then every list watches what it
watched, or it changes what one list watches one descriptor for and nothing else.  It
adds only what is open and not watched, and changes or takes off only what is watched.
-/

namespace ScriptHost.Kernel

variable {kernel middle after : Kernel} {list fd : Descriptor} {wanted : Option Watch}
  {due : Option Watch → Prop} {outcome : Except Int Unit × Kernel}

theorem watch?_of_standing {opening : Nat} {watches : Table Descriptor Watch}
    (stands : kernel.standing? list = some (opening, .list watches)) (fd : Descriptor) :
    kernel.watch? list fd = watches.get? fd := by
  rw [watch?_eq, stands]
  rfl

/-- Between two kernels, only what one list watches one descriptor for has changed. -/
structure Sets (list fd : Descriptor) (wanted : Option Watch) (before after : Kernel) : Prop where
  openings : after.openings = before.openings
  own : ∃ opening watches watches', before.standing? list = some (opening, .list watches) ∧
    after.standing? list = some (opening, .list watches') ∧
    ∀ other, watches'.get? other = if fd = other then wanted else watches.get? other
  others : ∀ other, list ≠ other → after.standing? other = before.standing? other

namespace Sets

theorem after_still (still : Still kernel middle) (sets : Sets list fd wanted middle after) :
    Sets list fd wanted kernel after where
  openings := sets.openings.trans still.openings
  own := by
    rw [← still.standing list]
    exact sets.own
  others other away := (sets.others other away).trans (still.standing other)

theorem andThen_still (sets : Sets list fd wanted kernel middle) (still : Still middle after) :
    Sets list fd wanted kernel after where
  openings := still.openings.trans sets.openings
  own := by
    rw [still.standing list]
    exact sets.own
  others other away := (still.standing other).trans (sets.others other away)

theorem opening? (sets : Sets list fd wanted kernel after) (other : Descriptor) :
    after.opening? other = kernel.opening? other := by
  rw [opening?_eq, opening?_eq]
  by_cases same : list = other
  · subst same
    rcases sets.own with ⟨_, _, _, before, now, _⟩
    rw [before, now]
    rfl
  · rw [sets.others other same]

theorem numbered (sets : Sets list fd wanted kernel after) (numbered : kernel.Numbered) :
    after.Numbered := by
  intro other opening found
  rw [sets.opening?] at found
  rw [sets.openings]
  exact numbered other opening found

theorem watch? (sets : Sets list fd wanted kernel after) (other : Descriptor) :
    after.watch? list other = if fd = other then wanted else kernel.watch? list other := by
  rcases sets.own with ⟨_, _, _, before, now, changed⟩
  rw [watch?_of_standing before, watch?_of_standing now, changed]

/-- Every list watches other descriptors as before. -/
theorem watch?_of_ne (sets : Sets list fd wanted kernel after) (list' : Descriptor)
    {other : Descriptor} (different : fd ≠ other) :
    after.watch? list' other = kernel.watch? list' other := by
  by_cases same : list = list'
  · rw [← same, sets.watch?, if_neg different]
  · exact watch?_congr (sets.others list' same) other

/-- What the list watches afterwards has a property if it had it, or is what was wanted. -/
theorem watches {P : Descriptor → UInt64 → Prop} (sets : Sets list fd wanted kernel after)
    (all : ∀ other watch, after.watch? list other = some watch → P other watch.token) :
    Watches after list P := by
  rcases sets.own with ⟨opening, _, watches, _, now, _⟩
  refine ⟨opening, watches, now, fun other watch watched => all other watch ?_⟩
  rw [watch?_of_standing now, watched]

end Sets

theorem Watches.token_of_watch? {P : Descriptor → UInt64 → Prop} {watch : Watch}
    (watches : Watches kernel list P) (watched : kernel.watch? list fd = some watch) :
    P fd watch.token := by
  rcases watches with ⟨opening, table, stands, all⟩
  rw [watch?_of_standing stands] at watched
  exact all fd watch watched

/-- Other registrations for a readiness list, which differ for one descriptor. -/
theorem sets_setWatches {state : ReadyList} (found : kernel.readyList? list = some state)
    {watches : Table Descriptor Watch} (queue : List Descriptor)
    (changed : ∀ other, watches.get? other =
      if fd = other then wanted else state.watches.get? other) :
    Sets list fd wanted kernel (kernel.setResource list (.readyList ⟨watches, queue⟩)) := by
  rcases standing?_of_readyList found with ⟨opening, stands⟩
  refine ⟨rfl, ⟨opening, state.watches, watches, stands, ?_, changed⟩, fun other away =>
    standing?_setResource_of_ne kernel _ away⟩
  rcases Option.map_eq_some_iff.mp stands with ⟨opened, there, same⟩
  have number : opened.opening = opening := congrArg Prod.fst same
  rw [standing?, setResource, Table.get?_modify, if_pos rfl, there, ← number]
  rfl

/-- What a call that changes a registration comes to, if it succeeds only where it is due. -/
inductive Registers (list fd : Descriptor) (due : Option Watch → Prop) (wanted : Option Watch)
    (before : Kernel) : Except Int Unit × Kernel → Prop where
  /-- It has failed. -/
  | refused {errno : Int} {after : Kernel} (still : Still before after) :
      Registers list fd due wanted before (.error errno, after)
  /-- It has succeeded. -/
  | accepted {after : Kernel} (opened : before.opening? fd ≠ none)
      (allowed : due (before.watch? list fd)) (sets : Sets list fd wanted before after) :
      Registers list fd due wanted before (.ok (), after)

theorem Registers.after_still (still : Still kernel middle)
    (registers : Registers list fd due wanted middle outcome) :
    Registers list fd due wanted kernel outcome := by
  cases registers with
  | refused still' => exact .refused (trans_of Still still still')
  | accepted opened allowed sets =>
      rw [still.opening?] at opened
      rw [watch?_congr (still.standing list)] at allowed
      exact .accepted opened allowed (sets.after_still still)

theorem opened_of_registrations {state : ReadyList}
    (ended : registrations list fd kernel = (.ok state, after)) : after.opening? fd ≠ none := by
  rcases registrations_of_ok ended with ⟨_, resource, found⟩
  rcases resource?_eq_some found with ⟨opened, there, _⟩
  rw [opening?, there]
  exact Option.some_ne_none _

/-- After the checks that all such calls start with, the list is there and the descriptor open. -/
theorem registers_of {rest : ReadyList → KernelCall Unit}
    (registers : ∀ state middle, middle.readyList? list = some state →
      middle.opening? fd ≠ none → Registers list fd due wanted middle (rest state middle)) :
    Registers list fd due wanted kernel ((registrations list fd >>= rest) kernel) := by
  have still := still_registrations list fd kernel
  rcases ended : registrations list fd kernel with ⟨errno | state, middle⟩ <;> rw [ended] at still
  · rw [bind_of_error ended]
    exact .refused still
  · rw [bind_of_ok ended]
    exact (registers state middle (registrations_of_ok ended).1
      (opened_of_registrations ended)).after_still still

theorem watch?_of_readyList {state : ReadyList} (found : kernel.readyList? list = some state) :
    kernel.watch? list fd = state.watches.get? fd := by
  rw [Kernel.watch?, found]
  rfl

/-- A registration that is put in, for something that is watched already or not. -/
theorem sets_insert {state : ReadyList} (found : kernel.readyList? list = some state)
    (watch : Watch) :
    Sets list fd (some watch) kernel ((kernel.setResource list
      (.readyList { state with watches := state.watches.insert fd watch })).queueIfReady list fd) :=
  (sets_setWatches found state.queue fun other => Table.get?_insert state.watches fd other watch)
    |>.andThen_still (still_queueIfReady _ list fd)

theorem watched_of_present {watches : Table Descriptor Watch}
    (present : ¬(!watches.contains fd) = true) : watches.get? fd ≠ none := by
  intro gone
  apply present
  rw [Table.contains, gone]
  rfl

theorem registers_watch (list fd : Descriptor) (token : UInt64) (interest : Interest)
    (kernel : Kernel) :
    Registers list fd (· = none) (some ⟨token, interest.requested⟩) kernel
      (watch list fd token interest kernel) := by
  refine registers_of fun state middle found opened => ?_
  split
  next => exact .refused (refl_of Still middle)
  next absent =>
      refine .accepted opened ?_ (sets_insert found _)
      rw [watch?_of_readyList found]
      exact Option.not_isSome_iff_eq_none.mp absent

theorem registers_rewatch (list fd : Descriptor) (token : UInt64) (interest : Interest)
    (kernel : Kernel) :
    Registers list fd (· ≠ none) (some ⟨token, interest.requested⟩) kernel
      (rewatch list fd token interest kernel) := by
  refine registers_of fun state middle found opened => ?_
  split
  next => exact .refused (refl_of Still middle)
  next present =>
      refine .accepted opened ?_ (sets_insert found _)
      rw [watch?_of_readyList found]
      exact watched_of_present present

theorem registers_forget (list fd : Descriptor) (kernel : Kernel) :
    Registers list fd (· ≠ none) none kernel (forget list fd kernel) := by
  refine registers_of fun state middle found opened => ?_
  split
  next => exact .refused (refl_of Still middle)
  next present =>
      refine .accepted opened ?_ (sets_setWatches found _ fun other =>
        Table.get?_erase state.watches fd other)
      rw [watch?_of_readyList found]
      exact watched_of_present present

/-! ## Calls under the name of their system call -/

section Named

variable {syscall : String} {call : KernelCall Unit}
  (registers : Registers list fd due wanted kernel (call kernel))

include registers

theorem Registers.of_named_ok (ended : named syscall call kernel = (.ok (), after)) :
    kernel.opening? fd ≠ none ∧ due (kernel.watch? list fd) ∧ Sets list fd wanted kernel after := by
  unfold named at ended
  generalize call kernel = outcome at registers ended
  cases registers with
  | refused still => cases ended
  | accepted opened allowed sets =>
      cases ended
      exact ⟨opened, allowed, sets⟩

theorem Registers.of_named_error {cause : SystemError}
    (ended : named syscall call kernel = (.error cause, after)) : Still kernel after := by
  unfold named at ended
  generalize call kernel = outcome at registers ended
  cases registers with
  | refused still =>
      cases ended
      exact still
  | accepted => cases ended

end Named

end ScriptHost.Kernel
