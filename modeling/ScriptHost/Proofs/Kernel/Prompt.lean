import ScriptHost.Proofs.Kernel.Fronts

/-!
# Waits that come back

While some timer is in line there is something to wait for.  Either one of the line is
queued, or all of them are armed, and where nothing else is armed the clock jumps to the
expiry of one of them; so a wait comes back with events.  Nothing that time does arms a
timer or makes calls fail.
-/

namespace ScriptHost.Kernel

variable {kernel after : Kernel} {list fd : Descriptor} {alarm due : Alarm}

/-! ## Calls that do not fail -/

/-- No fault is planned, and there may be any number of waits. -/
structure Willing (kernel : Kernel) : Prop where
  faultless : kernel.faults = []
  unlimited : kernel.waitLimit = none

/-- Between two kernels no timer was armed, and calls fail no more than before. -/
structure Calms (before after : Kernel) : Prop where
  willing : before.Willing → after.Willing
  unarmed : ∀ fd, before.alarm? fd = none → after.alarm? fd = none

instance : IsPreorder Kernel Calms where
  refl _ := ⟨id, fun _ => id⟩
  trans _ _ _ first second :=
    { willing := fun willing => second.willing (first.willing willing)
      unarmed := fun fd unarmed => second.unarmed fd (first.unarmed fd unarmed) }

theorem meetFault_of_willing (willing : kernel.Willing) (call : String) :
    meetFault call kernel = (.ok (), kernel) := by
  have same : { kernel with faults := [] } = kernel := by
    rw [← willing.faultless]
  unfold meetFault
  rw [get_bind_eq, willing.faultless]
  exact congrArg (Prod.mk _) same

theorem calms_meetFault (call : String) : Keeps Calms (meetFault call) := by
  intro kernel
  refine ⟨fun willing => ?_, fun fd unarmed => ?_⟩
  · rw [meetFault_of_willing willing]
    exact willing
  · exact (alarm?_congr (resource?_congr (by rw [meetFault_opened]))).trans unarmed

/-- A kernel with the same descriptors, in which calls fail no more. -/
theorem calms_of_opened (opened : after.opened = kernel.opened) (faults : after.faults = kernel.faults)
    (limit : after.waitLimit = kernel.waitLimit) : Calms kernel after where
  willing willing := ⟨faults.trans willing.faultless, limit.trans willing.unlimited⟩
  unarmed _ unarmed := (alarm?_congr (resource?_congr (by rw [opened]))).trans unarmed

theorem Aside.willing (aside : Aside list fd kernel after) (willing : kernel.Willing) :
    after.Willing :=
  ⟨aside.faults willing.faultless, aside.limit.trans willing.unlimited⟩

theorem Aside.calms (aside : Aside list fd kernel after)
    (unarmed : kernel.alarm? fd = none → after.alarm? fd = none) : Calms kernel after where
  willing := aside.willing
  unarmed other disarmed := by
    by_cases same : fd = other
    · subst same
      exact unarmed disarmed
    · exact (aside.armed other same).trans disarmed

/-- Making a readiness list arms no timer. -/
theorem calms_createReadyList (willing : kernel.Willing)
    (made : createReadyList kernel = (.ok fd, after)) : Calms kernel after := by
  unfold createReadyList at made
  rw [bind_of_ok (meetFault_of_willing willing _), get_bind_eq] at made
  rcases opened : kernel.openResource (.readyList ⟨.empty, []⟩) false with ⟨_ | other, later⟩
  · rw [opened] at made
    cases made
  · rw [opened] at made
    cases made
    have listed := resource?_openResource opened
    unfold openResource at opened
    split at opened
    · cases opened
      refine ⟨fun willing => ⟨willing.faultless, willing.unlimited⟩, fun other unarmed => ?_⟩
      by_cases same : fd = other
      · subst same
        rw [alarm?, listed]
      · refine (alarm?_congr (resource?_congr ?_)).trans unarmed
        exact (Table.get?_insert _ _ _ _).trans (if_neg same)
    · cases opened

/-! ## Time goes by -/

theorem calms_goOff (armed : kernel.alarm? fd = some alarm) : Calms kernel (kernel.goOff fd alarm) := by
  have aside : Aside fd fd kernel (kernel.goOff fd alarm) := aside_goOff armed
  exact aside.calms fun unarmed => nomatch armed.symm.trans unarmed

theorem calms_fireAtMost (kernel : Kernel) (fuel : Nat) : Calms kernel (kernel.fireAtMost fuel) := by
  induction fuel generalizing kernel with
  | zero => exact refl_of Calms kernel
  | succ fuel ih =>
      unfold fireAtMost
      split
      next fd alarm next =>
          split
          · exact trans_of Calms (calms_goOff (nextAlarm?_alarm next)) (ih _)
          · exact refl_of Calms kernel
      next => exact refl_of Calms kernel

theorem calms_moveTo (kernel : Kernel) (time : Nat) : Calms kernel (kernel.moveTo time) :=
  calms_of_opened rfl rfl rfl

theorem calms_fire_at (kernel : Kernel) (time : Nat) : Calms kernel (kernel.moveTo time).fire :=
  trans_of Calms (calms_moveTo kernel time) (calms_fireAtMost _ _)

theorem calms_advance (kernel : Kernel) (nanos : Nat) : Calms kernel (kernel.advance nanos) :=
  calms_fire_at kernel _

/-! ## Waits -/

theorem alarm?_setList {state : ReadyList} (found : kernel.readyList? list = some state)
    (later : ReadyList) (fd : Descriptor) :
    (kernel.setResource list (.readyList later)).alarm? fd = kernel.alarm? fd := by
  by_cases same : list = fd
  · subst same
    rw [alarm?_of_readyList found, alarm?_of_readyList (readyList?_setResource found later)]
  · exact alarm?_congr ((resource?_setResource _ _ _ _).trans (if_neg same))

theorem alarm?_collect (kernel : Kernel) (list : Descriptor) (room : Nat) (fd : Descriptor) :
    (kernel.collect list room).2.alarm? fd = kernel.alarm? fd := by
  unfold collect
  split
  next state found => exact alarm?_setList found _ fd
  next => rfl

theorem calms_collect (kernel : Kernel) (list : Descriptor) (room : Nat) :
    Calms kernel (kernel.collect list room).2 where
  willing willing := by
    unfold collect
    split
    · exact ⟨willing.faultless, willing.unlimited⟩
    · exact willing
  unarmed fd unarmed := (alarm?_collect kernel list room fd).trans unarmed

theorem calms_collectBy (list : Descriptor) (room : Nat) (deadline : Option Nat) (jumps : Nat) :
    Keeps Calms (collectBy list room deadline jumps) := by
  induction jumps generalizing deadline with
  | zero => exact .throw _
  | succ jumps ih =>
      refine Keeps.get_bind fun kernel => ?_
      have collected := calms_collect kernel list room
      generalize kernel.collect list room = found at collected ⊢
      rcases found with ⟨events, after⟩
      refine Keeps.set_bind collected ?_
      split
      · exact refl_of Calms after
      · rcases after.nextAlarm? with _ | ⟨armed, alarm⟩ <;> cases deadline
        case none.none => exact refl_of Calms after
        case none.some deadline =>
            exact Keeps.set_bind (calms_moveTo after deadline) (refl_of Calms _)
        case some.none => exact Keeps.set_bind (calms_fire_at after _) (ih _ _)
        case some.some deadline =>
            dsimp only
            split
            · exact Keeps.set_bind (calms_fire_at after _) (ih _ _)
            · exact Keeps.set_bind (calms_moveTo after deadline) (refl_of Calms _)

theorem calms_wait (list : Descriptor) (room : Nat) (timeout : Option Nat) :
    Keeps Calms (wait list room timeout) := by
  refine (calms_meetFault _).bind fun _ => Keeps.get_bind fun kernel => ?_
  refine Keeps.set_bind (calms_of_opened rfl rfl rfl) ?_
  cases kernel.waitLimit with
  | none => exact calms_collectBy list room _ _ _
  | some limit =>
      have go := calms_collectBy list room
      exact Keeps.ite (.throw _) (go _ _) _

/-! ## Lines that are waited for -/

/-- A walk reports something if it may and somebody who is queued is ready. -/
theorem walk_events_ne_nil {watches : Table Descriptor Watch} {watch : Watch} (room : Nat)
    {queue : List Descriptor} (member : fd ∈ queue) (watched : watches.get? fd = some watch)
    (ready : (kernel.heard fd watch).bits ≠ 0) :
    (kernel.walk watches (room + 1) queue).events ≠ [] := by
  induction queue with
  | nil => cases member
  | cons head rest ih =>
      have later (unready : ∀ watch, watches.get? head = some watch →
          ¬(kernel.heard head watch).bits ≠ 0) : fd ∈ rest := by
        rcases List.mem_cons.mp member with rfl | later
        · exact absurd ready (unready watch watched)
        · exact later
      unfold walk
      split
      next other found =>
          dsimp only
          split
          · exact List.cons_ne_nil _ _
          next unready =>
              refine ih (later fun watch' found' => ?_)
              cases found.symm.trans found'
              exact unready
      next missing => exact ih (later fun watch' found' => nomatch missing.symm.trans found')

namespace Lined

variable {dues : Dues}

/-- Something is reported if somebody of the line is queued. -/
theorem collect_ne_nil (lined : Lined kernel list dues) (room : Nat) (dueAt : dues fd = some due)
    (queued : fd ∈ kernel.queueOf list) : (kernel.collect list (room + 1)).1 ≠ [] := by
  rcases listed : kernel.readyList? list with _ | state
  · rw [queueOf_of_none listed] at queued
    cases queued
  · rcases lined.watch_of_readyList listed dueAt with ⟨token, watched⟩
    have ready := (lined.lapsed fd due dueAt queued).heard token
    rw [queueOf_of_readyList listed] at queued
    rw [Kernel.collect, listed]
    exact walk_events_ne_nil room queued watched ready

/-- The next timer is queued when it has gone off, if it is in line. -/
theorem queued_of_fire (lined : Lined kernel list dues) (next : kernel.nextAlarm? = some (fd, alarm))
    (dueAt : dues fd = some due) : fd ∈ (kernel.moveTo alarm.expiry).fire.queueOf list := by
  have next' : (kernel.moveTo alarm.expiry).nextAlarm? = some (fd, alarm) := next
  have armed := nextAlarm?_alarm next'
  have moved := lined.moveTo alarm.expiry
  have pends : (kernel.moveTo alarm.expiry).Pends fd due := by
    refine moved.pends fd due dueAt fun queued => ?_
    exact nomatch armed.symm.trans (moved.lapsed fd due dueAt queued).alarm?
  rcases pends with ⟨serial, _, timed⟩
  have gone : ((kernel.moveTo alarm.expiry).goOff fd alarm).alarm? fd = none := by
    rcases goOff_eq timed alarm with ⟨later, once, goneOff⟩
    cases once rfl
    rw [goneOff, alarm?_wake]
    exact alarm?_of_timer ((resource?_setTimer timed _ fd).trans (if_pos rfl))
  have some_armed : (fd, alarm) ∈ (kernel.moveTo alarm.expiry).armedTimers := mem_armedTimers.mpr armed
  have fired : ∃ fuel, (kernel.moveTo alarm.expiry).fire =
      ((kernel.moveTo alarm.expiry).goOff fd alarm).fireAtMost fuel := by
    rcases Nat.exists_eq_succ_of_ne_zero (Nat.ne_of_gt (List.length_pos_of_mem some_armed)) with
      ⟨fuel, count⟩
    refine ⟨fuel, ?_⟩
    rw [fire, armedCount, count, Kernel.fireAtMost, next']
    exact if_pos (Nat.le_max_right _ _)
  rcases fired with ⟨fuel, fired⟩
  have stands := lined.fire_at alarm.expiry
  rw [fired] at stands ⊢
  apply Classical.byContradiction
  intro absent
  rcases (stands.pends fd due dueAt absent).alarm? with ⟨again, rearmed⟩
  exact nomatch rearmed.symm.trans ((calms_fireAtMost _ fuel).unarmed fd gone)

theorem collectBy_of_queued (lined : Lined kernel list dues) (room jumps : Nat)
    (deadline : Option Nat) (dueAt : dues fd = some due) (queued : fd ∈ kernel.queueOf list) :
    ∃ events after, Kernel.collectBy list (room + 1) deadline (jumps + 1) kernel =
      (.ok events, after) ∧ events ≠ [] := by
  have reports := lined.collect_ne_nil room dueAt queued
  unfold Kernel.collectBy
  rw [get_bind_eq]
  generalize kernel.collect list (room + 1) = found at reports ⊢
  rcases found with ⟨events, after⟩
  dsimp only at reports ⊢
  rw [set_bind_eq]
  cases events with
  | nil => exact absurd rfl reports
  | cons event events => exact ⟨_, _, rfl, reports⟩

/-- With two jumps at hand a collection comes back with events, if nothing is armed that is not
in line. -/
theorem collectBy_reports_some (lined : Lined kernel list dues) (room jumps : Nat)
    (dueAt : dues fd = some due)
    (only : ∀ fd alarm, kernel.alarm? fd = some alarm → ∃ due, dues fd = some due) :
    ∃ events after, Kernel.collectBy list (room + 1) none (jumps + 2) kernel = (.ok events, after) ∧
      events ≠ [] := by
  by_cases queued : fd ∈ kernel.queueOf list
  · exact lined.collectBy_of_queued room (jumps + 1) none dueAt queued
  · rcases (lined.pends fd due dueAt queued).alarm? with ⟨serial, armed⟩
    rcases lined.collect (room + 1) with ⟨reported, fronts⟩
    have same := alarm?_collect kernel list (room + 1)
    unfold Kernel.collectBy
    rw [get_bind_eq]
    generalize kernel.collect list (room + 1) = found at fronts same ⊢
    rcases found with ⟨events, middle⟩
    dsimp only at fronts same ⊢
    rw [set_bind_eq]
    cases events with
    | cons event events => exact ⟨_, _, rfl, List.cons_ne_nil _ _⟩
    | nil =>
        have stands := of_fronts_nil fronts
        rcases next : middle.nextAlarm? with _ | ⟨first, alarm⟩
        · cases ((same fd).trans armed).symm.trans (alarm?_of_nextAlarm?_none next fd)
        · rcases only first alarm ((same first).symm.trans (nextAlarm?_alarm next)) with ⟨_, dueAt'⟩
          have fired := stands.fire_at alarm.expiry
          exact fired.collectBy_of_queued room jumps none dueAt' (stands.queued_of_fire next dueAt')

/-- A wait without end comes back with events while anything is in line, if nothing else is
armed. -/
theorem wait_reports_some (lined : Lined kernel list dues) (willing : kernel.Willing) (room : Nat)
    (dueAt : dues fd = some due)
    (only : ∀ fd alarm, kernel.alarm? fd = some alarm → ∃ due, dues fd = some due) :
    ∃ events after, Kernel.wait list (room + 1) none kernel = (.ok events, after) ∧ events ≠ [] := by
  have counted : Lined { kernel with waits := kernel.waits + 1 } list dues :=
    lined.of_opened rfl (Nat.le_refl _) (Nat.le_refl _)
  unfold Kernel.wait
  rw [bind_of_ok (meetFault_of_willing willing _), get_bind_eq, set_bind_eq]
  have unlimited := willing.unlimited
  generalize kernel.waitLimit = limit at counted unlimited ⊢
  subst unlimited
  exact counted.collectBy_reports_some room 999998 dueAt only

end Lined

end ScriptHost.Kernel
