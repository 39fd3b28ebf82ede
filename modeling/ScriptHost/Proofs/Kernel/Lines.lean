import Mathlib.Data.List.Basic
import ScriptHost.Proofs.Kernel.Aside

/-!
# Timers in line

Timers that ring once and are watched by one readiness list are due in a certain order:
at their times, and those of the same time as they were armed.  Some have gone off and
are queued in the list, the others are armed still.  Those that are queued stand there
in the order of their dues, before all that are armed; so whatever goes off next belongs
at the end of the queue, and whatever a wait reports, up to its room, is the front of
the line.
-/

namespace ScriptHost

/-! ## The order of alarms -/

namespace Alarm

variable {first second third : Alarm}

theorem before_iff : first.before second = true ↔
    first.expiry < second.expiry ∨ first.expiry = second.expiry ∧ first.serial < second.serial := by
  simp [before]

theorem before_irrefl (alarm : Alarm) : alarm.before alarm = false := by
  simp [before]

theorem before_trans (earlier : first.before second = true) (later : second.before third = true) :
    first.before third = true := by
  rw [before_iff] at *
  omega

/-- What does not come before a second comes before no more than that does. -/
theorem not_before_trans (earlier : second.before first = false) (later : third.before second = false) :
    third.before first = false := by
  rw [Bool.eq_false_iff, Ne, before_iff] at *
  omega

theorem before_of_not_before (other : first.serial ≠ second.serial)
    (late : second.before first = false) : first.before second = true := by
  rw [Bool.eq_false_iff, Ne, before_iff] at late
  rw [before_iff]
  omega

end Alarm

namespace Kernel

variable {kernel after : Kernel} {list fd fd' : Descriptor} {alarm alarm' due due' : Alarm}

/-! ## The next alarm -/

theorem mem_armedTimers : (fd, alarm) ∈ kernel.armedTimers ↔ kernel.alarm? fd = some alarm := by
  unfold armedTimers
  rw [List.mem_filterMap]
  constructor
  · rintro ⟨other, _, found⟩
    rcases Option.map_eq_some_iff.mp found with ⟨_, armed, same⟩
    cases same
    exact armed
  · intro armed
    refine ⟨fd, ?_, by rw [armed]; rfl⟩
    rw [Table.mem_keys_iff]
    rcases alarm?_eq_some armed with ⟨timer, found, _⟩
    rcases resource?_eq_some found with ⟨opened, there, _⟩
    exact ⟨opened, there⟩

theorem earlier_ne_none (first : Descriptor × Alarm) (second : Option (Descriptor × Alarm)) :
    earlier first second ≠ none := by
  cases second with
  | none => exact Option.some_ne_none first
  | some second =>
      rw [earlier]
      split <;> exact Option.some_ne_none _

theorem foldr_earlier_eq_none {timers : List (Descriptor × Alarm)}
    (none : timers.foldr earlier Option.none = Option.none) : timers = [] := by
  cases timers with
  | nil => rfl
  | cons head rest => exact absurd none (earlier_ne_none head _)

/-- Nothing that is armed goes off before the next alarm. -/
theorem nextAlarm?_first (next : kernel.nextAlarm? = some (fd, alarm))
    (armed : kernel.alarm? fd' = some alarm') : alarm'.before alarm = false := by
  have least (timers : List (Descriptor × Alarm)) (first : Descriptor × Alarm)
      (found : timers.foldr earlier none = some first) :
      ∀ timer ∈ timers, timer.2.before first.2 = false := by
    induction timers generalizing first with
    | nil => cases found
    | cons head rest ih =>
        rw [List.foldr_cons] at found
        intro timer member
        rcases later : rest.foldr earlier none with _ | second
        · rw [later] at found
          cases found
          rcases List.mem_cons.mp member with rfl | behind
          · exact Alarm.before_irrefl _
          · rw [foldr_earlier_eq_none later] at behind
            cases behind
        · rw [later, earlier] at found
          split at found
          next sooner =>
              cases found
              rcases List.mem_cons.mp member with rfl | behind
              · rw [Bool.eq_false_iff, Ne, Alarm.before_iff]
                rw [Alarm.before_iff] at sooner
                omega
              · exact ih _ later timer behind
          next late =>
              cases found
              rcases List.mem_cons.mp member with rfl | behind
              · exact Alarm.before_irrefl _
              · exact Alarm.not_before_trans (Bool.eq_false_iff.mpr late) (ih _ later timer behind)
  exact least _ _ next _ (mem_armedTimers.mpr armed)

/-- Where there is no next alarm, nothing is armed. -/
theorem alarm?_of_nextAlarm?_none (none : kernel.nextAlarm? = none) (fd : Descriptor) :
    kernel.alarm? fd = Option.none := by
  rcases armed : kernel.alarm? fd with _ | alarm
  · rfl
  · have member := mem_armedTimers.mpr armed
    rw [foldr_earlier_eq_none none] at member
    cases member

/-! ## Going off -/

theorem resource?_wake (kernel : Kernel) (fd other : Descriptor) :
    (kernel.wake fd).resource? other =
      (kernel.resource? other).map fun resource =>
        match resource with
        | .readyList state =>
            if state.watches.contains fd then
              .readyList { state with queue := enqueue state.queue fd }
            else .readyList state
        | resource => resource := by
  rw [wake, wakeIf, resource?, resource?, Table.get?_mapValues]
  rcases kernel.opened.get? other with _ | ⟨resource, nonblocking, opening⟩
  · rfl
  · cases resource with
    | readyList state =>
        dsimp only [Option.map_some]
        rw [Table.contains]
        cases state.watches.get? fd <;> rfl
    | reader | writer | timer | file => rfl

theorem timer_wake {timer : Timer} : (kernel.wake fd).resource? fd' = some (.timer timer) ↔
    kernel.resource? fd' = some (.timer timer) := by
  rw [resource?_wake]
  rcases kernel.resource? fd' with _ | resource
  · rfl
  · cases resource with
    | readyList state =>
        dsimp only [Option.map_some]
        split <;> simp
    | reader | writer | timer | file => rfl

theorem alarm?_wake (kernel : Kernel) (fd fd' : Descriptor) :
    (kernel.wake fd).alarm? fd' = kernel.alarm? fd' := by
  rw [alarm?, alarm?, resource?_wake]
  rcases kernel.resource? fd' with _ | resource
  · rfl
  · cases resource with
    | readyList state =>
        dsimp only [Option.map_some]
        cases state.watches.contains fd <;> rfl
    | reader | writer | timer | file => rfl

theorem queueOf_wake (kernel : Kernel) (list fd : Descriptor) :
    (kernel.wake fd).queueOf list =
      if kernel.watch? list fd = none then kernel.queueOf list
      else enqueue (kernel.queueOf list) fd := by
  rw [queueOf, queueOf, readyList?, readyList?, watch?, readyList?, resource?_wake]
  rcases kernel.resource? list with _ | resource
  · rfl
  · cases resource with
    | readyList state =>
        dsimp only [Option.map_some]
        rw [Table.contains]
        rcases found : state.watches.get? fd with _ | watch <;> simp [found]
    | reader | writer | timer | file => rfl

/-- The kernel in which a timer has gone off. -/
theorem goOff_eq {timer : Timer} (timed : kernel.resource? fd = some (.timer timer)) (alarm : Alarm) :
    ∃ later, (timer.interval = 0 → later = ⟨none, 0, timer.count + 1⟩) ∧
      kernel.goOff fd alarm =
        ({ kernel with alarms := kernel.alarms + 1 }.setResource fd (.timer later)).wake fd := by
  refine
    ⟨{ (expire timer alarm kernel.now kernel.alarms).1 with
        count := (expire timer alarm kernel.now kernel.alarms).1.count +
          min (expire timer alarm kernel.now kernel.alarms).2 maxExpiries },
      fun once => ?_, by rw [goOff, timed]⟩
  have counted : min 1 maxExpiries = 1 := by decide
  have expired : expire timer alarm kernel.now kernel.alarms = ({ timer with alarm := none }, 1) :=
    if_pos once
  rw [expired]
  simp only [once, counted]

/-- Going off concerns one timer. -/
theorem aside_goOff (armed : kernel.alarm? fd = some alarm) :
    Aside list fd kernel (kernel.goOff fd alarm) := by
  rcases alarm?_eq_some armed with ⟨timer, timed, _⟩
  have stands := stands_goOff kernel fd alarm
  have watching (other : Descriptor) :
      (kernel.goOff fd alarm).watch? list other = kernel.watch? list other :=
    watch?_congr (stands.standing list) other
  have opening (other : Descriptor) :
      (kernel.goOff fd alarm).opening? other = kernel.opening? other := by
    rw [opening?_eq, opening?_eq, stands.standing]
  rcases goOff_eq timed alarm with ⟨later, -, gone⟩
  have others {other : Descriptor} (different : fd ≠ other) :=
    (resource?_setTimer timed later other).trans (if_neg different)
  have queue : (kernel.goOff fd alarm).queueOf list = kernel.queueOf list ∨
      (kernel.goOff fd alarm).queueOf list = enqueue (kernel.queueOf list) fd := by
    rw [gone, queueOf_wake, queueOf_setTimer timed]
    split
    · exact .inl rfl
    · exact .inr rfl
  refine
    { now := ?_
      timers := fun other state different found => ?_
      alarms := ?_
      armed := fun other different => ?_
      watching := fun other _ => watching other
      queue := ?_
      opened := fun opened other member => ?_
      faults := ?_
      limit := ?_ }
  · rw [gone]
    rfl
  · rw [gone, timer_wake, others different]
    exact found
  · rw [gone]
    exact Nat.le_succ _
  · rw [gone, alarm?_wake]
    exact alarm?_congr (others different)
  · rcases queue with same | queued
    · rw [same]
    · rw [queued, filter_enqueue]
  · rw [opening]
    rcases queue with same | queued
    · rw [same] at member
      exact opened other member
    · rw [queued, mem_enqueue] at member
      rcases member with old | rfl
      · exact opened other old
      · exact opening?_of_resource timed
  · rw [gone]
    exact id
  · rw [gone]
    rfl

/-! ## The line -/

/-- When which timers are due, with their numbers. -/
abbrev Dues := Descriptor → Option Alarm

/-- The dues of all but one. -/
def Dues.without (dues : Dues) (fd : Descriptor) : Dues :=
  fun other => if other = fd then none else dues other

/-- The dues with one more. -/
def Dues.put (dues : Dues) (fd : Descriptor) (due : Alarm) : Dues :=
  fun other => if other = fd then some due else dues other

/-- The dues of all but some. -/
def Dues.outside (dues : Dues) (fds : List Descriptor) : Dues :=
  fun other => if other ∈ fds then none else dues other

/-- A timer that rings once is armed for the time at which it is due. -/
def Pends (kernel : Kernel) (fd : Descriptor) (due : Alarm) : Prop :=
  ∃ serial, serial < kernel.alarms ∧
    kernel.resource? fd = some (.timer ⟨some ⟨due.expiry, serial⟩, 0, 0⟩)

/-- A timer that rings once has gone off at the time at which it was due. -/
def Lapsed (kernel : Kernel) (fd : Descriptor) (due : Alarm) : Prop :=
  due.expiry ≤ kernel.now ∧
    ∃ count, 0 < count ∧ kernel.resource? fd = some (.timer ⟨none, 0, count⟩)

/-- Timers that are due stand in line for a readiness list: those that have gone off are queued
in order, and the others, which are armed still, come after them. -/
structure Lined (kernel : Kernel) (list : Descriptor) (dues : Dues) : Prop where
  watched : ∀ fd due, dues fd = some due →
    ∃ token, kernel.watch? list fd = some ⟨token, Interest.readable.requested⟩
  opened : ∀ fd ∈ kernel.queueOf list, kernel.opening? fd ≠ none
  pends : ∀ fd due, dues fd = some due → fd ∉ kernel.queueOf list → kernel.Pends fd due
  lapsed : ∀ fd due, dues fd = some due → fd ∈ kernel.queueOf list → kernel.Lapsed fd due
  sorted : ((kernel.queueOf list).filterMap dues).Pairwise fun due due' => due.before due' = true
  ahead : ∀ fd fd' due due', dues fd = some due → dues fd' = some due' →
    fd ∈ kernel.queueOf list → fd' ∉ kernel.queueOf list → due.before due' = true
  apart : ∀ fd fd' due due', dues fd = some due → dues fd' = some due' →
    due.serial = due'.serial → fd = fd'
  armed : ∀ fd fd' due due' alarm alarm', dues fd = some due → dues fd' = some due' →
    kernel.alarm? fd = some alarm → kernel.alarm? fd' = some alarm' →
    due.before due' = alarm.before alarm'

theorem Pends.alarm? (pends : kernel.Pends fd due) :
    ∃ serial, kernel.alarm? fd = some ⟨due.expiry, serial⟩ := by
  rcases pends with ⟨serial, _, timed⟩
  exact ⟨serial, alarm?_of_timer timed⟩

theorem Lapsed.alarm? (lapsed : kernel.Lapsed fd due) : kernel.alarm? fd = none := by
  rcases lapsed with ⟨_, count, _, timed⟩
  exact alarm?_of_timer timed

/-- What is left of a list where less is selected. -/
theorem filterMap_sublist {α β : Type} {fewer all : α → Option β}
    (weaker : ∀ a b, fewer a = some b → all a = some b) (values : List α) :
    (values.filterMap fewer).Sublist (values.filterMap all) := by
  induction values with
  | nil => exact List.Sublist.refl _
  | cons head rest ih =>
      rw [List.filterMap_cons, List.filterMap_cons]
      cases selected : fewer head with
      | some value =>
          rw [weaker head value selected]
          exact ih.cons_cons value
      | none =>
          cases all head with
          | none => exact ih
          | some value => exact ih.cons value

namespace Lined

variable {dues fewer : Dues}

/-- Timers may leave the line. -/
theorem leave (lined : Lined kernel list dues)
    (weaker : ∀ fd due, fewer fd = some due → dues fd = some due) : Lined kernel list fewer where
  watched fd due found := lined.watched fd due (weaker fd due found)
  opened := lined.opened
  pends fd due found := lined.pends fd due (weaker fd due found)
  lapsed fd due found := lined.lapsed fd due (weaker fd due found)
  sorted := lined.sorted.sublist (filterMap_sublist weaker _)
  ahead fd fd' due due' found found' :=
    lined.ahead fd fd' due due' (weaker fd due found) (weaker fd' due' found')
  apart fd fd' due due' found found' :=
    lined.apart fd fd' due due' (weaker fd due found) (weaker fd' due' found')
  armed fd fd' due due' alarm alarm' found found' :=
    lined.armed fd fd' due due' alarm alarm' (weaker fd due found) (weaker fd' due' found')

/-- What has no due is nothing to the line. -/
theorem filterMap_without (undue : dues fd = none) (queue : List Descriptor) :
    (queue.filter (· ≠ fd)).filterMap dues = queue.filterMap dues := by
  rw [List.filterMap_filter]
  congr 1
  funext other
  by_cases same : other = fd
  · rw [same, undue]
    simp
  · simp [same]

theorem queue_aside (undue : dues fd = none) (aside : Aside list fd kernel after) :
    (after.queueOf list).filterMap dues = (kernel.queueOf list).filterMap dues := by
  rw [← filterMap_without undue, aside.queue, filterMap_without undue]

theorem ne_of_due (undue : dues fd = none) (found : dues fd' = some due) : fd ≠ fd' := by
  rintro rfl
  rw [undue] at found
  cases found

/-- What is done to a descriptor beside the line. -/
theorem aside (lined : Lined kernel list dues) (undue : dues fd = none)
    (aside : Aside list fd kernel after) : Lined after list dues := by
  have queued {other : Descriptor} {due : Alarm} (found : dues other = some due) :
      other ∈ after.queueOf list ↔ other ∈ kernel.queueOf list :=
    aside.mem_queueOf (ne_of_due undue found)
  constructor
  case watched =>
      intro other due found
      rw [aside.watching other (ne_of_due undue found)]
      exact lined.watched other due found
  case opened => exact aside.opened lined.opened
  case pends =>
      intro other due found absent
      rcases lined.pends other due found (mt (queued found).mpr absent) with ⟨serial, early, timed⟩
      exact ⟨serial, Nat.lt_of_lt_of_le early aside.alarms,
        aside.timers other _ (ne_of_due undue found) timed⟩
  case lapsed =>
      intro other due found present
      rcases lined.lapsed other due found ((queued found).mp present) with
        ⟨past, count, positive, timed⟩
      refine ⟨?_, count, positive, aside.timers other _ (ne_of_due undue found) timed⟩
      rw [aside.now]
      exact past
  case sorted =>
      rw [queue_aside undue aside]
      exact lined.sorted
  case ahead =>
      intro other other' due due' found found' present absent
      exact lined.ahead other other' due due' found found' ((queued found).mp present)
        (mt (queued found').mpr absent)
  case apart => exact lined.apart
  case armed =>
      intro other other' due due' alarm alarm' found found' armed armed'
      rw [aside.armed other (ne_of_due undue found)] at armed
      rw [aside.armed other' (ne_of_due undue found')] at armed'
      exact lined.armed other other' due due' alarm alarm' found found' armed armed'

/-! ## Entering -/

theorem without_self (dues : Dues) (fd : Descriptor) : dues.without fd fd = none :=
  if_pos rfl

theorem without_of_ne (dues : Dues) (different : fd' ≠ fd) : dues.without fd fd' = dues fd' :=
  if_neg different

theorem due_of_without (found : dues.without fd fd' = some due) : fd' ≠ fd ∧ dues fd' = some due := by
  unfold Dues.without at found
  split at found
  · cases found
  next different => exact ⟨different, found⟩

theorem due_cases {due' : Alarm} (found : dues fd = some due) (found' : dues fd' = some due') :
    (fd' = fd ∧ due' = due) ∨ fd' ≠ fd ∧ dues.without fd fd' = some due' := by
  by_cases same : fd' = fd
  · subst same
    exact .inl ⟨rfl, Option.some.inj (found'.symm.trans found)⟩
  · exact .inr ⟨same, (without_of_ne dues same).trans found'⟩

/-- The dues that are queued are those of the others, where one is not queued. -/
theorem filterMap_of_absent {queue : List Descriptor} (absent : fd ∉ queue) :
    queue.filterMap dues = queue.filterMap (dues.without fd) := by
  refine List.filterMap_congr fun other member => (without_of_ne dues ?_).symm
  rintro rfl
  exact absent member

/-- A timer enters the line where it belongs: it is armed, or it has just been queued, and all
that are queued before it are due before it. -/
theorem enter (lined : Lined kernel list (dues.without fd)) (found : dues fd = some due)
    (watched : ∃ token, kernel.watch? list fd = some ⟨token, Interest.readable.requested⟩)
    (place : fd ∉ kernel.queueOf list ∧ kernel.Pends fd due ∨
      (∃ queue, kernel.queueOf list = queue ++ [fd] ∧ fd ∉ queue) ∧ kernel.Lapsed fd due)
    (behind : ∀ fd' due', fd' ≠ fd → dues fd' = some due' → fd' ∈ kernel.queueOf list →
      due'.before due = true)
    (ahead : fd ∈ kernel.queueOf list → ∀ fd' due', dues fd' = some due' →
      fd' ∉ kernel.queueOf list → due.before due' = true)
    (apart : ∀ fd' due', fd' ≠ fd → dues fd' = some due' → due'.serial ≠ due.serial)
    (armed : ∀ fd' due' alarm alarm', fd' ≠ fd → dues fd' = some due' →
      kernel.alarm? fd = some alarm → kernel.alarm? fd' = some alarm' →
      due.before due' = alarm.before alarm' ∧ due'.before due = alarm'.before alarm) :
    Lined kernel list dues := by
  constructor
  case watched =>
      intro fd' due' found'
      rcases due_cases found found' with ⟨rfl, -⟩ | ⟨-, left'⟩
      · exact watched
      · exact lined.watched fd' due' left'
  case opened => exact lined.opened
  case pends =>
      intro fd' due' found' absent
      rcases due_cases found found' with ⟨rfl, rfl⟩ | ⟨-, left'⟩
      · rcases place with ⟨_, pends⟩ | ⟨⟨queue, queued, _⟩, _⟩
        · exact pends
        · rw [queued] at absent
          exact absurd (List.mem_append_right queue List.mem_cons_self) absent
      · exact lined.pends fd' due' left' absent
  case lapsed =>
      intro fd' due' found' present
      rcases due_cases found found' with ⟨rfl, rfl⟩ | ⟨-, left'⟩
      · rcases place with ⟨absent, _⟩ | ⟨_, lapsed⟩
        · exact absurd present absent
        · exact lapsed
      · exact lined.lapsed fd' due' left' present
  case sorted =>
      rcases place with ⟨absent, _⟩ | ⟨⟨queue, queued, absent⟩, _⟩
      · rw [filterMap_of_absent absent]
        exact lined.sorted
      · have sorted := lined.sorted
        rw [queued, List.filterMap_append, ← filterMap_of_absent absent] at sorted
        rw [queued, List.filterMap_append, List.pairwise_append]
        refine ⟨(List.pairwise_append.mp sorted).1, ?_, fun due' member last member' => ?_⟩
        · simp [found]
        · rcases List.mem_filterMap.mp member with ⟨fd', queued', found'⟩
          have there : last = due := by simpa [found] using member'
          rw [there]
          refine behind fd' due' (fun here => absent (here ▸ queued')) found' ?_
          rw [queued]
          exact List.mem_append_left _ queued'
  case ahead =>
      intro fd₁ fd₂ due₁ due₂ found₁ found₂ present absent
      rcases due_cases found found₁ with ⟨rfl, rfl⟩ | ⟨first, left₁⟩
      · exact ahead present fd₂ due₂ found₂ absent
      · rcases due_cases found found₂ with ⟨rfl, rfl⟩ | ⟨-, left₂⟩
        · exact behind fd₁ due₁ first found₁ present
        · exact lined.ahead fd₁ fd₂ due₁ due₂ left₁ left₂ present absent
  case apart =>
      intro fd₁ fd₂ due₁ due₂ found₁ found₂ serial
      rcases due_cases found found₁ with ⟨rfl, rfl⟩ | ⟨first, left₁⟩ <;>
        rcases due_cases found found₂ with ⟨rfl, rfl⟩ | ⟨second, left₂⟩
      · rfl
      · exact absurd serial.symm (apart fd₂ due₂ second found₂)
      · exact absurd serial (apart fd₁ due₁ first found₁)
      · exact lined.apart fd₁ fd₂ due₁ due₂ left₁ left₂ serial
  case armed =>
      intro fd₁ fd₂ due₁ due₂ alarm₁ alarm₂ found₁ found₂ armed₁ armed₂
      rcases due_cases found found₁ with ⟨rfl, rfl⟩ | ⟨first, left₁⟩ <;>
        rcases due_cases found found₂ with ⟨rfl, rfl⟩ | ⟨second, left₂⟩
      · rw [Option.some.inj (armed₁.symm.trans armed₂), Alarm.before_irrefl, Alarm.before_irrefl]
      · exact (armed fd₂ due₂ alarm₁ alarm₂ second found₂ armed₁ armed₂).1
      · exact (armed fd₁ due₁ alarm₂ alarm₁ first found₁ armed₂ armed₁).2
      · exact lined.armed fd₁ fd₂ due₁ due₂ alarm₁ alarm₂ left₁ left₂ armed₁ armed₂

theorem without_put (undue : dues fd = none) (due : Alarm) : (dues.put fd due).without fd = dues := by
  funext other
  unfold Dues.without Dues.put
  split
  next same => rw [same, undue]
  next => rfl

theorem put_of_ne (dues : Dues) (due : Alarm) (different : fd' ≠ fd) :
    dues.put fd due fd' = dues fd' :=
  if_neg different

theorem due_of_put {due' : Alarm} (found : dues.put fd due fd' = some due') :
    (fd' = fd ∧ due' = due) ∨ fd' ≠ fd ∧ dues fd' = some due' := by
  unfold Dues.put at found
  split at found
  next same => exact .inl ⟨same, (Option.some.inj found).symm⟩
  next different => exact .inr ⟨different, found⟩

/-- A timer that has just been armed joins the line. -/
theorem join (lined : Lined kernel list dues) (undue : dues fd = none)
    (aside : Aside list fd kernel after)
    (watched : ∃ token, after.watch? list fd = some ⟨token, Interest.readable.requested⟩)
    (absent : fd ∉ after.queueOf list) {serial : Nat}
    (timed : after.resource? fd = some (.timer ⟨some ⟨due.expiry, serial⟩, 0, 0⟩))
    (newest : kernel.alarms ≤ serial) (counted : serial < after.alarms)
    (later : after.now < due.expiry)
    (numbered : ∀ fd' due', dues fd' = some due' → due'.serial < due.serial) :
    Lined after list (dues.put fd due) := by
  have others := lined.aside undue aside
  have put {fd' : Descriptor} {due' : Alarm} (different : fd' ≠ fd)
      (found : dues.put fd due fd' = some due') : dues fd' = some due' :=
    (put_of_ne dues due different).symm.trans found
  have armed {fd' : Descriptor} {due' alarm' : Alarm} (found : dues fd' = some due')
      (armed : after.alarm? fd' = some alarm') :
      alarm'.expiry = due'.expiry ∧ alarm'.serial < serial := by
    rw [aside.armed fd' (ne_of_due undue found)] at armed
    by_cases queued : fd' ∈ kernel.queueOf list
    · rw [(lined.lapsed fd' due' found queued).alarm?] at armed
      cases armed
    · rcases lined.pends fd' due' found queued with ⟨serial', early, timed'⟩
      cases (alarm?_of_timer timed').symm.trans armed
      exact ⟨rfl, Nat.lt_of_lt_of_le early newest⟩
  rw [← without_put undue due] at others
  refine others.enter (if_pos rfl) watched (.inl ⟨absent, serial, counted, timed⟩)
    (fun fd' due' different found present => ?_) (fun present => absurd present absent)
    (fun fd' due' different found => Nat.ne_of_lt (numbered fd' due' (put different found)))
    (fun fd' due' alarm alarm' different found armed₁ armed₂ => ?_)
  · rw [without_put undue due] at others
    have past := (others.lapsed fd' due' (put different found) present).1
    rw [Alarm.before_iff]
    exact .inl (Nat.lt_of_le_of_lt past later)
  · cases (alarm?_of_timer timed).symm.trans armed₁
    have older := armed (put different found) armed₂
    have fewer := numbered fd' due' (put different found)
    constructor <;> rw [Bool.eq_iff_iff, Alarm.before_iff, Alarm.before_iff] <;> dsimp only <;> omega

/-! ## Time goes by -/

/-- A later kernel with the same descriptors. -/
theorem of_opened (lined : Lined kernel list dues) (opened : after.opened = kernel.opened)
    (passed : kernel.now ≤ after.now) (alarms : kernel.alarms ≤ after.alarms) :
    Lined after list dues := by
  have resource (fd : Descriptor) : after.resource? fd = kernel.resource? fd :=
    resource?_congr (by rw [opened])
  have listed := readyList?_congr (resource list)
  have queue : after.queueOf list = kernel.queueOf list := by rw [queueOf, queueOf, listed]
  constructor
  case watched =>
      intro fd due found
      rw [watch?_congr_list listed]
      exact lined.watched fd due found
  case opened =>
      intro fd member
      rw [queue] at member
      rw [opening?, opened]
      exact lined.opened fd member
  case pends =>
      intro fd due found absent
      rw [queue] at absent
      rcases lined.pends fd due found absent with ⟨serial, early, timed⟩
      exact ⟨serial, Nat.lt_of_lt_of_le early alarms, (resource fd).trans timed⟩
  case lapsed =>
      intro fd due found present
      rw [queue] at present
      rcases lined.lapsed fd due found present with ⟨past, count, positive, timed⟩
      exact ⟨Nat.le_trans past passed, count, positive, (resource fd).trans timed⟩
  case sorted =>
      rw [queue]
      exact lined.sorted
  case ahead =>
      rw [queue]
      exact lined.ahead
  case apart => exact lined.apart
  case armed =>
      intro fd fd' due due' alarm alarm' found found' armed armed'
      rw [alarm?_congr (resource fd)] at armed
      rw [alarm?_congr (resource fd')] at armed'
      exact lined.armed fd fd' due due' alarm alarm' found found' armed armed'

theorem moveTo (lined : Lined kernel list dues) (time : Nat) :
    Lined (kernel.moveTo time) list dues :=
  lined.of_opened rfl (Nat.le_max_left _ _) (Nat.le_refl _)

/-- The next timer that goes off is the next in line, if it is in line. -/
theorem goOff (lined : Lined kernel list dues) (next : kernel.nextAlarm? = some (fd, alarm))
    (past : alarm.expiry ≤ kernel.now) : Lined (kernel.goOff fd alarm) list dues := by
  have armed := nextAlarm?_alarm next
  have aside : Aside list fd kernel (kernel.goOff fd alarm) := aside_goOff armed
  cases found : dues fd with
  | none => exact lined.aside found aside
  | some due =>
      have absent : fd ∉ kernel.queueOf list := fun present => by
        rw [(lined.lapsed fd due found present).alarm?] at armed
        cases armed
      rcases lined.pends fd due found absent with ⟨serial, _, timed⟩
      have same : (⟨due.expiry, serial⟩ : Alarm) = alarm :=
        Option.some.inj ((alarm?_of_timer timed).symm.trans armed)
      rcases goOff_eq timed alarm with ⟨later, once, gone⟩
      cases once rfl
      rcases lined.watched fd due found with ⟨token, watched⟩
      have lapsed : (kernel.goOff fd alarm).resource? fd = some (.timer ⟨none, 0, 1⟩) := by
        rw [gone, timer_wake, resource?_setTimer timed, if_pos rfl]
      have queue : (kernel.goOff fd alarm).queueOf list = kernel.queueOf list ++ [fd] := by
        have listed : ({ kernel with alarms := kernel.alarms + 1 }.setResource fd
            (.timer ⟨none, 0, 1⟩)).watch? list fd = kernel.watch? list fd :=
          watch?_congr ((stands_setTimer timed).standing list) fd
        rw [gone, queueOf_wake, listed, watched, if_neg (Option.some_ne_none _),
          queueOf_setTimer timed, enqueue_of_not_mem absent]
      have others : Lined (kernel.goOff fd alarm) list (dues.without fd) :=
        (lined.leave fun other due found => (due_of_without found).2).aside (without_self dues fd) aside
      refine others.enter found ⟨token, ?_⟩ (.inr ⟨⟨_, queue, absent⟩, ?_, 1, Nat.one_pos, lapsed⟩)
        (fun fd' due' different found' present => ?_) (fun _ fd' due' found' absent' => ?_)
        (fun fd' due' different found' same => ?_) (fun fd' due' alarm₁ alarm₂ _ _ armed₁ _ => ?_)
      · rw [watch?_congr ((stands_goOff kernel fd alarm).standing list), watched]
      · rw [aside.now, ← congrArg Alarm.expiry same] at *
        exact past
      · exact lined.ahead fd' fd due' due found' found
          ((aside.mem_queueOf different.symm).mp present) absent
      · have away : fd ≠ fd' := by
          rintro rfl
          rw [queue] at absent'
          exact absent' (List.mem_append_right _ List.mem_cons_self)
        rw [aside.mem_queueOf away] at absent'
        rcases (lined.pends fd' due' found' absent').alarm? with ⟨serial', armed'⟩
        refine Alarm.before_of_not_before (fun same => away (lined.apart _ _ _ _ found found' same)) ?_
        rw [lined.armed fd' fd due' due _ _ found' found armed' armed]
        exact nextAlarm?_first next armed'
      · exact different (lined.apart fd' fd due' due found' found same)
      · rw [alarm?_of_timer lapsed] at armed₁
        cases armed₁

theorem fireAtMost (lined : Lined kernel list dues) (fuel : Nat) :
    Lined (kernel.fireAtMost fuel) list dues := by
  induction fuel generalizing kernel with
  | zero => exact lined
  | succ fuel ih =>
      unfold Kernel.fireAtMost
      split
      next fd alarm next =>
          split
          next past => exact ih (lined.goOff next past)
          next => exact lined
      next => exact lined

theorem fire_at (lined : Lined kernel list dues) (time : Nat) :
    Lined (kernel.moveTo time).fire list dues :=
  (lined.moveTo time).fireAtMost _

theorem advance (lined : Lined kernel list dues) (nanos : Nat) :
    Lined (kernel.advance nanos) list dues :=
  lined.fire_at _

end Lined

end Kernel

end ScriptHost
