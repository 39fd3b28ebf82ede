import Mathlib.Order.Defs.Unbundled
import ScriptHost.Kernel.ReadyList

/-!
# How timers go on

A timer that was armed at some time expires one delay later, and then at every
further delay if it repeats.  The kernel keeps the time of the next expiry and the
number of those that were not read yet; how many there were in all is not kept, but
it can be told from outside.  As long as nobody closes a timer or arms it again, it
goes on: the clock does not go back, and there is something to be read from a timer
only if it has expired.
-/

namespace ScriptHost.Kernel

variable {kernel after : Kernel} {fd : Descriptor} {touched : Descriptor → Prop}

/-! ## One timer -/

namespace Timer

/-- A timer that was armed at a time, for a delay, has expired so many times. -/
structure Expired (timer : Timer) (start delay : Nat) (isRepeating : Bool)
    (now expiries : Nat) : Prop where
  interval : timer.interval = if isRepeating then delay else 0
  past : start + expiries * delay ≤ now
  next : ∀ alarm, timer.alarm = some alarm → alarm.expiry = start + (expiries + 1) * delay
  unread : 0 < timer.count → 0 < expiries

/-- However a timer was armed, it has expired at least as often at a later time, and more
often if there is something to be read and there was nothing before. -/
def GoesOn (now now' : Nat) (timer later : Timer) : Prop :=
  ∀ start delay isRepeating expiries, 0 < delay →
    timer.Expired start delay isRepeating now expiries →
    ∃ expiries', expiries ≤ expiries' ∧ later.Expired start delay isRepeating now' expiries' ∧
      (timer.count = 0 → 0 < later.count → expiries < expiries')

variable {now now' now'' : Nat} {timer middle later : Timer}

/-- A timer that has not gone off. -/
theorem goesOn_of_le (passed : now ≤ now') : GoesOn now now' timer timer := by
  intro start delay isRepeating expiries _ expired
  refine ⟨expiries, Nat.le_refl _, ⟨expired.interval, ?_, expired.next, expired.unread⟩, ?_⟩
  · exact Nat.le_trans expired.past passed
  · intro none some
    exact absurd some (Nat.not_lt_of_le (Nat.le_of_eq none))

theorem GoesOn.trans (first : GoesOn now now' timer middle)
    (second : GoesOn now' now'' middle later) : GoesOn now now'' timer later := by
  intro start delay isRepeating expiries positive expired
  rcases first start delay isRepeating expiries positive expired with ⟨more, le, expired', new⟩
  rcases second start delay isRepeating more positive expired' with ⟨most, le', expired'', new'⟩
  refine ⟨most, Nat.le_trans le le', expired'', fun none some => ?_⟩
  rcases Nat.eq_zero_or_pos middle.count with still | unread
  · exact Nat.lt_of_le_of_lt le (new' still some)
  · exact Nat.lt_of_lt_of_le (new none unread) le'

/-- A timer whose expiries have been read. -/
theorem goesOn_read (now : Nat) (timer : Timer) : GoesOn now now timer { timer with count := 0 } := by
  intro start delay isRepeating expiries _ expired
  refine ⟨expiries, Nat.le_refl _, ⟨expired.interval, expired.past, expired.next, ?_⟩, ?_⟩
  · exact fun none => absurd none (Nat.lt_irrefl 0)
  · exact fun _ none => absurd none (Nat.lt_irrefl 0)

/-- The expiries that have been missed since one that was due are over. -/
theorem expiry_add_mul_le {expiry : Nat} (due : expiry ≤ now) (delay : Nat) :
    expiry + (now - expiry) / delay * delay ≤ now := by
  have := Nat.div_mul_le_self (now - expiry) delay
  omega

/-- A timer that has gone off with an alarm that was due. -/
theorem goesOn_expire {alarm : Alarm} (armed : timer.alarm = some alarm)
    (due : alarm.expiry ≤ now) (serial : Nat) :
    GoesOn now now timer
      { (expire timer alarm now serial).1 with
        count := (expire timer alarm now serial).1.count +
          min (expire timer alarm now serial).2 maxExpiries } := by
  intro start delay isRepeating expiries positive expired
  have next := expired.next alarm armed
  unfold expire
  split
  next once =>
      refine ⟨expiries + 1, Nat.le_succ _, ⟨expired.interval, ?_, nofun, fun _ => Nat.succ_pos _⟩,
        fun _ _ => Nat.lt_succ_self _⟩
      rw [← next]
      exact due
  next again =>
      have same : timer.interval = delay := by
        cases isRepeating with
        | true => exact expired.interval
        | false => exact absurd expired.interval again
      rw [same]
      have most := expiry_add_mul_le due delay
      generalize (now - alarm.expiry) / delay = missed at most ⊢
      have later : start + (expiries + (1 + missed)) * delay = alarm.expiry + missed * delay := by
        rw [next, ← Nat.add_assoc, Nat.add_mul (expiries + 1), Nat.add_assoc]
      refine ⟨expiries + (1 + missed), Nat.le_add_right _ _,
        ⟨same ▸ expired.interval, later ▸ most, ?_, fun _ => by omega⟩, fun _ _ => by omega⟩
      rintro _ ⟨⟩
      dsimp only
      rw [Nat.succ_mul, ← Nat.add_assoc, later, Nat.add_mul, Nat.one_mul]
      omega

end Timer

/-! ## A kernel -/

/-- The clock has not gone back, and the timers that are not touched go on. -/
structure Ticks (touched : Descriptor → Prop) (before after : Kernel) : Prop where
  now : before.now ≤ after.now
  timers : ∀ fd timer, ¬touched fd → before.resource? fd = some (.timer timer) →
    ∃ later, after.resource? fd = some (.timer later) ∧ timer.GoesOn before.now after.now later

theorem resource?_eq_some {resource : Resource} (found : kernel.resource? fd = some resource) :
    ∃ opened, kernel.opened.get? fd = some opened ∧ opened.resource = resource :=
  Option.map_eq_some_iff.mp found

/-- A kernel with the same timers and the clock not behind. -/
theorem ticks_of_timers (passed : kernel.now ≤ after.now)
    (same : ∀ fd timer, ¬touched fd → kernel.resource? fd = some (.timer timer) →
      after.resource? fd = some (.timer timer)) : Ticks touched kernel after where
  now := passed
  timers fd timer untouched found :=
    ⟨timer, same fd timer untouched found, Timer.goesOn_of_le passed⟩

namespace Ticks

/-- A second call that touches only what the first may touch or what was not open. -/
theorem andThen {middle : Kernel} {touched' : Descriptor → Prop}
    (first : Ticks touched kernel middle) (second : Ticks touched' middle after)
    (within : ∀ fd, touched' fd → touched fd ∨ kernel.opening? fd = none) :
    Ticks touched kernel after where
  now := Nat.le_trans first.now second.now
  timers fd timer untouched found := by
    have untouched' : ¬touched' fd := by
      intro touched'
      rcases within fd touched' with here | closed
      · exact untouched here
      · rcases resource?_eq_some found with ⟨opened, there, _⟩
        rw [opening?, there] at closed
        cases closed
    rcases first.timers fd timer untouched found with ⟨middle, found', goes⟩
    rcases second.timers fd middle untouched' found' with ⟨later, found'', goes'⟩
    exact ⟨later, found'', goes.trans goes'⟩

theorem weaken {touched' : Descriptor → Prop} (ticks : Ticks touched kernel after)
    (weaker : ∀ fd, touched fd → touched' fd) : Ticks touched' kernel after where
  now := ticks.now
  timers fd timer untouched := ticks.timers fd timer fun here => untouched (weaker fd here)

/-- Where nothing is touched, nothing is beside what may be. -/
theorem beside (ticks : Ticks (fun _ => False) kernel after) : Ticks touched kernel after :=
  ticks.weaken fun _ impossible => impossible.elim

instance : IsPreorder Kernel (Ticks touched) where
  refl _ := ticks_of_timers (Nat.le_refl _) fun _ _ _ found => found
  trans _ _ _ first second := first.andThen second fun _ here => .inl here

end Ticks

theorem resource?_setResource (kernel : Kernel) (fd other : Descriptor) (resource : Resource) :
    (kernel.setResource fd resource).resource? other =
      if fd = other then (kernel.resource? other).map fun _ => resource
      else kernel.resource? other := by
  rw [resource?, resource?, setResource, Table.get?_modify]
  split
  · rw [Option.map_map, Option.map_map]
    rfl
  · rfl

/-- Setting what is behind a descriptor that is no timer. -/
theorem ticks_setResource {resource : Resource}
    (untimed : ∀ timer, kernel.resource? fd ≠ some (.timer timer)) :
    Ticks touched kernel (kernel.setResource fd resource) := by
  refine ticks_of_timers (Nat.le_refl _) fun other timer _ found => ?_
  rw [resource?_setResource, if_neg, found]
  rintro rfl
  exact untimed timer found

/-- Setting a timer to what it may come to. -/
theorem ticks_setTimer {timer later : Timer} (found : kernel.resource? fd = some (.timer timer))
    (goes : timer.GoesOn kernel.now kernel.now later) :
    Ticks touched kernel (kernel.setResource fd (.timer later)) := by
  refine ⟨Nat.le_refl _, fun other state _ found' => ?_⟩
  rw [resource?_setResource]
  split
  next same =>
      subst same
      rw [found] at found' ⊢
      cases found'
      exact ⟨later, rfl, goes⟩
  next => exact ⟨state, found', Timer.goesOn_of_le (Nat.le_refl _)⟩

/-- Changes of descriptors that leave timers alone. -/
theorem ticks_mapValues {change : Descriptor → Opened → Opened}
    (same : ∀ fd opened timer, opened.resource = .timer timer → change fd opened = opened) :
    Ticks touched kernel { kernel with opened := kernel.opened.mapValues change } := by
  refine ticks_of_timers (Nat.le_refl _) fun fd timer _ found => ?_
  rcases resource?_eq_some found with ⟨opened, there, timed⟩
  rw [resource?, Table.get?_mapValues, there, Option.map_some, same fd opened timer timed,
    Option.map_some, timed]

/-! ## Going off -/

theorem nextAlarm?_alarm {alarm : Alarm} (next : kernel.nextAlarm? = some (fd, alarm)) :
    kernel.alarm? fd = some alarm := by
  have among (armed : List (Descriptor × Alarm)) (first : Descriptor × Alarm)
      (earliest : armed.foldr earlier none = some first) : first ∈ armed := by
    induction armed generalizing first with
    | nil => cases earliest
    | cons head rest ih =>
        rw [List.foldr_cons] at earliest
        cases later : rest.foldr earlier none with
        | none =>
            rw [later] at earliest
            cases earliest
            exact List.mem_cons_self
        | some second =>
            rw [later, earlier] at earliest
            split at earliest
            · cases earliest
              exact List.mem_cons_of_mem head (ih _ later)
            · cases earliest
              exact List.mem_cons_self
  rcases List.mem_filterMap.mp (among _ _ next) with ⟨other, _, armed⟩
  rcases Option.map_eq_some_iff.mp armed with ⟨alarm', armed', same⟩
  cases same
  exact armed'

theorem alarm?_eq_some {alarm : Alarm} (armed : kernel.alarm? fd = some alarm) :
    ∃ timer, kernel.resource? fd = some (.timer timer) ∧ timer.alarm = some alarm := by
  unfold alarm? at armed
  split at armed
  next timer found => exact ⟨timer, found, armed⟩
  next => cases armed

theorem ticks_wakeIf (kernel : Kernel) (fd : Descriptor) (concerns : Watch → Bool) :
    Ticks touched kernel (kernel.wakeIf fd concerns) := by
  refine ticks_mapValues fun _ opened timer timed => ?_
  rw [timed]

theorem ticks_goOff {alarm : Alarm} (armed : kernel.alarm? fd = some alarm)
    (due : alarm.expiry ≤ kernel.now) : Ticks touched kernel (kernel.goOff fd alarm) := by
  rcases alarm?_eq_some armed with ⟨timer, found, same⟩
  have goes := Timer.goesOn_expire same due kernel.alarms
  unfold goOff
  rw [found]
  have counted : Ticks touched kernel { kernel with alarms := kernel.alarms + 1 } :=
    ticks_of_timers (Nat.le_refl _) fun _ _ _ found => found
  have set : Ticks touched { kernel with alarms := kernel.alarms + 1 } _ :=
    ticks_setTimer found goes
  exact trans_of (Ticks touched) counted (trans_of (Ticks touched) set (ticks_wakeIf _ fd _))

theorem ticks_fireAtMost (kernel : Kernel) (fuel : Nat) :
    Ticks touched kernel (kernel.fireAtMost fuel) := by
  induction fuel generalizing kernel with
  | zero => exact refl_of (Ticks touched) kernel
  | succ fuel ih =>
      unfold fireAtMost
      split
      next fd alarm next =>
          split
          next due =>
              exact trans_of (Ticks touched) (ticks_goOff (nextAlarm?_alarm next) due) (ih _)
          next => exact refl_of (Ticks touched) kernel
      next => exact refl_of (Ticks touched) kernel

end ScriptHost.Kernel
