import Mathlib.Data.List.Perm.Subperm
import ScriptHost.Proofs.Loop.Joining
import ScriptHost.Proofs.Loop.OneShot

/-!
# What has become of timers

Where timers ring once and their callbacks start no others, the history of a loop says what has
become of each of them: it has rung, or it was called off before it rang, or it is live.  What
has rung has rung once, and what was called off neither rings nor is live.
-/

namespace ScriptHost

open Kernel

variable {σ : Type} {history later : List Event} {event : Event} {id : Nat} {timer : TimerHandle}

/-! ## Histories -/

/-- Events that are not about the timers of a loop.  Handlers of it may be started, but only for
the registrations that their events were reported for. -/
def Event.IsRemark (id : Nat) : Event → Prop
  | armed id' .. | ringing id' .. | cancelled id' .. => id' ≠ id
  | handling delivery => delivery.reactor = id → delivery.reported = some delivery.serial
  | _ => True

theorem Event.IsRemark.isAside (remark : event.IsRemark id) : event.IsAside id := by
  cases event <;> trivial

theorem Event.isRemark_of_part (other : event.part ≠ .loops) (id : Nat) : event.IsRemark id := by
  cases event <;> trivial

/-- A timer was cancelled before it rang. -/
def CalledOff (history : List Event) (id : Nat) (timer : TimerHandle) : Prop :=
  ∃ before after, history = before ++ .cancelled id timer :: after ∧ startsOf before id timer = 0

theorem calledOff_concat :
    CalledOff (history ++ [event]) id timer ↔ CalledOff history id timer ∨
      event = .cancelled id timer ∧ startsOf history id timer = 0 := by
  constructor
  · rintro ⟨before, after, split, unrung⟩
    rcases List.eq_nil_or_concat after with rfl | ⟨rest, last, rfl⟩
    · rcases List.append_inj' split rfl with ⟨rfl, same⟩
      exact .inr ⟨List.singleton_inj.mp same, unrung⟩
    · rw [List.concat_eq_append, ← List.cons_append, ← List.append_assoc] at split
      exact .inl ⟨before, rest, (List.append_inj' split rfl).1, unrung⟩
  · rintro (⟨before, after, rfl, unrung⟩ | ⟨rfl, unrung⟩)
    · exact ⟨before, after ++ [event], by rw [List.append_assoc, List.cons_append], unrung⟩
    · exact ⟨history, [], rfl, unrung⟩

theorem startsOf_ringing (timer other : TimerHandle) (time : Nat) :
    startsOf (history ++ [.ringing id timer time]) id other =
      startsOf history id other + if timer = other then 1 else 0 := by
  unfold startsOf
  rw [List.countP_append, List.countP_singleton]
  simp only [true_and, decide_eq_true_eq]

namespace Reactor

/-- A descriptor is that of at most one live timer. -/
theorem eq_of_isLive {timers : Timers} {other : TimerHandle} (live : isLive timers timer = true)
    (live' : isLive timers other = true) (same : timer.fd = other.fd) : timer = other := by
  rcases isLive_iff.mp live with ⟨_, found⟩
  rcases isLive_iff.mp live' with ⟨_, found'⟩
  rw [same] at found
  exact TimerHandle.ext same (congrArg LiveTimer.id (Option.some.inj (found.symm.trans found')))

/-- What has become of the timers that were started on a loop, with their callbacks.  Those that
have rung are listed in the order in which they rang. -/
structure Ledger (started : List (TimerHandle × Script σ)) (rung : List TimerHandle) (id : Nat)
    (reactor : Reactor (Handler σ)) (history : List Event) : Prop where
  /-- What is registered was started with its callback. -/
  own : ∀ fd registration timer callback, reactor.loop.registrations.get? fd = some registration →
    registration.handler = .timer timer false callback → (timer, callback) ∈ started
  numbered : ∀ start ∈ started, start.1.id < reactor.timers.nextId
  distinct : (started.map Prod.fst).Nodup
  among : ∀ timer ∈ rung, timer ∈ started.map Prod.fst
  once : rung.Nodup
  starts : ∀ timer, startsOf history id timer = rung.count timer
  fate : ∀ timer ∈ started.map Prod.fst,
    isLive reactor.timers timer = true ∨ timer ∈ rung ∨ CalledOff history id timer
  apart : ∀ timer ∈ rung, ¬CalledOff history id timer
  /-- What was called off is not live, nor will it be. -/
  gone : ∀ timer, CalledOff history id timer →
    timer.id < reactor.timers.nextId ∧ isLive reactor.timers timer = false

namespace Ledger

variable {started : List (TimerHandle × Script σ)} {rung : List TimerHandle} {kernel : Kernel}
  {reactor after : Reactor (Handler σ)} {fd : Descriptor} {callback : Script σ}

/-- Each of the timers rings at most once, so there are not more turns than timers. -/
theorem length_le (ledger : Ledger started rung id reactor history) : rung.length ≤ started.length := by
  have fewer := (List.Nodup.subperm ledger.once ledger.among).length_le
  rwa [List.length_map] at fewer

/-- Nothing has become of anything yet. -/
theorem blank (poller : Poller) (unheard : ∀ event ∈ history, event.IsRemark id) :
    Ledger (σ := σ) [] [] id (.blank poller) history := by
  have off (timer : TimerHandle) : ¬CalledOff history id timer := by
    rintro ⟨before, after, rfl, -⟩
    exact unheard (.cancelled id timer) (List.mem_append_right _ List.mem_cons_self) rfl
  exact
    { own := nofun
      numbered := nofun
      distinct := .nil
      among := nofun
      once := .nil
      starts := fun timer => startsOf_eq_zero.mpr fun time rang => unheard _ rang rfl
      fate := nofun
      apart := nofun
      gone := fun timer called => absurd called (off timer) }

/-- News that no timer of this loop has rung or was cancelled. -/
theorem told (ledger : Ledger started rung id reactor history)
    (unrung : ∀ timer time, event ≠ .ringing id timer time)
    (kept : ∀ timer, event ≠ .cancelled id timer) :
    Ledger started rung id reactor (history ++ [event]) := by
  have same (timer : TimerHandle) :
      CalledOff (history ++ [event]) id timer ↔ CalledOff history id timer :=
    calledOff_concat.trans (or_iff_left fun cancelled => kept timer cancelled.1)
  exact
    { ledger with
      starts := fun timer => (startsOf_concat_of_ne (unrung timer)).trans (ledger.starts timer)
      fate := fun timer member => by
        rw [same]
        exact ledger.fate timer member
      apart := fun timer member => by
        rw [same]
        exact ledger.apart timer member
      gone := fun timer off => ledger.gone timer ((same timer).mp off) }

/-- A loop with the same registrations and timers. -/
theorem of_same (ledger : Ledger started rung id reactor history)
    (registrations : after.loop.registrations = reactor.loop.registrations)
    (timers : after.timers = reactor.timers) : Ledger started rung id after history := by
  constructor
  case own => rw [registrations]; exact ledger.own
  case numbered => rw [timers]; exact ledger.numbered
  case fate => rw [timers]; exact ledger.fate
  case gone => rw [timers]; exact ledger.gone
  case distinct => exact ledger.distinct
  case among => exact ledger.among
  case once => exact ledger.once
  case starts => exact ledger.starts
  case apart => exact ledger.apart

/-- A timer is released that has rung or, as the history says by then, was called off. -/
theorem released (ledger : Ledger started rung id reactor history)
    (released : Released timer.fd reactor after) (live : isLive reactor.timers timer = true)
    (starts : ∀ other, startsOf later id other = startsOf history id other)
    (off : ∀ other, CalledOff later id other ↔
      CalledOff history id other ∨ other = timer ∧ timer ∉ rung)
    (numbered : timer.id < reactor.timers.nextId) : Ledger started rung id after later := by
  constructor
  case own =>
      intro fd registration timer callback found
      rw [released.registrations] at found
      split at found
      · cases found
      · exact ledger.own fd registration timer callback found
  case numbered =>
      rw [released.ids]
      exact ledger.numbered
  case distinct => exact ledger.distinct
  case among => exact ledger.among
  case once => exact ledger.once
  case starts => exact fun other => (starts other).trans (ledger.starts other)
  case fate =>
      intro other member
      rw [off, isLive_released released]
      rcases ledger.fate other member with live' | rang | before
      · split
        next here =>
            have same : other = timer := eq_of_isLive live' live here.symm
            by_cases rang : other ∈ rung
            · exact .inr (.inl rang)
            · exact .inr (.inr (.inr ⟨same, same ▸ rang⟩))
        next => exact .inl live'
      · exact .inr (.inl rang)
      · exact .inr (.inr (.inl before))
  case apart =>
      intro other member called
      rcases (off other).mp called with before | ⟨rfl, unrung⟩
      · exact ledger.apart other member before
      · exact unrung member
  case gone =>
      intro other called
      rw [released.ids, isLive_released released]
      rcases (off other).mp called with before | ⟨rfl, -⟩
      · refine ⟨(ledger.gone other before).1, ?_⟩
        split
        · rfl
        · exact (ledger.gone other before).2
      · exact ⟨numbered, if_pos rfl⟩

/-- A timer is cancelled. -/
theorem cancelled (ledger : Ledger started rung id reactor history)
    (released : Released timer.fd reactor after) (live : isLive reactor.timers timer = true)
    (numbered : timer.id < reactor.timers.nextId) :
    Ledger started rung id after (history ++ [.cancelled id timer]) := by
  refine ledger.released released live (fun other => startsOf_concat_of_ne nofun)
    (fun other => ?_) numbered
  rw [calledOff_concat, ledger.starts, List.count_eq_zero]
  refine or_congr_right ⟨?_, ?_⟩
  · rintro ⟨same, unrung⟩
    cases same
    exact ⟨rfl, unrung⟩
  · rintro ⟨rfl, unrung⟩
    exact ⟨rfl, unrung⟩

/-- A timer is settled that has rung. -/
theorem settled (ledger : Ledger started rung id reactor history)
    (released : Released timer.fd reactor after) (live : isLive reactor.timers timer = true)
    (rang : timer ∈ rung) (numbered : timer.id < reactor.timers.nextId) :
    Ledger started rung id after history := by
  refine ledger.released released live (fun _ => rfl) (fun other => ?_) numbered
  refine (or_iff_left ?_).symm
  rintro ⟨rfl, unrung⟩
  exact unrung rang

/-- A timer that is live rings for the first time. -/
theorem rings (ledger : Ledger started rung id reactor history)
    (live : isLive reactor.timers timer = true) (start : timer ∈ started.map Prod.fst)
    (unrung : timer ∉ rung) (time : Nat) :
    Ledger started (rung ++ [timer]) id reactor (history ++ [.ringing id timer time]) := by
  have same (other : TimerHandle) :
      CalledOff (history ++ [.ringing id timer time]) id other ↔ CalledOff history id other :=
    calledOff_concat.trans (or_iff_left nofun)
  refine
    { ledger with
      among := fun other member => ?_
      once := List.nodup_append.mpr ⟨ledger.once, List.pairwise_singleton _ _, ?_⟩
      starts := fun other => ?_
      fate := fun other member => ?_
      apart := fun other member => ?_
      gone := fun other off => ledger.gone other ((same other).mp off) }
  · rcases List.mem_append.mp member with before | now
    · exact ledger.among other before
    · rw [List.mem_singleton.mp now]
      exact start
  · rintro other member _ now rfl
    rw [List.mem_singleton.mp now] at member
    exact unrung member
  · rw [startsOf_ringing, ledger.starts, List.count_append, List.count_singleton]
    simp only [beq_iff_eq]
  · rw [same, List.mem_append]
    rcases ledger.fate other member with live | rang | off
    · exact .inl live
    · exact .inr (.inl (.inl rang))
    · exact .inr (.inr off)
  · rw [same]
    rcases List.mem_append.mp member with before | now
    · exact ledger.apart other before
    · rw [List.mem_singleton.mp now]
      exact fun off => Bool.false_ne_true ((ledger.gone timer off).2.symm.trans live)

/-- One more timer is started. -/
theorem joined (ledger : Ledger started rung id reactor history)
    (dead : reactor.timers.live.get? fd = none)
    (enrolled : Enrolled kernel fd false callback reactor after) :
    Ledger ((reactor.nextTimer fd, callback) :: started) rung id after history := by
  refine
    { ledger with
      own := fun other registration timer callback' found handles => ?_
      numbered := fun start member => ?_
      distinct := List.nodup_cons.mpr ⟨fun member => ?_, ledger.distinct⟩
      among := fun timer member => List.mem_cons_of_mem _ (ledger.among timer member)
      fate := fun timer member => ?_
      gone := fun timer off => ?_ }
  · rw [enrolled.registrations] at found
    split at found
    · cases found
      cases handles
      exact List.mem_cons_self
    · exact List.mem_cons_of_mem _ (ledger.own other registration timer callback' found handles)
  · rw [enrolled.ids]
    rcases List.mem_cons.mp member with rfl | before
    · exact Nat.lt_succ_self _
    · exact Nat.lt_succ_of_lt (ledger.numbered start before)
  · rcases List.mem_map.mp member with ⟨start, before, same⟩
    have older := ledger.numbered start before
    rw [same] at older
    exact Nat.lt_irrefl _ older
  · rcases List.mem_cons.mp member with rfl | before
    · exact .inl enrolled.next_live
    · exact (ledger.fate timer before).imp_left (enrolled.stays_live dead)
  · rcases ledger.gone timer off with ⟨older, unlive⟩
    rw [enrolled.ids]
    refine ⟨Nat.lt_succ_of_lt older, Bool.eq_false_iff.mpr fun live => ?_⟩
    rcases isLive_iff.mp live with ⟨_, found⟩
    rcases enrolled.live_cases found with ⟨-, same⟩ | ⟨-, before⟩
    · exact Nat.ne_of_lt older (congrArg LiveTimer.id same)
    · exact Bool.false_ne_true (unlive.symm.trans (isLive_iff.mpr ⟨_, before⟩))

end Ledger

end Reactor

end ScriptHost
