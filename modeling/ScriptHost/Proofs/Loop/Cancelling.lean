import ScriptHost.Proofs.Loop.Deadlines
import ScriptHost.Proofs.Loop.Steps

/-!
# Cancelled timers

A timer that was cancelled is over.  It is not live on its reactor any more, its number has
been given and is not given again, and so it can neither be cancelled nor ring.  An event of
it may still wait in a batch, of this poll or of one further out, and its descriptor may be
that of another timer; but a callback is started only for a timer that is live.
-/

namespace ScriptHost

open World Kernel

variable {σ α : Type} {id : Nat} {timer : TimerHandle} {event : Event}

/-! ## Histories -/

/-- When timers may be cancelled and callbacks started, given what has happened. -/
def final (before : List Event) : Event → Prop
  | .cancelled id timer | .ringing id timer _ => .cancelled id timer ∉ before
  | _ => True

/-- Events that neither cancel a timer nor start its callback. -/
def Event.isCalm : Event → Bool
  | cancelled .. | ringing .. => false
  | _ => true

theorem final_of_calm (calm : event.isCalm = true) (before : List Event) : final before event := by
  cases event <;>
    first
    | exact absurd calm Bool.false_ne_true
    | exact trivial

theorem isCalm_of_part (elsewhere : event.part ≠ .loops) : event.isCalm = true := by
  cases event <;>
    first
    | rfl
    | exact absurd rfl elsewhere

/-- After a timer was cancelled it is neither cancelled nor does it ring. -/
theorem silence_of_cancelled {before after : List Event}
    (lawful : Lawful final (before ++ .cancelled id timer :: after)) :
    .cancelled id timer ∉ after ∧ ∀ time, .ringing id timer time ∉ after := by
  have allowed (event : Event) (member : event ∈ after) :
      ∃ earlier, .cancelled id timer ∈ earlier ∧ final earlier event := by
    rcases List.append_of_mem member with ⟨first, rest, rfl⟩
    refine ⟨before ++ .cancelled id timer :: first, by simp, lawful _ event rest ?_⟩
    rw [List.append_assoc, List.cons_append]
  constructor
  · intro again
    rcases allowed _ again with ⟨earlier, once, none⟩
    exact none once
  · intro time rings
    rcases allowed _ rings with ⟨earlier, once, none⟩
    exact none once

/-! ## Worlds -/

namespace World

/-- The journal has only grown, by events that neither cancel timers nor start callbacks. -/
def Quiet (before after : World σ) : Prop :=
  ∃ news, after.journal.toList = before.journal.toList ++ news ∧
    ∀ event ∈ news, event.isCalm = true

instance : IsPreorder (World σ) Quiet where
  refl _ := ⟨[], (List.append_nil _).symm, nofun⟩
  trans _ _ _ := by
    rintro ⟨news, grown, calm⟩ ⟨news', grown', calm'⟩
    refine ⟨news ++ news', ?_, fun event member => ?_⟩
    · rw [grown', grown, List.append_assoc]
    · rcases List.mem_append.mp member with first | second
      · exact calm event first
      · exact calm' event second

variable {before after world : World σ}

theorem quiet_of_journal (same : after.journal = before.journal) : Quiet before after := by
  refine ⟨[], ?_, nofun⟩
  rw [same, List.append_nil]

theorem quiet_tell (calm : event.isCalm = true) : Keeps Quiet (tell event : Action σ Unit) := by
  refine fun world => ⟨[event], journal_tell event world, fun other member => ?_⟩
  rw [List.mem_singleton.mp member]
  exact calm

theorem quiet_of_changes {part : Part} (other : part ≠ .loops) (changes : Changes part before after) :
    Quiet before after := by
  rcases changes.journal with ⟨news, grown, about⟩
  refine ⟨news, grown, fun event member => ?_⟩
  rcases about event member with same | rest
  · exact isCalm_of_part (same ▸ other)
  · exact isCalm_of_part (by rw [rest]; exact Part.noConfusion)

theorem quiet_onReactor (call : ReactorCall (Handler σ) α) : Keeps Quiet (onReactor id call) := by
  intro world
  rcases onReactor_outcome id call world with same | ⟨reactor, -, same⟩ <;> rw [same]
  · exact refl_of Quiet world
  · exact quiet_of_journal rfl

theorem quiet_changeLoop (f : EventLoop (Handler σ) → EventLoop (Handler σ)) :
    Keeps Quiet (changeLoop id f) :=
  fun _ => quiet_of_journal rfl

theorem quiet_newReactor (capacity : Nat) : Keeps Quiet (newReactor capacity : Action σ Nat) := by
  intro world
  rcases newReactor_outcome capacity world with ⟨kernel, -, same⟩ | ⟨kernel, fd, -, -, same⟩ <;>
    rw [same] <;> exact quiet_of_journal rfl

theorem quiet_schedule (delay : Span) (isRepeating : Bool) (callback : Script σ) :
    Keeps Quiet (Dispatch.schedule id delay isRepeating callback) :=
  Keeps.get.bind fun _ => (quiet_onReactor _).bind fun timer => Keeps.get.bind fun _ =>
    (quiet_tell rfl).bind fun _ => (quiet_tell rfl).bind fun _ => .pure timer

/-- A timer is over: it is not live, and its number has been given. -/
structure Over (world : World σ) (id : Nat) (timer : TimerHandle) : Prop where
  reactor : id < world.fresh
  timer : ∀ reactor, world.reactor? id = some reactor →
    timer.id < reactor.timers.nextId ∧ Reactor.isLive reactor.timers timer = false

/-- Timers that were cancelled are over, and nothing has happened to them since. -/
structure Final (world : World σ) : Prop where
  lawful : Lawful final world.journal.toList
  closed : ∀ id timer, .cancelled id timer ∈ world.journal.toList → world.Over id timer
  known : ∀ id reactor, world.reactor? id = some reactor →
    id < world.fresh ∧ reactor.timers.Numbered

/-- What is over stays over. -/
theorem Over.follows (gone : before.Over id timer) (follows : Follows before after) :
    after.Over id timer := by
  refine ⟨Nat.lt_of_lt_of_le gone.reactor follows.fresh, fun later found => ?_⟩
  rcases follows.reactors id later found with ⟨reactor, there, timers⟩ | ⟨new, _⟩
  · rcases gone.timer reactor there with ⟨given, dead⟩
    refine ⟨Nat.lt_of_lt_of_le given timers.ids, Bool.eq_false_iff.mpr fun live => ?_⟩
    rcases Reactor.isLive_iff.mp live with ⟨isRepeating, entry⟩
    rcases timers.live timer.fd _ entry with earlier | new
    · rw [Reactor.isLive_iff.mpr ⟨isRepeating, earlier⟩] at dead
      cases dead
    · exact absurd given (Nat.not_lt_of_le new)
  · exact absurd gone.reactor (Nat.not_lt_of_le new)

theorem Final.known_of_follows (final : before.Final) (follows : Follows before after) (id : Nat)
    (later : Reactor (Handler σ)) (found : after.reactor? id = some later) :
    id < after.fresh ∧ later.timers.Numbered := by
  rcases follows.reactors id later found with ⟨reactor, there, timers⟩ | ⟨_, old, timers⟩
  · rcases final.known id reactor there with ⟨old, numbered⟩
    exact ⟨Nat.lt_of_lt_of_le old follows.fresh, timers.numbered numbered⟩
  · exact ⟨old, timers.numbered Timers.numbered_empty⟩

theorem Final.quiet (final : before.Final) (follows : Follows before after)
    (quiet : Quiet before after) : after.Final := by
  rcases quiet with ⟨news, grown, calm⟩
  constructor
  case lawful =>
      rw [grown]
      exact final.lawful.append_free fun event member => final_of_calm (calm event member)
  case closed =>
      intro id timer cancelled
      rw [grown] at cancelled
      rcases List.mem_append.mp cancelled with old | new
      · exact (final.closed id timer old).follows follows
      · cases calm _ new
  case known => exact final.known_of_follows follows

/-- What is live has not been cancelled. -/
theorem Final.uncancelled (final : world.Final) {reactor : Reactor (Handler σ)}
    (found : world.reactor? id = some reactor) (live : Reactor.isLive reactor.timers timer = true) :
    .cancelled id timer ∉ world.journal.toList := by
  intro cancelled
  rw [((final.closed id timer cancelled).timer reactor found).2] at live
  cases live

/-- A callback is started only for a timer that is live. -/
theorem Final.rings (final : world.Final) {reactor : Reactor (Handler σ)}
    (found : world.reactor? id = some reactor) (live : Reactor.isLive reactor.timers timer = true)
    (time : Nat) : (tell (.ringing id timer time) world).2.Final := by
  have grown := journal_tell (.ringing id timer time) world
  have step : Step world (tell (.ringing id timer time) world).2 := .moves (.tells _ world)
  constructor
  case lawful =>
      rw [grown]
      exact final.lawful.concat (final.uncancelled found live)
  case closed =>
      intro id' timer' cancelled
      rw [grown] at cancelled
      exact (final.closed id' timer' (mem_of_mem_concat cancelled nofun)).follows step.follows
  case known => exact final.known_of_follows step.follows

/-- A timer that is cancelled is over. -/
theorem Final.cancels (final : world.Final) {reactor : Reactor (Handler σ)}
    (found : world.reactor? id = some reactor)
    (live : Reactor.isLive reactor.timers timer = true) :
    ((tell (.cancelled id timer) world).2.settled id
      (Reactor.release timer (world.kernel, reactor)).2).Final := by
  have told : (tell (.cancelled id timer) world).2.reactor? id = some reactor := found
  have released := Reactor.released_release live world.kernel
  have view (other : Nat) := reactor?_settled told
    (Reactor.release timer (world.kernel, reactor)).2 other
  have follows : Follows world ((tell (.cancelled id timer) world).2.settled id
      (Reactor.release timer (world.kernel, reactor)).2) := by
    refine trans_of Follows (retains_tell (.cancelled id timer) world).follows ?_
    exact (retains_settled told (Reactor.leaves_release timer (world.kernel, reactor))).follows
  have grown : ((tell (.cancelled id timer) world).2.settled id
      (Reactor.release timer (world.kernel, reactor)).2).journal.toList =
        world.journal.toList ++ [.cancelled id timer] :=
    journal_tell (.cancelled id timer) world
  constructor
  case lawful =>
      rw [grown]
      exact final.lawful.concat (final.uncancelled found live)
  case closed =>
      intro id' timer' cancelled
      rw [grown] at cancelled
      rcases List.mem_append.mp cancelled with old | new
      · exact (final.closed id' timer' old).follows follows
      · cases List.mem_singleton.mp new
        rcases final.known id reactor found with ⟨old, numbered⟩
        rcases Reactor.isLive_iff.mp live with ⟨isRepeating, entry⟩
        refine ⟨old, fun later there => ?_⟩
        rw [view, if_pos rfl] at there
        cases there
        rw [released.ids]
        refine ⟨numbered.known timer.fd _ entry, ?_⟩
        exact (Reactor.isLive_released released timer).trans (if_pos rfl)
  case known => exact final.known_of_follows follows

/-! ## What runs keep -/

/-- What runs keep of the timers that were cancelled. -/
structure Finishing (before after : World σ) : Prop where
  pacing : Pacing before after
  kept : after.Unseized → before.Sound → before.Paced → before.Final → after.Final

instance : IsPreorder (World σ) Finishing where
  refl world := ⟨refl_of Pacing world, fun _ _ _ final => final⟩
  trans _ _ _ first second := by
    refine ⟨trans_of Pacing first.pacing second.pacing, fun unseized sound paced final => ?_⟩
    have earlier := unseized.earlier second.pacing.orderly.recalls
    exact second.kept unseized (first.pacing.orderly.kept earlier sound).1
      (first.pacing.kept earlier sound paced).1 (first.kept earlier sound paced final)

/-- Only worlds need to be looked at whose callbacks keep pace. -/
theorem Finishing.of_paced (orderly : Orderly before after)
    (finishing : after.Unseized → before.Sound → before.Paced → Finishing before after) :
    Finishing before after :=
  ⟨Pacing.of_paced orderly fun unseized sound paced => (finishing unseized sound paced).pacing,
    fun unseized sound paced => (finishing unseized sound paced).kept unseized sound paced⟩

theorem Finishing.of_quiet (pacing : Pacing before after) (follows : Follows before after)
    (quiet : Quiet before after) : Finishing before after :=
  ⟨pacing, fun _ _ _ final => final.quiet follows quiet⟩

theorem Finishing.of_move (move : Move before after) (pacing : Pacing before after)
    (quiet : Quiet before after) : Finishing before after :=
  .of_quiet pacing (Step.moves move).follows quiet

theorem finishing_tell (calm : event.isCalm = true) (pacing : Keeps Pacing (tell event : Action σ Unit)) :
    Keeps Finishing (tell event : Action σ Unit) :=
  fun world => .of_move (.tells event world) (pacing world) (quiet_tell calm world)

theorem finishing_of_changes {part : Part} (other : part ≠ .loops) (before after : World σ)
    (changes : Changes part before after) : Finishing before after :=
  .of_move (.elsewhere other changes) (pacing_of_changes other before after changes)
    (quiet_of_changes other changes)

/-- A reactor that is as it was. -/
theorem settled_same {reactor : Reactor (Handler σ)} (found : world.reactor? id = some reactor) :
    world.settled id (world.kernel, reactor) = world := by
  rcases Option.map_eq_some_iff.mp found with ⟨shared, present, rfl⟩
  rw [settled, Table.modify_of_get? present rfl]

/-- Only the kernel has changed. -/
theorem finishing_kernel {kernel : Kernel} (pacing : Pacing world { world with kernel }) :
    Finishing world { world with kernel } :=
  .of_quiet pacing
    ⟨Nat.le_refl _, List.prefix_rfl,
      fun _ later found => .inl ⟨later, found, refl_of Timers.Follows later.timers⟩⟩
    (quiet_of_journal rfl)

end World

namespace Dispatch

variable {world after : World σ} {reactor : Reactor (Handler σ)}

/-! ## Cancels -/

theorem cancel_of_none (gone : world.reactor? id = none) :
    cancel id timer world = (.error (.raised (.config "the loop is gone")), world) := by
  have called : (onReactor id (Reactor.release timer) : Action σ Bool) world = _ :=
    onReactor_of_none _ gone
  unfold cancel
  rw [get_bind_eq, gone, Option.any_none, if_neg Bool.false_ne_true]
  exact called

/-- What is over cannot be cancelled, and nothing happens. -/
theorem cancel_of_dead (found : world.reactor? id = some reactor)
    (dead : Reactor.isLive reactor.timers timer = false) :
    cancel id timer world = (.ok false, world) := by
  have called : (onReactor id (Reactor.release timer) : Action σ Bool) world = _ :=
    onReactor_of_some _ found
  rw [Reactor.release_of_dead dead, settled_same found] at called
  unfold cancel
  rw [get_bind_eq, found, Option.any_some, dead, if_neg Bool.false_ne_true]
  exact called

theorem cancel_of_live (found : world.reactor? id = some reactor)
    (live : Reactor.isLive reactor.timers timer = true) :
    cancel id timer world =
      (ofExcept (Reactor.release timer (world.kernel, reactor)).1 : Action σ Bool)
        ((tell (.cancelled id timer) world).2.settled id
          (Reactor.release timer (world.kernel, reactor)).2) := by
  have told : (tell (.cancelled id timer) world).2.reactor? id = some reactor := found
  unfold cancel
  rw [get_bind_eq, found, Option.any_some, live, if_pos rfl, tell_bind_eq]
  exact onReactor_of_some _ told

theorem finishing_cancel (id : Nat) (timer : TimerHandle) :
    Keeps Finishing (cancel id timer : Action σ Bool) := by
  intro world
  refine ⟨pacing_cancel id timer world, fun _ _ _ final => ?_⟩
  cases found : world.reactor? id with
  | none =>
      rw [cancel_of_none found]
      exact final
  | some reactor =>
      cases live : Reactor.isLive reactor.timers timer with
      | false =>
          rw [cancel_of_dead found live]
          exact final
      | true =>
          rw [cancel_of_live found live, ofExcept_world]
          exact final.cancels found live

end Dispatch

/-! ## Requests -/

namespace World

theorem finishing_loopRules :
    LoopRules (Finishing : World σ → World σ → Prop) fun _ _ => True where
  orderly _ _ finishing := finishing.pacing.orderly
  kernel _ _ _ spares untouched := finishing_kernel (pacing_kernel spares untouched)
  comes capacity world :=
    .of_move (.comes capacity world) (pacing_newReactor capacity world)
      (quiet_newReactor capacity world)
  holds id world :=
    .of_move (.holds id world) (pacing_holdReactor id world) (quiet_of_journal rfl)
  letsGo id world :=
    .of_move (.letsGo id world) (pacing_releaseReactor id world) (quiet_of_journal rfl)
  hooks id hook world :=
    .of_move (.hooks id hook world) (pacing_loopRules.hooks id hook world) (quiet_changeLoop _ world)
  modifies id fd interest world :=
    .of_move (.modifies id fd interest world) (pacing_modify fd interest world)
      (quiet_onReactor _ world)
  removes id fd world _ :=
    .of_move (.removes id fd world) (pacing_remove fd world) (quiet_onReactor _ world)
  cancels := Dispatch.finishing_cancel
  notices fd := ⟨finishing_tell rfl (pacing_loopRules.notices fd).1,
    finishing_tell rfl (pacing_loopRules.notices fd).2⟩
  tells event about :=
    finishing_tell (isCalm_of_part (by rw [about]; exact Part.noConfusion))
      (pacing_loopRules.tells event about)
  drained world id loop found empty :=
    .of_move (.tells (.drained id) world) (pacing_loopRules.drained world id loop found empty)
      (quiet_tell rfl world)

theorem finishing_answer (request : Request) (concerns : request.part? = some .loops) :
    Keeps Finishing (Script.answer request : Action σ request.Reply) := by
  intro world
  refine Finishing.of_paced (orderly_answer request concerns world) fun unseized _ _ => ?_
  exact finishing_loopRules.answer request concerns world
    (fun _ seizes _ _ => owns_of_answer concerns unseized seizes) fun _ _ => trivial

theorem finishing_reporting :
    Reporting (Finishing : World σ → World σ → Prop) Dispatch.Expects where
  lasts _ _ _ _ finishing expects := expects.later finishing.pacing
  polled world after id reactor timeout events kernel present polled orderly delivered := by
    have spares : Spares (fun _ => False) world.kernel kernel := (Poller.still_of_poll polled).spares
    refine Finishing.of_paced orderly fun _ sound paced => ?_
    have waited := finishing_kernel (pacing_kernel spares fun _ impossible => impossible.elim)
    exact trans_of Finishing waited (delivered (Dispatch.expects_poll sound paced present polled))

end World

namespace Dispatch

variable {world after : World σ} {reactor : Reactor (Handler σ)}

theorem finishing_listenFor (reactor : Nat) (fd : Descriptor) (interest : Interest)
    (handler : Descriptor → Interest → Script σ) :
    Keeps Finishing (Script.listenFor reactor fd interest handler) := by
  refine Keeps.bind (fun world => finishing_loopRules.noticeUse world (some fd)) fun _ world => ?_
  refine .of_move (.listens reactor fd interest handler world) ?_ (quiet_onReactor _ world)
  refine pacing_onReactor (Reactor.upholds_onLoop (EventLoop.upholds_add fd interest _))
    fun state _ sound paced => ?_
  exact paced.onLoop sound (EventLoop.upholds_add fd interest _)
    (Reactor.fewer_add state fd interest handler _)

theorem finishing_schedule (reactor : Nat) (delay : Span) (isRepeating : Bool)
    (callback : Script σ) : Keeps Finishing (schedule reactor delay isRepeating callback) :=
  fun world => .of_move (.schedules reactor delay isRepeating callback world)
    (pacing_schedule reactor delay isRepeating callback world)
    (quiet_schedule delay isRepeating callback world)

/-! ## Callbacks -/

variable {isRepeating : Bool} {registration : Registration (Handler σ)} {report : Report}

theorem finishing_settle (id : Nat) (timer : TimerHandle) (isRepeating : Bool)
    (outcome : Except Error Unit) :
    Keeps Finishing (settle id timer isRepeating outcome : Action σ Unit) := by
  intro world
  have pacing := pacing_settle id timer isRepeating outcome world
  rcases settle_cases world id timer with ⟨state, present, live⟩ | dead
  · have called : (onReactor id (Reactor.settle timer isRepeating outcome) world).2 =
        world.settled id (Reactor.settle timer isRepeating outcome (world.kernel, state)).2 := by
      rw [onReactor_of_some _ present, ofExcept_world]
    rw [settle_of_live present live, ofExcept_world, ← called] at pacing ⊢
    exact .of_move (.settles id timer isRepeating outcome world) pacing (quiet_onReactor _ world)
  · rw [settle_of_dead dead, ofExcept_world]
    exact refl_of Finishing world

theorem finishing_rung (id : Nat) (timer : TimerHandle) (isRepeating : Bool)
    (outcome : Except Error Unit) :
    Keeps Finishing (rung id timer isRepeating outcome : Action σ Unit) :=
  (finishing_settle id timer isRepeating outcome).attempt.bind fun settled =>
    (finishing_tell rfl (pacing_tell rfl (by nofun))).bind fun _ => .ofExcept settled

/-- The callback that is started is that of a registered timer, which is live. -/
theorem finishing_ringing
    (calls : Calls (fun _ => True) world id timer isRepeating reactor registration) :
    Finishing world (tell (.ringing id timer world.kernel.now) world).2 := by
  refine ⟨pacing_ringing calls, fun _ _ paced final => ?_⟩
  rcases calls.handles with ⟨callback, handles⟩
  have seated := (paced.reactors id reactor calls.present).seated _ registration timer isRepeating
    callback calls.registered handles
  exact final.rings calls.present seated.2 _

theorem finishing_excuse (excuse : event = .hollow id timer ∨ event = .unread id timer) :
    Keeps Finishing (tell event : Action σ Unit) := by
  refine finishing_tell ?_ (pacing_excuse excuse)
  rcases excuse with rfl | rfl <;> rfl

theorem finishing_begun
    (due : Due world id report.event registration)
    (pacing : Pacing world (begun world id report registration)) :
    Finishing world (begun world id report registration) := by
  refine .of_quiet pacing (Step.begins due).follows ?_
  exact trans_of Quiet (quiet_changeLoop _ world) (quiet_tell rfl _)

theorem finishing_finish {serial : Nat} (finishing : Finishing world after)
    (pacing : Pacing world (changeLoop id (idle serial) after).2) :
    Finishing world (changeLoop id (idle serial) after).2 := by
  refine ⟨pacing, fun unseized sound paced final => ?_⟩
  exact (finishing.kept unseized sound paced final).quiet (Step.finishes id serial after).follows
    (quiet_changeLoop _ after)

section Runs

variable {run : Script σ → Action σ Value} {callback : Script σ}
  (ran : ∀ script, Keeps Finishing (run script))

include ran

theorem finishing_ring
    (calls : Calls (fun _ => True) world id timer isRepeating reactor registration) :
    Finishing world (ring run id timer isRepeating callback world).2 := by
  have called : Keeps Finishing (attempt (do let _ ← run callback) : Action σ (Except Error Unit)) :=
    ((ran callback).bind fun _ => .pure ()).attempt
  rw [ring_eq]
  exact trans_of Finishing (finishing_ringing calls)
    (called.bind (fun outcome => finishing_rung id timer isRepeating outcome) _)

theorem finishing_alarm
    (calls : Calls (fun state => 0 < state.count) world id timer isRepeating reactor registration) :
    Finishing world (alarm run id timer isRepeating callback world).2 := by
  have hollow : Keeps Finishing (noticeHollow id timer : Action σ Unit) :=
    Keeps.get.bind fun _ => Keeps.ite (finishing_excuse (.inl rfl)) (.pure ())
  have unread : Keeps Finishing (noticeUnread id timer : Action σ Unit) :=
    Keeps.get.bind fun _ => Keeps.ite (finishing_excuse (.inr rfl)) (.pure ())
  rw [alarm_eq]
  refine trans_of Finishing (hollow world) (Keeps.bind_from ?_ ?_)
  · rw [attempt_world]
    exact finishing_ring ran calls.noticed
  · intro outcome after _
    exact (unread.bind fun _ => .ofExcept outcome) after

theorem finishing_deliver (expects : Expects id report world) :
    Finishing world (deliver run id report world).2 := by
  have paces (script : Script σ) : Keeps Pacing (run script) :=
    (ran script).mono fun _ _ => Finishing.pacing
  have orderly := (pacing_deliver paces expects).orderly
  refine Finishing.of_paced orderly fun unseized _ _ => ?_
  have earlier := unseized.earlier orderly.recalls
  refine finishing_loopRules.deliver fun registration found => ?_
  rcases pacing_serves paces expects earlier found with ⟨begins, -, ends⟩
  rcases addressee_of_loop found with ⟨reactor, present, addressed⟩
  refine ⟨finishing_begun (due_iff.mp found) begins, ?_, fun outcome after ended whole => ?_⟩
  · cases handles : registration.handler with
    | script body => exact ((ran _).bind fun _ => .pure ()) _
    | timer timer isRepeating callback =>
        exact finishing_alarm ran (calls_begun expects earlier present addressed handles)
  · exact finishing_finish whole (ends outcome after ended whole.pacing)

end Runs

end Dispatch

/-! ## Sessions -/

theorem World.finishing_rules (engine : Engine σ) :
    Rules engine (Finishing : World σ → World σ → Prop) :=
  finishing_loopRules.session finishing_reporting finishing_of_changes finishing_answer
    Dispatch.finishing_listenFor Dispatch.finishing_schedule
    (fun ran _ _ _ => Dispatch.finishing_deliver ran) engine

/-- In a session in which nobody else closes or drives what a loop or a timer owns, the timers
that were cancelled are over at every moment. -/
theorem Session.final_world (session : Session σ) (steps : Nat)
    (unseized : (session.world steps).Unseized) : (session.world steps).Final :=
  (session.keeps (World.finishing_rules session.engine) steps).kept unseized
    (session.sound_start steps) (session.paced_start steps)
    ⟨Lawful.nil, fun _ _ cancelled => absurd cancelled List.not_mem_nil, fun _ _ found => nomatch found⟩

end ScriptHost
