import Mathlib.Logic.Relation
import ScriptHost.Proofs.Kernel.Clocks
import ScriptHost.Proofs.Loop.Pacing
import ScriptHost.Proofs.Loop.Turns

/-!
# Moves

Whatever scripts ask for comes down to moves: a reactor comes, is held or goes, a
descriptor is registered with it or removed, a timer is started, released or settled, a
system call is made, or something is told or done that concerns no loop.

A call on a reactor leaves its timers as they are or takes some away.  Only the start of a
timer makes one, and one that fails leaves nothing behind.
-/

namespace ScriptHost

open World Kernel

variable {σ η α : Type}

/-! ## The table of timers -/

namespace Timers

/-- The numbers of live timers are given, and each to one of them. -/
structure Numbered (timers : Timers) : Prop where
  known : ∀ fd entry, timers.live.get? fd = some entry → entry.id < timers.nextId
  apart : ∀ fd fd' entry entry', timers.live.get? fd = some entry →
    timers.live.get? fd' = some entry' → entry.id = entry'.id → fd = fd'

/-- A later table: what is live in it was live before, unless it is new. -/
structure Follows (before after : Timers) : Prop where
  ids : before.nextId ≤ after.nextId
  live : ∀ fd entry, after.live.get? fd = some entry →
    before.live.get? fd = some entry ∨ before.nextId ≤ entry.id
  numbered : before.Numbered → after.Numbered

instance : IsPreorder Timers Follows where
  refl _ := ⟨Nat.le_refl _, fun _ _ live => .inl live, id⟩
  trans _ _ _ first second := by
    refine ⟨Nat.le_trans first.ids second.ids, fun fd entry live => ?_,
      second.numbered ∘ first.numbered⟩
    rcases second.live fd entry live with before | new
    · exact first.live fd entry before
    · exact .inr (Nat.le_trans first.ids new)

/-- A table with the same numbers, in which some of the timers are live still. -/
theorem follows_of_fewer {before after : Timers} (ids : after.nextId = before.nextId)
    (fewer : ∀ fd entry, after.live.get? fd = some entry → before.live.get? fd = some entry) :
    Follows before after where
  ids := Nat.le_of_eq ids.symm
  live fd entry live := .inl (fewer fd entry live)
  numbered numbered := by
    refine ⟨fun fd entry live => ?_, fun fd fd' entry entry' live live' => ?_⟩
    · rw [ids]
      exact numbered.known fd entry (fewer fd entry live)
    · exact numbered.apart fd fd' entry entry' (fewer fd entry live) (fewer fd' entry' live')

theorem follows_erase (timers : Timers) (fd : Descriptor) :
    Follows timers { timers with live := timers.live.erase fd } := by
  refine follows_of_fewer rfl fun other entry live => ?_
  rw [Table.get?_erase] at live
  split at live
  · cases live
  · exact live

theorem follows_insert (timers : Timers) (fd : Descriptor) (isRepeating : Bool) :
    Follows timers
      ⟨timers.live.insert fd ⟨timers.nextId, isRepeating⟩, timers.nextId + 1⟩ := by
  have entry {other : Descriptor} {entry : LiveTimer}
      (live : (timers.live.insert fd ⟨timers.nextId, isRepeating⟩).get? other = some entry) :
      (fd = other ∧ entry.id = timers.nextId) ∨ timers.live.get? other = some entry := by
    rw [Table.get?_insert] at live
    split at live
    next same => exact .inl ⟨same, (congrArg LiveTimer.id (Option.some.inj live)).symm⟩
    next => exact .inr live
  constructor
  case ids => exact Nat.le_succ _
  case live =>
      intro other timer live
      rcases entry live with ⟨-, new⟩ | old
      · exact .inr (Nat.le_of_eq new.symm)
      · exact .inl old
  case numbered =>
      intro numbered
      constructor
      case known =>
          intro other timer live
          rcases entry live with ⟨-, new⟩ | old
          · rw [new]
            exact Nat.lt_succ_self _
          · exact Nat.lt_succ_of_lt (numbered.known other timer old)
      case apart =>
          intro other other' timer timer' live live' same
          rcases entry live with ⟨rfl, new⟩ | old <;> rcases entry live' with ⟨rfl, new'⟩ | old'
          · rfl
          · exact absurd (same.symm.trans new) (Nat.ne_of_lt (numbered.known _ _ old'))
          · exact absurd (same.trans new') (Nat.ne_of_lt (numbered.known _ _ old))
          · exact numbered.apart _ _ _ _ old old' same

theorem numbered_empty : Numbered ⟨.empty, 1⟩ where
  known _ _ live := nomatch live
  apart _ _ _ _ live := nomatch live

end Timers

/-! ## Pollers -/

namespace Poller

theorem inherits_register (poller : Poller) (fd : Descriptor) (token : UInt64)
    (interest : Interest) : Keeps Inherits (poller.register fd token interest) :=
  keeps_named _ (inherits_watch poller.list fd token interest)

theorem inherits_modify (poller : Poller) (fd : Descriptor) (token : UInt64)
    (interest : Interest) : Keeps Inherits (poller.modify fd token interest) :=
  keeps_named _ (inherits_rewatch poller.list fd token interest)

theorem inherits_deregister (poller : Poller) (fd : Descriptor) :
    Keeps Inherits (poller.deregister fd) :=
  keeps_named _ (inherits_forget poller.list fd)

theorem inherits_create (capacity : Nat) : Keeps Inherits (Poller.create capacity) :=
  (keeps_named _ inherits_createReadyList).bind fun _ => .pure _

end Poller

/-! ## Reactors -/

namespace Reactor

/-- A later state of a reactor with no timer registered that was not registered before. -/
structure Retains (before after : Reactor (Handler σ)) : Prop where
  timers : before.timers.Follows after.timers
  registered : ∀ fd registration timer isRepeating callback,
    after.loop.registrations.get? fd = some registration →
    registration.handler = .timer timer isRepeating callback →
    before.loop.registrations.get? fd = some registration

instance : IsPreorder (Reactor (Handler σ)) Retains where
  refl reactor := ⟨refl_of Timers.Follows reactor.timers, fun _ _ _ _ _ found _ => found⟩
  trans _ _ _ first second := by
    refine ⟨trans_of Timers.Follows first.timers second.timers, ?_⟩
    intro fd registration timer isRepeating callback found handles
    have middle := second.registered fd registration timer isRepeating callback found handles
    exact first.registered fd registration timer isRepeating callback middle handles

variable {reactor later : Reactor (Handler σ)} {kernel after : Kernel}

theorem Fewer.retains (fewer : Fewer reactor later)
    (timers : reactor.timers.Follows later.timers) : Retains reactor later where
  timers := timers
  registered fd registration timer isRepeating callback found handles :=
    (fewer.timers fd registration timer isRepeating callback found handles).1

theorem retains_of_registrations {loop : EventLoop (Handler σ)}
    (same : loop.registrations = reactor.loop.registrations) :
    Retains reactor { reactor with loop } := by
  refine ⟨refl_of Timers.Follows reactor.timers, fun fd registration _ _ _ found _ => ?_⟩
  rw [← same]
  exact found

theorem retains_onLoop {call : LoopCall (Handler σ) α}
    (fewer : Fewer reactor (onLoop call (kernel, reactor)).2.2) :
    Retains reactor (onLoop call (kernel, reactor)).2.2 :=
  fewer.retains (refl_of Timers.Follows reactor.timers)

/-- A call on a reactor that starts no timer. -/
structure Leaves (before after : Kernel × Reactor (Handler σ)) : Prop where
  inherits : Inherits before.1 after.1
  retains : Retains before.2 after.2

instance : IsPreorder (Kernel × Reactor (Handler σ)) Leaves where
  refl state := ⟨refl_of Inherits state.1, refl_of Retains state.2⟩
  trans _ _ _ first second :=
    ⟨trans_of Inherits first.inherits second.inherits, trans_of Retains first.retains second.retains⟩

theorem inherits_add (fd : Descriptor) (interest : Interest) (handler : η) (kernel : Kernel)
    (reactor : Reactor η) :
    Inherits kernel (onLoop (EventLoop.add fd interest handler) (kernel, reactor)).2.1 := by
  change Inherits kernel (EventLoop.add fd interest handler (kernel, reactor.loop)).2.1
  rw [EventLoop.add_kernel]
  exact reactor.loop.poller.inherits_register fd _ interest kernel

theorem leaves_listen (fd : Descriptor) (interest : Interest)
    (body : Descriptor → Interest → Script σ) :
    Keeps Leaves (onLoop (EventLoop.add fd interest (.script body))) := by
  rintro ⟨kernel, reactor⟩
  exact ⟨inherits_add fd interest _ kernel reactor,
    retains_onLoop (fewer_add reactor fd interest body kernel)⟩

theorem leaves_modify (fd : Descriptor) (interest : Interest) :
    Keeps Leaves (onLoop (EventLoop.modify fd interest) : ReactorCall (Handler σ) Unit) := by
  rintro ⟨kernel, reactor⟩
  refine ⟨?_, retains_onLoop (harmless_modify reactor fd interest kernel).fewer⟩
  change Inherits kernel (EventLoop.modify fd interest (kernel, reactor.loop)).2.1
  unfold EventLoop.modify
  rw [EventLoop.current_bind_eq]
  cases reactor.loop.registrations.get? fd with
  | none => exact refl_of Inherits kernel
  | some registration =>
      dsimp only
      rw [EventLoop.below_world]
      exact reactor.loop.poller.inherits_modify fd registration.token interest kernel

theorem leaves_remove (fd : Descriptor) :
    Keeps Leaves (onLoop (EventLoop.remove fd) : ReactorCall (Handler σ) Bool) := by
  rintro ⟨kernel, reactor⟩
  refine ⟨?_, retains_onLoop (fewer_remove reactor fd kernel)⟩
  change Inherits kernel (EventLoop.remove fd (kernel, reactor.loop)).2.1
  cases present : reactor.loop.registrations.contains fd with
  | false =>
      rw [EventLoop.remove_of_absent present]
      exact refl_of Inherits kernel
  | true =>
      rw [EventLoop.remove_kernel present]
      exact reactor.loop.poller.inherits_deregister fd kernel

theorem leaves_release (timer : TimerHandle) :
    Keeps Leaves (release timer : ReactorCall (Handler σ) Bool) := by
  rintro ⟨kernel, reactor⟩
  cases live : isLive reactor.timers timer with
  | false =>
      rw [release_of_dead live]
      exact refl_of Leaves (kernel, reactor)
  | true =>
      have struck : Leaves (kernel, reactor) (kernel, reactor.struck timer.fd) :=
        ⟨refl_of Inherits kernel, Timers.follows_erase reactor.timers timer.fd,
          fun _ _ _ _ _ found _ => found⟩
      have removed := leaves_remove timer.fd (kernel, reactor.struck timer.fd)
      have whole := trans_of Leaves struck removed
      rw [release_world live]
      exact ⟨trans_of Inherits whole.inherits (inherits_close _ timer.fd), whole.retains⟩

theorem leaves_settle (timer : TimerHandle) (isRepeating : Bool) (outcome : Except Error Unit) :
    Keeps Leaves (settle timer isRepeating outcome : ReactorCall (Handler σ) Unit) := by
  rintro ⟨kernel, reactor⟩
  have still : Still kernel (Streams.read timer.fd 8 kernel).2 :=
    keeps_named _ (still_read timer.fd 8) kernel
  have drained : Leaves (kernel, reactor) ((Streams.read timer.fd 8 kernel).2, reactor) :=
    ⟨still.inherits, refl_of Retains reactor⟩
  rw [settle_world]
  cases isRepeating with
  | true => exact drained
  | false => exact trans_of Leaves drained (leaves_release timer _)

/-! ### Starts -/

/-- A timer that is open after a descriptor was opened for another was open before. -/
theorem isTimer_of_opens {fd other : Descriptor} {opening : Nat} (opens : Opens kernel after fd)
    (different : fd ≠ other) (timed : after.IsTimer other opening) :
    kernel.IsTimer other opening := by
  rwa [IsTimer, opens.others other different] at timed

/-- What a descriptor was opened for is gone when it has been closed. -/
theorem inherits_closed {armed : Kernel} {fd : Descriptor} (opens : Opens kernel armed fd)
    (inherits : Inherits armed after) : Inherits kernel (after.close fd) := by
  intro other opening timed
  by_cases same : fd = other
  · subst same
    rw [IsTimer, standing?_close, if_pos rfl] at timed
    cases timed
  · exact isTimer_of_opens opens same (inherits _ _ (inherits_close after fd _ _ timed))

/-- The start of a timer that failed leaves nothing behind. -/
theorem leaves_unstarted {handlerFor : TimerHandle → Handler σ} {delay : Span} {isRepeating : Bool}
    {error : Error} (ended : schedule handlerFor delay isRepeating (kernel, reactor) =
      (.error error, (after, later))) : Leaves (kernel, reactor) (after, later) := by
  have outcome := schedule_outcome handlerFor delay isRepeating kernel reactor
  rw [ended] at outcome
  cases outcome with
  | uncreated still => exact ⟨still.inherits, refl_of Retains reactor⟩
  | @unarmed _ fd armed opens =>
      exact ⟨inherits_closed opens (refl_of Inherits armed), refl_of Retains reactor⟩
  | @unregistered _ fd armed failed middle opens added =>
      have watched := inherits_add fd .readable (handlerFor (reactor.nextTimer fd)) armed
        (reactor.entered fd isRepeating)
      rw [added] at watched
      refine ⟨inherits_closed opens watched, ?_, ?_⟩
      · rw [onLoop_add_of_error added]
        exact trans_of Timers.Follows (Timers.follows_insert reactor.timers fd isRepeating)
          (Timers.follows_erase _ fd)
      · rw [onLoop_add_of_error added]
        exact fun _ _ _ _ _ found _ => found

/-- What a timer that was started leaves behind. -/
structure Starts (timer : TimerHandle) (isRepeating : Bool) (callback : Script σ)
    (before after : Kernel × Reactor (Handler σ)) : Prop where
  number : timer.id = before.2.timers.nextId
  timers : before.2.timers.Follows after.2.timers
  ids : timer.id < after.2.timers.nextId
  opened : ∀ fd opening, after.1.IsTimer fd opening → before.1.IsTimer fd opening ∨ fd = timer.fd
  own : ∃ registration, after.2.loop.registrations.get? timer.fd = some registration ∧
    registration.handler = .timer timer isRepeating callback
  registered : ∀ fd registration, after.2.loop.registrations.get? fd = some registration →
    before.2.loop.registrations.get? fd = some registration ∨
      registration.handler = .timer timer isRepeating callback

theorem starts_started {delay : Span} {isRepeating : Bool} {callback : Script σ}
    {timer : TimerHandle}
    (ended : schedule (fun timer => .timer timer isRepeating callback) delay isRepeating
      (kernel, reactor) = (.ok timer, (after, later))) :
    Starts timer isRepeating callback (kernel, reactor) (after, later) := by
  have outcome := schedule_outcome (fun timer => Handler.timer timer isRepeating callback) delay
    isRepeating kernel reactor
  rw [ended] at outcome
  cases outcome with
  | @started fd armed _ _ opens _ added =>
      have watched := inherits_add fd .readable
        (Handler.timer (reactor.nextTimer fd) isRepeating callback) armed
        (reactor.entered fd isRepeating)
      rw [added] at watched
      rw [onLoop_add_of_ok added]
      constructor
      case number => rfl
      case timers => exact Timers.follows_insert reactor.timers fd isRepeating
      case ids => exact Nat.lt_succ_self _
      case opened =>
          intro other opening timed
          by_cases same : fd = other
          · exact .inr same.symm
          · exact .inl (isTimer_of_opens opens same (watched other opening timed))
      case own => exact ⟨_, (registrations_enlisted _ fd fd _).trans (if_pos rfl), rfl⟩
      case registered =>
          intro other registration found
          rw [registrations_enlisted] at found
          split at found
          · cases found
            exact .inr rfl
          · exact .inl found

end Reactor

/-! ## Moves -/

namespace World

/-- What is done to a world by a call that runs no script. -/
inductive Move : World σ → World σ → Prop where
  /-- Something that concerns no loop. -/
  | elsewhere {part : Part} {before after : World σ} (other : part ≠ .loops)
      (changes : Changes part before after) : Move before after
  /-- News. -/
  | tells (event : Event) (world : World σ) : Move world (tell event world).2
  /-- A system call that makes no timer. -/
  | calls (world : World σ) {kernel : Kernel} (inherits : Inherits world.kernel kernel) :
      Move world { world with kernel }
  /-- A reactor comes. -/
  | comes (capacity : Nat) (world : World σ) : Move world (newReactor capacity world).2
  /-- A reactor is held. -/
  | holds (id : Nat) (world : World σ) : Move world (holdReactor id world).2
  /-- A reactor is let go. -/
  | letsGo (id : Nat) (world : World σ) : Move world (releaseReactor id world).2
  /-- A loop gets another hook. -/
  | hooks (id : Nat) (hook : ErrorHook) (world : World σ) :
      Move world (changeLoop id (fun loop => { loop with hook }) world).2
  /-- A script is registered for the events of a descriptor. -/
  | listens (id : Nat) (fd : Descriptor) (interest : Interest)
      (body : Descriptor → Interest → Script σ) (world : World σ) :
      Move world (onReactor id (Reactor.onLoop (EventLoop.add fd interest (.script body))) world).2
  /-- A registration asks for other events. -/
  | modifies (id : Nat) (fd : Descriptor) (interest : Interest) (world : World σ) :
      Move world (onReactor id (Reactor.onLoop (EventLoop.modify fd interest)) world).2
  /-- A registration is removed. -/
  | removes (id : Nat) (fd : Descriptor) (world : World σ) :
      Move world (onReactor id (Reactor.onLoop (EventLoop.remove fd)) world).2
  /-- A timer is released. -/
  | releases (id : Nat) (timer : TimerHandle) (world : World σ) :
      Move world (onReactor id (Reactor.release timer) world).2
  /-- A timer is settled. -/
  | settles (id : Nat) (timer : TimerHandle) (isRepeating : Bool) (outcome : Except Error Unit)
      (world : World σ) :
      Move world (onReactor id (Reactor.settle timer isRepeating outcome) world).2
  /-- A timer is started. -/
  | schedules (id : Nat) (delay : Span) (isRepeating : Bool) (callback : Script σ)
      (world : World σ) : Move world (Dispatch.schedule id delay isRepeating callback world).2

/-- Moves one after another. -/
def Moves : World σ → World σ → Prop := Relation.ReflTransGen Move

instance : IsPreorder (World σ) Moves where
  refl _ := Relation.ReflTransGen.refl
  trans _ _ _ := Relation.ReflTransGen.trans

theorem Move.moves {before after : World σ} (move : Move before after) : Moves before after :=
  Relation.ReflTransGen.single move

theorem moves_tell (event : Event) : Keeps Moves (tell event : Action σ Unit) :=
  fun world => (Move.tells event world).moves

theorem moves_system {call : SystemCall α} (inherits : Keeps Inherits call) :
    Keeps Moves (system call : Action σ α) := by
  intro world
  rw [system_world]
  exact (Move.calls world (inherits world.kernel)).moves

/-! ### Requests -/

theorem moves_noticeUse (world : World σ) (fd : Option Descriptor) :
    Moves world (world.noticeUse fd) := by
  cases fd with
  | none => exact refl_of Moves world
  | some fd =>
      simp only [noticeUse]
      split
      · exact moves_tell (.meddled fd) world
      · exact refl_of Moves world

theorem moves_noticeSeizure (world : World σ) (fd : Option Descriptor) :
    Moves world (world.noticeSeizure fd) := by
  cases fd with
  | none => exact refl_of Moves world
  | some fd =>
      simp only [noticeSeizure]
      split
      · exact moves_tell (.seized fd) world
      · exact refl_of Moves world

theorem moves_cancel (id : Nat) (timer : TimerHandle) :
    Keeps Moves (Dispatch.cancel id timer : Action σ Bool) := by
  have released : Keeps Moves (onReactor id (Reactor.release timer) : Action σ Bool) :=
    fun world => (Move.releases id timer world).moves
  exact Keeps.get.bind fun _ => Keeps.ite ((moves_tell _).bind fun _ => released) released

theorem moves_perform (request : Request) (concerns : request.part? = some .loops) :
    Keeps Moves (request.perform : StateM (World σ) request.Reply) := by
  cases request <;> cases concerns
  case now | armed | listens | registered | timers => exact Keeps.still fun _ => rfl
  case advance nanos =>
      exact fun world => (Move.calls world (still_advance world.kernel nanos).inherits).moves
  case plan fault =>
      intro world
      have planned : Stands world.kernel (world.kernel.plan fault) := stands_of_opened rfl rfl
      exact (Move.calls world planned.inherits).moves
  case pipe => exact fun world => (Move.calls world (inherits_openPipe world.kernel)).moves
  case openFile path =>
      intro world
      dsimp only [Request.perform, always]
      split
      next =>
          split
          next made =>
              have opened := congrArg Prod.snd made
              dsimp only at opened
              subst opened
              exact (Move.calls world (inherits_openResource world.kernel false (by nofun))).moves
          next => exact refl_of Moves world
      next => exact refl_of Moves world
  case close fd => exact fun world => (Move.calls world (inherits_close world.kernel fd)).moves
  case read fd length =>
      exact keeps_result (moves_system (keeps_named _ fun kernel => (still_read fd length kernel).inherits))
  case write fd bytes =>
      exact keeps_result (moves_system (keeps_named _ fun kernel => (still_write fd bytes kernel).inherits))
  case readToEnd fd chunk =>
      exact keeps_result (moves_system fun kernel => (still_readToEnd fd chunk kernel).inherits)
  case setNonblocking fd =>
      exact keeps_result (moves_system fun kernel => (still_makeNonblocking fd kernel).inherits)
  case newPoller capacity => exact keeps_result (moves_system (Poller.inherits_create capacity))
  case register poller fd token interest =>
      exact keeps_result (moves_system (poller.inherits_register fd token interest))
  case reregister poller fd token interest =>
      exact keeps_result (moves_system (poller.inherits_modify fd token interest))
  case deregister poller fd => exact keeps_result (moves_system (poller.inherits_deregister fd))
  case await poller timeout =>
      exact keeps_result (moves_system fun kernel => (poller.still_poll timeout kernel).inherits)
  case newReactor capacity => exact keeps_result fun world => (Move.comes capacity world).moves
  case holdReactor id => exact fun world => (Move.holds id world).moves
  case releaseReactor id => exact fun world => (Move.letsGo id world).moves
  case setHook id hook => exact fun world => (Move.hooks id hook world).moves
  case modify id fd interest =>
      exact keeps_result fun world => (Move.modifies id fd interest world).moves
  case unlisten id fd => exact keeps_result fun world => (Move.removes id fd world).moves
  case cancel id timer => exact keeps_result (moves_cancel id timer)

theorem moves_answer (request : Request) (concerns : request.part? = some .loops) :
    Keeps Moves (Script.answer request : Action σ request.Reply) := by
  intro world
  have noticed := trans_of Moves (moves_noticeSeizure world request.seizes?)
    (moves_noticeUse _ request.uses?)
  exact trans_of Moves noticed (moves_perform request concerns _)

theorem moves_listenFor (id : Nat) (fd : Descriptor) (interest : Interest)
    (handler : Descriptor → Interest → Script σ) :
    Keeps Moves (Script.listenFor id fd interest handler) := by
  have noticed : Keeps Moves (modify fun world => world.noticeUse (some fd) : Action σ PUnit) :=
    fun world => moves_noticeUse world (some fd)
  have added : Keeps Moves (onReactor id
      (Reactor.onLoop (EventLoop.add fd interest (.script handler))) : Action σ Unit) :=
    fun world => (Move.listens id fd interest handler world).moves
  unfold Script.listenFor
  exact noticed.bind fun _ => added

/-- What answers scripts is made of moves. -/
theorem moves_base : Base (Moves : World σ → World σ → Prop) where
  rest _ _ changes := (Move.elsewhere (by decide) changes).moves
  runtimes := .of_changes fun _ _ changes => (Move.elsewhere (by decide) changes).moves
  request :=
    Script.keeps_answer (fun other _ _ changes => (Move.elsewhere other changes).moves) moves_answer
  input chunk := moves_system fun kernel => (still_readToEnd _ chunk kernel).inherits
  listen := moves_listenFor
  schedule id delay isRepeating callback world :=
    (Move.schedules id delay isRepeating callback world).moves

/-- So is what polls do beside the turns of events. -/
theorem moves_polling : Polling (Moves : World σ → World σ → Prop) where
  holds id world := (Move.holds id world).moves
  letsGo id world := (Move.letsGo id world).moves
  waits poller timeout := moves_system fun kernel => (poller.still_poll timeout kernel).inherits
  settles id timer isRepeating outcome world :=
    (Move.settles id timer isRepeating outcome world).moves
  tells event _ := moves_tell event

end World

end ScriptHost
