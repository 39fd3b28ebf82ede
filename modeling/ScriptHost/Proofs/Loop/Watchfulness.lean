import ScriptHost.Proofs.Kernel.Shifts
import ScriptHost.Proofs.Loop.Steps

/-!
# What is watched is open

All that runs do to descriptors and to readiness lists comes down to shifts: what is opened is
new, what is registered is open, and what is closed leaves every list.  So at no moment of any
session does a list watch what is not open, whoever has made the list, whatever calls have
failed and whoever has closed what.
-/

namespace ScriptHost

open World Kernel

variable {σ η α : Type}

/-! ## Calls on reactors -/

namespace Reactor

theorem shifts_add (fd : Descriptor) (interest : Interest) (handler : η) (kernel : Kernel)
    (reactor : Reactor η) :
    Shifts kernel (onLoop (EventLoop.add fd interest handler) (kernel, reactor)).2.1 := by
  change Shifts kernel (EventLoop.add fd interest handler (kernel, reactor.loop)).2.1
  rw [EventLoop.add_kernel]
  exact reactor.loop.poller.shifts_register fd _ interest kernel

theorem shifts_modify (fd : Descriptor) (interest : Interest) (kernel : Kernel)
    (reactor : Reactor η) :
    Shifts kernel (onLoop (EventLoop.modify fd interest) (kernel, reactor)).2.1 := by
  change Shifts kernel (EventLoop.modify fd interest (kernel, reactor.loop)).2.1
  cases found : reactor.loop.registrations.get? fd with
  | none =>
      rw [EventLoop.modify_of_none found]
      exact refl_of Shifts kernel
  | some registration =>
      rw [EventLoop.modify_of_some found, EventLoop.below_world]
      exact reactor.loop.poller.shifts_modify fd registration.token interest kernel

theorem shifts_remove (fd : Descriptor) (kernel : Kernel) (reactor : Reactor η) :
    Shifts kernel (onLoop (EventLoop.remove fd) (kernel, reactor)).2.1 := by
  change Shifts kernel (EventLoop.remove fd (kernel, reactor.loop)).2.1
  cases present : reactor.loop.registrations.contains fd with
  | false =>
      rw [EventLoop.remove_of_absent present]
      exact refl_of Shifts kernel
  | true =>
      rw [EventLoop.remove_kernel present]
      exact reactor.loop.poller.shifts_deregister fd kernel

theorem shifts_release (timer : TimerHandle) (kernel : Kernel) (reactor : Reactor η) :
    Shifts kernel (release timer (kernel, reactor)).2.1 := by
  cases live : isLive reactor.timers timer with
  | false =>
      rw [release_of_dead live]
      exact refl_of Shifts kernel
  | true =>
      rw [release_world live]
      exact trans_of Shifts (shifts_remove timer.fd kernel (reactor.struck timer.fd))
        (shifts_close _ timer.fd)

theorem shifts_settle (timer : TimerHandle) (isRepeating : Bool) (outcome : Except Error Unit)
    (kernel : Kernel) (reactor : Reactor η) :
    Shifts kernel (settle timer isRepeating outcome (kernel, reactor)).2.1 := by
  have drained : Still kernel (Streams.read timer.fd 8 kernel).2 :=
    keeps_named _ (still_read timer.fd 8) kernel
  rw [settle_world]
  cases isRepeating with
  | true => exact drained.shifts
  | false => exact trans_of Shifts drained.shifts (shifts_release timer _ reactor)

theorem shifts_arm (fd : Descriptor) (delay : Span) (isRepeating : Bool) :
    Keeps Shifts (arm fd delay isRepeating) := by
  intro kernel
  rcases arm_outcome fd delay isRepeating kernel with
    ⟨cause, after, ended, still⟩ | ⟨after, ended, stands, _, _⟩ <;> rw [ended]
  · exact still.shifts
  · exact stands.shifts

theorem shifts_schedule (handlerFor : TimerHandle → η) (delay : Span) (isRepeating : Bool)
    (kernel : Kernel) (reactor : Reactor η) :
    Shifts kernel (schedule handlerFor delay isRepeating (kernel, reactor)).2.1 := by
  have calls := started_schedule handlerFor delay isRepeating kernel reactor
  generalize schedule handlerFor delay isRepeating (kernel, reactor) = ended at calls ⊢
  have creates := shifts_createTimer kernel
  cases calls with
  | unmade failed =>
      rw [failed] at creates
      exact creates
  | @unarmed fd _ _ created armed made failed =>
      have arms := shifts_arm fd delay isRepeating created
      rw [failed] at arms
      rw [made] at creates
      exact trans_of Shifts (trans_of Shifts creates arms) (shifts_close armed fd)
  | @unregistered fd _ created armed failed _ made set refused =>
      have arms := shifts_arm fd delay isRepeating created
      have adds := shifts_add fd .readable (handlerFor (reactor.nextTimer fd)) armed
        (reactor.entered fd isRepeating)
      rw [made] at creates
      rw [set] at arms
      rw [refused] at adds
      exact trans_of Shifts (trans_of Shifts creates arms)
        (trans_of Shifts adds (shifts_close failed fd))
  | @started fd created armed _ _ made set added =>
      have arms := shifts_arm fd delay isRepeating created
      have adds := shifts_add fd .readable (handlerFor (reactor.nextTimer fd)) armed
        (reactor.entered fd isRepeating)
      rw [made] at creates
      rw [set] at arms
      rw [added] at adds
      exact trans_of Shifts (trans_of Shifts creates arms) adds

theorem shifts_dismantle (kernel : Kernel) (reactor : Reactor η) :
    Shifts kernel (reactor.dismantle kernel) :=
  trans_of Shifts (shifts_close kernel reactor.loop.poller.list) (shifts_closeAll _ _)

end Reactor

/-! ## Actions -/

namespace World

/-- What lies between two worlds comes down to shifts of their kernels. -/
def Shifting (before after : World σ) : Prop :=
  Shifts before.kernel after.kernel

instance : IsPreorder (World σ) Shifting where
  refl world := refl_of Shifts world.kernel
  trans _ _ _ := trans_of Shifts

variable {before after : World σ}

theorem shifting_of_same (same : after.kernel = before.kernel) : Shifting before after := by
  rw [Shifting, same]
  exact refl_of Shifts before.kernel

theorem shifting_of_changes {part : Part} (other : part ≠ .loops) (before after : World σ)
    (changes : Changes part before after) : Shifting before after :=
  shifting_of_same (changes.loops other).1

theorem shifting_tell (event : Event) : Keeps Shifting (tell event : Action σ Unit) :=
  fun _ => shifting_of_same rfl

theorem shifting_system {call : SystemCall α} (shifts : Keeps Shifts call) :
    Keeps Shifting (system call : Action σ α) := by
  intro world
  rw [system_world]
  exact shifts world.kernel

theorem shifting_onReactor (id : Nat) {call : ReactorCall (Handler σ) α}
    (shifts : ∀ kernel reactor, Shifts kernel (call (kernel, reactor)).2.1) :
    Keeps Shifting (onReactor id call) := by
  intro world
  rcases onReactor_outcome id call world with same | ⟨reactor, -, same⟩ <;> rw [same]
  · exact refl_of Shifting world
  · exact shifts world.kernel reactor

theorem shifting_newReactor (capacity : Nat) :
    Keeps Shifting (newReactor capacity : Action σ Nat) := by
  intro world
  rcases newReactor_outcome capacity world with
    ⟨kernel, still, same⟩ | ⟨kernel, fd, opens, watches, same⟩ <;> rw [same]
  · exact still.shifts
  · refine (Shift.opens opens fun other => Option.eq_none_iff_forall_ne_some.mpr ?_).shifts
    exact fun watch watched => watches.token_of_watch? watched

theorem shifting_releaseReactor (id : Nat) :
    Keeps Shifting (releaseReactor id : Action σ Unit) := by
  intro world
  cases gone : (Shared.letGo world.reactors id).1 with
  | none => exact shifting_of_same (kernel_releaseReactor_of_none gone)
  | some reactor =>
      rw [Shifting, kernel_releaseReactor_of_some gone]
      exact reactor.shifts_dismantle world.kernel

theorem shifting_cancel (id : Nat) (timer : TimerHandle) :
    Keeps Shifting (Dispatch.cancel id timer : Action σ Bool) := by
  have released : Keeps Shifting (onReactor id (Reactor.release timer) : Action σ Bool) :=
    shifting_onReactor id (Reactor.shifts_release timer)
  exact Keeps.get.bind fun _ => Keeps.ite ((shifting_tell _).bind fun _ => released) released

theorem shifting_schedule (id : Nat) (delay : Span) (isRepeating : Bool) (callback : Script σ) :
    Keeps Shifting (Dispatch.schedule id delay isRepeating callback) := by
  refine Keeps.get.bind fun _ => ?_
  refine (shifting_onReactor id (Reactor.shifts_schedule _ delay isRepeating)).bind fun timer => ?_
  exact Keeps.get.bind fun _ => (shifting_tell _).bind fun _ => (shifting_tell _).bind fun _ =>
    .pure timer

/-! ### Requests -/

theorem shifting_perform (request : Request) (concerns : request.part? = some .loops) :
    Keeps Shifting (request.perform : StateM (World σ) request.Reply) := by
  cases request <;> cases concerns
  case now | armed | listens | registered | timers => exact Keeps.still fun _ => rfl
  case advance nanos => exact fun world => (still_advance world.kernel nanos).shifts
  case plan fault =>
      intro world
      have planned : Stands world.kernel (world.kernel.plan fault) := stands_of_opened rfl rfl
      exact planned.shifts
  case pipe => exact fun world => shifts_openPipe world.kernel
  case openFile path =>
      intro world
      dsimp only [Request.perform, always]
      split
      next =>
          split
          next made =>
              have opened := congrArg Prod.snd made
              dsimp only at opened
              subst opened
              exact shifts_openResource (by rintro _ ⟨⟩) world.kernel
          next => exact refl_of Shifting world
      next => exact refl_of Shifting world
  case close fd => exact fun world => shifts_close world.kernel fd
  case read fd length =>
      exact keeps_result (shifting_system
        (keeps_named _ fun kernel => (still_read fd length kernel).shifts))
  case write fd bytes =>
      exact keeps_result (shifting_system
        (keeps_named _ fun kernel => (still_write fd bytes kernel).shifts))
  case readToEnd fd chunk =>
      exact keeps_result (shifting_system fun kernel => (still_readToEnd fd chunk kernel).shifts)
  case setNonblocking fd =>
      exact keeps_result (shifting_system fun kernel => (still_makeNonblocking fd kernel).shifts)
  case newPoller capacity => exact keeps_result (shifting_system (Poller.shifts_create capacity))
  case register poller fd token interest =>
      exact keeps_result (shifting_system (poller.shifts_register fd token interest))
  case reregister poller fd token interest =>
      exact keeps_result (shifting_system (poller.shifts_modify fd token interest))
  case deregister poller fd => exact keeps_result (shifting_system (poller.shifts_deregister fd))
  case await poller timeout =>
      exact keeps_result (shifting_system fun kernel => (poller.still_poll timeout kernel).shifts)
  case newReactor capacity => exact keeps_result (shifting_newReactor capacity)
  case holdReactor id => exact fun _ => shifting_of_same rfl
  case releaseReactor id => exact shifting_releaseReactor id
  case setHook id hook => exact fun _ => shifting_of_same rfl
  case modify id fd interest =>
      exact keeps_result (shifting_onReactor id (Reactor.shifts_modify fd interest))
  case unlisten id fd => exact keeps_result (shifting_onReactor id (Reactor.shifts_remove fd))
  case cancel id timer => exact keeps_result (shifting_cancel id timer)

theorem kernel_noticeSeizure (world : World σ) (fd : Option Descriptor) :
    (world.noticeSeizure fd).kernel = world.kernel := by
  cases fd with
  | none => rfl
  | some fd =>
      unfold noticeSeizure
      dsimp only
      split <;> rfl

theorem kernel_noticeUse (world : World σ) (fd : Option Descriptor) :
    (world.noticeUse fd).kernel = world.kernel := by
  cases fd with
  | none => rfl
  | some fd =>
      unfold noticeUse
      dsimp only
      split <;> rfl

theorem shifting_answer (request : Request) (concerns : request.part? = some .loops) :
    Keeps Shifting (Script.answer request : Action σ request.Reply) := by
  intro world
  have noticed : Shifting world ((world.noticeSeizure request.seizes?).noticeUse request.uses?) :=
    shifting_of_same ((kernel_noticeUse _ _).trans (kernel_noticeSeizure _ _))
  exact trans_of Shifting noticed (shifting_perform request concerns _)

theorem shifting_listenFor (id : Nat) (fd : Descriptor) (interest : Interest)
    (handler : Descriptor → Interest → Script σ) :
    Keeps Shifting (Script.listenFor id fd interest handler) := by
  have noticed : Keeps Shifting
      (modify fun world => world.noticeUse (some fd) : Action σ PUnit) :=
    fun world => shifting_of_same (kernel_noticeUse world (some fd))
  exact noticed.bind fun _ => shifting_onReactor id (Reactor.shifts_add fd interest _)

/-! ## Runs -/

theorem shifting_base : Base (Shifting : World σ → World σ → Prop) where
  rest := shifting_of_changes (by decide)
  runtimes := .of_changes (shifting_of_changes (by decide))
  request := Script.keeps_answer shifting_of_changes shifting_answer
  input chunk := shifting_system fun kernel => (still_readToEnd _ chunk kernel).shifts
  listen := shifting_listenFor
  schedule := shifting_schedule

theorem shifting_polling : Polling (Shifting : World σ → World σ → Prop) where
  holds _ _ := shifting_of_same rfl
  letsGo := shifting_releaseReactor
  waits poller timeout := shifting_system fun kernel => (poller.still_poll timeout kernel).shifts
  settles id timer isRepeating outcome :=
    shifting_onReactor id (Reactor.shifts_settle timer isRepeating outcome)
  tells event _ := shifting_tell event

/-- All that runs do to kernels are shifts. -/
theorem shifting_endings (engine : Engine σ) : Endings True engine Shifting :=
  Dispatch.endings_of_polling shifting_base shifting_polling (shifting_of_changes (by decide))
    (fun _ _ _ _ _ _ => shifting_of_same rfl) fun _ _ _ _ handled => handled

end World

/-- At every moment of every session, no list watches what is not open. -/
theorem Session.watchful_world (session : Session σ) (steps : Nat) :
    (session.world steps).kernel.Watchful := by
  have shifts := (shifting_endings session.engine).exec session.fuel session.script
    { session.start with steps := some steps } fun _ => trivial
  refine Shifts.watchful shifts ?_
  exact watchful_start session.input session.waitLimit

end ScriptHost
