import ScriptHost.Proofs.Loop.Neighbours

/-!
# Serving loops

What scripts do with loops comes down to a few kinds of changes: the kernel changes
beside the reactors, a reactor comes, is held or goes, a call is made on it, or the
journal is told.  A relation that is kept by each of them, and by the delivery of a
single event, is kept by the answers to all requests about loops and by every poll
and drive.
-/

namespace ScriptHost

open World Kernel

variable {σ α : Type}

/-! ## Pollers -/

namespace Poller

theorem spares_create (capacity : Nat) (kernel : Kernel) :
    Spares (fun _ => False) kernel (Poller.create capacity kernel).2 := by
  rcases listed : createReadyList kernel with ⟨errno | fd, after⟩
  · rw [Reactor.createPoller_of_error listed]
    exact (createReadyList_of_error listed).spares
  · rw [Reactor.createPoller_of_ok listed]
    have opens := (createReadyList_of_ok (P := fun _ _ => False) listed).1
    exact opens.spares

theorem still_poll (poller : Poller) (timeout : Option Span) :
    Keeps Still (poller.poll timeout) := by
  intro kernel
  have waited := still_wait poller.list poller.capacity (timeout.map Span.toMillis) kernel
  unfold poll
  split
  next ended => rw [ended] at waited; exact waited
  next ended =>
      rw [ended] at waited
      split <;> exact waited

theorem still_of_poll {poller : Poller} {timeout : Option Span} {kernel after : Kernel}
    {outcome : Except SystemError (List Readiness)}
    (polled : poller.poll timeout kernel = (outcome, after)) : Still kernel after := by
  have still := poller.still_poll timeout kernel
  rw [polled] at still
  exact still

theorem poll_reports {poller : Poller} {timeout : Option Span} {kernel after : Kernel}
    {events : List Readiness} {P : Descriptor → UInt64 → Prop}
    (watches : kernel.Watches poller.list P)
    (ended : poller.poll timeout kernel = (.ok events, after)) : Reports P events after := by
  unfold poll at ended
  split at ended
  next waited =>
      cases ended
      exact wait_reports watches waited
  next waited =>
      split at ended
      · cases ended
        exact reports_nil _
      · cases ended

end Poller

/-! ## What others do with what reactors own -/

namespace World

theorem owns_of_reactor {world : World σ} {id : Nat} {reactor : Reactor (Handler σ)}
    {fd : Descriptor} (unowned : world.owns fd = false)
    (found : world.reactor? id = some reactor) : reactor.owns fd = false := by
  rcases Option.map_eq_some_iff.mp found with ⟨shared, present, rfl⟩
  have none_owns := List.any_eq_false.mp unowned shared (Table.mem_values present)
  exact Bool.eq_false_iff.mpr none_owns

/-- What is noticed has no owner, unless the journal is told. -/
theorem owns_of_unseized {world : World σ} {fd : Descriptor}
    (unseized : (world.noticeSeizure (some fd)).Unseized) : world.owns fd = false := by
  apply Bool.eq_false_iff.mpr
  intro owned
  have told : world.noticeSeizure (some fd) = (tell (.seized fd) world).2 := if_pos owned
  rw [told] at unseized
  exact unseized fd (mem_of_tell (.seized fd) world)

theorem reactor?_noticeSeizure (world : World σ) (fd : Option Descriptor) (id : Nat) :
    (world.noticeSeizure fd).reactor? id = world.reactor? id := by
  cases fd with
  | none => rfl
  | some fd =>
      simp only [noticeSeizure]
      split <;> rfl

theorem reactor?_noticeUse (world : World σ) (fd : Option Descriptor) (id : Nat) :
    (world.noticeUse fd).reactor? id = world.reactor? id := by
  cases fd with
  | none => rfl
  | some fd =>
      simp only [noticeUse]
      split <;> rfl

/-- What is closed or driven on request has no owner, unless the journal is told. -/
theorem owns_of_answer {world : World σ} {request : Request} {fd : Descriptor} {id : Nat}
    {reactor : Reactor (Handler σ)} (concerns : request.part? = some .loops)
    (unseized : (Script.answer request world).2.Unseized) (seizes : request.seizes? = some fd)
    (found : world.reactor? id = some reactor) : reactor.owns fd = false := by
  have performed := recalls_of_changes _ _ (request.perform_changes .loops concerns
    ((world.noticeSeizure request.seizes?).noticeUse request.uses?))
  have used := recalls_of_changes _ _
    (changes_noticeUse (world.noticeSeizure request.seizes?) request.uses?)
  have earlier := (unseized.earlier performed).earlier used
  rw [seizes] at earlier
  exact owns_of_reactor (owns_of_unseized earlier) found

end World

/-! ## Deliveries -/

namespace Dispatch

variable {run : Script σ → Action σ Value} {id : Nat} {report : Report}

/-- The loop while a handler is being run. -/
def busy (serial : Nat) (loop : EventLoop (Handler σ)) : EventLoop (Handler σ) :=
  { loop with running := serial :: loop.running }

/-- The loop after a handler came back. -/
def idle (serial : Nat) (loop : EventLoop (Handler σ)) : EventLoop (Handler σ) :=
  { loop with running := loop.running.erase serial }

/-- The world in which the handler of a registration starts. -/
def begun (world : World σ) (id : Nat) (report : Report)
    (registration : Registration (Handler σ)) : World σ :=
  (tell (.handling (deliveryOf world id report registration))
    (changeLoop id (busy registration.serial) world).2).2

/-- What is done with the outcome of a handler. -/
def conclude (id : Nat) : Except Error Unit → Action σ Bool
  | .ok () => pure true
  | .error error => do
      Dispatch.report id error
      pure true

theorem deliver_of_none {world : World σ}
    (nobody : ((world.loop? id).bind fun loop => loop.addressee? report.event) = none) :
    deliver run id report world = (.ok false, world) := by
  unfold deliver
  rw [get_bind_eq]
  dsimp only
  rw [nobody]
  rfl

theorem deliver_of_some {world : World σ} {registration : Registration (Handler σ)}
    (found : ((world.loop? id).bind fun loop => loop.addressee? report.event) =
      some registration) :
    deliver run id report world =
      (do
        let outcome ← attempt (handle run id (Token.descriptor report.event.token)
          report.event.ready registration.handler)
        changeLoop id (idle registration.serial)
        conclude id outcome : Action σ Bool) (begun world id report registration) := by
  have pushing : changeLoop id (busy registration.serial) world =
      (.ok (), (changeLoop id (busy registration.serial) world).2) := rfl
  unfold deliver
  rw [get_bind_eq]
  dsimp only
  rw [found]
  dsimp only
  exact (bind_of_ok pushing).trans (bind_of_ok rfl)

theorem addressee_of_loop {world : World σ} {event : Readiness}
    {registration : Registration (Handler σ)}
    (found : ((world.loop? id).bind fun loop => loop.addressee? event) = some registration) :
    ∃ reactor, world.reactor? id = some reactor ∧
      reactor.loop.addressee? event = some registration := by
  rcases Option.bind_eq_some_iff.mp found with ⟨loop, present, addressed⟩
  rcases Option.map_eq_some_iff.mp present with ⟨reactor, there, rfl⟩
  exact ⟨reactor, there, addressed⟩

/-- The loop that a report is for has only grown since the event was reported. -/
def Awaits (id : Nat) (report : Report) (world : World σ) : Prop :=
  world.Unseized → world.Sound ∧ id < world.fresh ∧
    ∀ reactor, world.reactor? id = some reactor → ∃ reported : EventLoop (Handler σ),
      reported.Grown reactor.loop ∧ reported.Issued report.event.token ∧
        report.registration = reported.inForce? (Token.descriptor report.event.token)

theorem Awaits.later {before after : World σ} (awaits : Awaits id report before)
    (orderly : Orderly before after) : Awaits id report after := by
  intro unseized
  rcases awaits (unseized.earlier orderly.recalls) with ⟨sound, old, grown⟩
  rcases orderly.kept unseized sound with ⟨sound', later⟩
  refine ⟨sound', Nat.lt_of_lt_of_le old later.fresh, fun reactor found => ?_⟩
  rcases later.reactors id reactor old found with ⟨reactor', found', grown'⟩
  rcases grown reactor' found' with ⟨reported, before, issued, registration⟩
  exact ⟨reported, trans_of EventLoop.Grown before grown'.loop, issued, registration⟩

/-- The reports of a wait are for the loop as it was then. -/
theorem awaits_poll {world : World σ} {reactor : Reactor (Handler σ)}
    {timeout : Option Span} {events : List Readiness} {kernel : Kernel} (sound : world.Sound)
    (present : world.reactor? id = some reactor)
    (polled : reactor.loop.poller.poll timeout world.kernel = (.ok events, kernel)) :
    ∀ report ∈ events.map (Report.by reactor.loop), Awaits id report { world with kernel } := by
  intro report member _
  rcases List.mem_map.mp member with ⟨event, among, rfl⟩
  have spares : Spares (fun _ => False) world.kernel kernel := (Poller.still_of_poll polled).spares
  have watches := (sound.reactors id reactor present).loop.watching
  refine ⟨sound.spared spares (fun _ impossible => impossible.elim), sound.fresh id reactor present,
    fun reactor' present' => ?_⟩
  rw [← Option.some.inj (present.symm.trans present')]
  rcases Poller.poll_reports watches polled event among with ⟨_, issued, _⟩
  exact ⟨reactor.loop, refl_of EventLoop.Grown _, issued, rfl⟩

end Dispatch

/-! ## What relations are kept -/

/-- What is to be known of a relation that everything done with loops is to keep, where
something is known of the descriptors that are removed from a loop. -/
structure LoopRules (R : World σ → World σ → Prop) (Known : World σ → Descriptor → Prop) :
    Prop where
  /-- What is kept is at least the order of the reactors. -/
  orderly : ∀ before after, R before after → Orderly before after
  /-- Kernels that spare what the reactors own. -/
  kernel : ∀ (world : World σ) kernel touched, Spares touched world.kernel kernel →
    (∀ fd, touched fd → ∀ id reactor, world.reactor? id = some reactor →
      reactor.owns fd = false) → R world { world with kernel }
  /-- Reactors that come. -/
  comes : ∀ capacity, Keeps R (newReactor capacity : Action σ Nat)
  /-- Reactors that are held. -/
  holds : ∀ id, Keeps R (holdReactor id : Action σ Unit)
  /-- Reactors that are let go. -/
  letsGo : ∀ id, Keeps R (releaseReactor id : Action σ Unit)
  /-- Other hooks for errors. -/
  hooks : ∀ id hook, Keeps R (changeLoop id fun loop => { loop with hook } : Action σ Unit)
  /-- Other interests in a registered descriptor. -/
  modifies : ∀ id fd interest, Keeps R (onReactor id
    (Reactor.onLoop (EventLoop.modify fd interest)) : Action σ Unit)
  /-- Removals of registrations. -/
  removes : ∀ id fd (world : World σ), Known world fd →
    R world (onReactor id (Reactor.onLoop (EventLoop.remove fd)) world).2
  /-- Cancels of timers. -/
  cancels : ∀ id timer, Keeps R (Dispatch.cancel id timer : Action σ Bool)
  /-- Notices of what others do. -/
  notices : ∀ fd, Keeps R (tell (.seized fd) : Action σ Unit) ∧
    Keeps R (tell (.meddled fd) : Action σ Unit)
  /-- News that are about nothing in particular. -/
  tells : ∀ event, event.part = .rest → Keeps R (tell event : Action σ Unit)
  /-- The end of a drive. -/
  drained : ∀ (world : World σ) id loop, world.loop? id = some loop → loop.isEmpty = true →
    R world (tell (.drained id) world).2

/-- What is to be known of the reports that wait in a batch: they wait as long as the relation
is kept, and from the poll on. -/
structure Reporting (R : World σ → World σ → Prop)
    (Waits : Nat → Dispatch.Report → World σ → Prop) : Prop where
  lasts : ∀ id report before after, R before after → Waits id report before → Waits id report after
  polled : ∀ (world after : World σ) id reactor timeout events kernel,
    world.reactor? id = some reactor →
    reactor.loop.poller.poll timeout world.kernel = (.ok events, kernel) →
    Orderly world after →
    ((∀ report ∈ events.map (Dispatch.Report.by reactor.loop),
      Waits id report { world with kernel }) → R { world with kernel } after) →
    R world after

namespace LoopRules

variable {R : World σ → World σ → Prop} {Known : World σ → Descriptor → Prop}
  [IsPreorder (World σ) R] (rules : LoopRules R Known)

include rules

/-! ### Requests -/

omit [IsPreorder (World σ) R] in
/-- A kernel in which nothing was closed. -/
theorem kernel_of {world : World σ} {kernel : Kernel}
    (spares : Spares (fun _ => False) world.kernel kernel) : R world { world with kernel } :=
  rules.kernel world kernel _ spares fun _ impossible => absurd impossible id

/-- Relations that are kept where the world is in order know what waits in a batch. -/
theorem reporting
    (of_orderly : ∀ before after, Orderly before after →
      (before.Sound → R before after) → R before after) : Reporting R Dispatch.Awaits where
  lasts _ _ before after kept awaits := awaits.later (rules.orderly before after kept)
  polled world after id reactor timeout events kernel present polled orderly delivered := by
    have spares : Spares (fun _ => False) world.kernel kernel := (Poller.still_of_poll polled).spares
    refine of_orderly world after orderly fun sound => ?_
    exact trans_of R (rules.kernel_of spares)
      (delivered (Dispatch.awaits_poll sound present polled))

omit [IsPreorder (World σ) R] in
theorem system {call : SystemCall α} (still : Keeps Still call) :
    Keeps R (World.system call : Action σ α) := by
  intro world
  rw [system_world]
  exact rules.kernel_of (still world.kernel).spares

omit [IsPreorder (World σ) R] in
/-- A call that drives a readiness list that no loop owns. -/
theorem drives {call : SystemCall α} {world : World σ} {list : Descriptor}
    (tends : Keeps (Tends list fun _ _ => True) call)
    (unowned : ∀ id reactor, world.reactor? id = some reactor → reactor.owns list = false) :
    R world (result (World.system call) world).2 := by
  rw [result_world, system_world]
  refine rules.kernel world _ _ (tends world.kernel).spares fun fd same => ?_
  rw [same]
  exact unowned

theorem noticeSeizure (world : World σ) (fd : Option Descriptor) :
    R world (world.noticeSeizure fd) := by
  cases fd with
  | none => exact refl_of R world
  | some fd =>
      simp only [World.noticeSeizure]
      split
      · exact (rules.notices fd).1 world
      · exact refl_of R world

theorem noticeUse (world : World σ) (fd : Option Descriptor) : R world (world.noticeUse fd) := by
  cases fd with
  | none => exact refl_of R world
  | some fd =>
      simp only [World.noticeUse]
      split
      · exact (rules.notices fd).2 world
      · exact refl_of R world

theorem perform (request : Request) (concerns : request.part? = some .loops) {world : World σ}
    (unowned : ∀ fd, request.seizes? = some fd → ∀ id reactor,
      world.reactor? id = some reactor → reactor.owns fd = false)
    (known : ∀ fd, request.uses? = some fd → Known world fd) :
    R world (request.perform world).2 := by
  cases request <;> cases concerns
  case now | armed | listens | registered | timers => exact refl_of R world
  case advance nanos => exact rules.kernel_of (still_advance world.kernel nanos).spares
  case plan fault =>
      have planned : Still world.kernel (world.kernel.plan fault) := still_of_opened rfl rfl (Nat.le_refl _)
      exact rules.kernel_of planned.spares
  case pipe => exact rules.kernel_of (spares_openPipe world.kernel)
  case openFile path =>
      dsimp only [Request.perform, always]
      split
      next =>
          split
          next made =>
              have opened := congrArg Prod.snd made
              dsimp only at opened
              subst opened
              exact rules.kernel_of (spares_openResource world.kernel _ false)
          next => exact refl_of R world
      next => exact refl_of R world
  case close fd =>
      refine rules.kernel world _ _ (spares_close world.kernel fd) fun other same => ?_
      rw [same]
      exact unowned fd rfl
  case read fd length =>
      exact keeps_result (rules.system (keeps_named _ (still_read fd length))) world
  case write fd bytes =>
      exact keeps_result (rules.system (keeps_named _ (still_write fd bytes))) world
  case readToEnd fd chunk => exact keeps_result (rules.system (still_readToEnd fd chunk)) world
  case setNonblocking fd => exact keeps_result (rules.system (still_makeNonblocking fd)) world
  case newPoller capacity =>
      rw [Request.perform, result_world, system_world]
      exact rules.kernel_of (Poller.spares_create capacity world.kernel)
  case register poller fd token interest =>
      exact rules.drives (keeps_named _ (tends_watch poller.list fd trivial interest))
        (unowned poller.list rfl)
  case reregister poller fd token interest =>
      exact rules.drives (keeps_named _ (tends_rewatch poller.list fd trivial interest))
        (unowned poller.list rfl)
  case deregister poller fd =>
      exact rules.drives (keeps_named _ (tends_forget poller.list fd)) (unowned poller.list rfl)
  case await poller timeout => exact keeps_result (rules.system (poller.still_poll timeout)) world
  case newReactor capacity => exact keeps_result (rules.comes capacity) world
  case holdReactor id => exact rules.holds id world
  case releaseReactor id => exact rules.letsGo id world
  case setHook id hook => exact rules.hooks id hook world
  case modify id fd interest => exact keeps_result (rules.modifies id fd interest) world
  case unlisten id fd =>
      rw [Request.perform, result_world]
      exact rules.removes id fd world (known fd rfl)
  case cancel id timer => exact keeps_result (rules.cancels id timer) world

theorem answer (request : Request) (concerns : request.part? = some .loops) (world : World σ)
    (unowned : ∀ fd, request.seizes? = some fd → ∀ id reactor,
      world.reactor? id = some reactor → reactor.owns fd = false)
    (known : ∀ fd, request.uses? = some fd →
      Known ((world.noticeSeizure request.seizes?).noticeUse request.uses?) fd) :
    R world (Script.answer request world).2 := by
  have noticed := rules.noticeSeizure world request.seizes?
  have used := rules.noticeUse (world.noticeSeizure request.seizes?) request.uses?
  refine trans_of R noticed (trans_of R used ?_)
  refine rules.perform request concerns (fun fd seizes id reactor found => ?_) known
  rw [reactor?_noticeUse, reactor?_noticeSeizure] at found
  exact unowned fd seizes id reactor found

/-! ### Polls -/

theorem conclude (id : Nat) (outcome : Except Error Unit) :
    Keeps R (Dispatch.conclude id outcome : Action σ Bool) := by
  cases outcome with
  | ok => exact .pure true
  | error error =>
      have reported : Keeps R (Dispatch.report id error : Action σ Unit) := by
        refine Keeps.get.bind fun world => ?_
        split
        · exact rules.tells _ rfl
        · exact rules.tells _ rfl
        · exact .pure ()
      exact reported.bind fun _ => .pure true

/-- A delivery is the start of a handler, its run and its end. -/
theorem deliver {run : Script σ → Action σ Value} {id : Nat} {report : Dispatch.Report}
    {world : World σ}
    (serves : ∀ registration,
      ((world.loop? id).bind fun loop => loop.addressee? report.event) = some registration →
      R world (Dispatch.begun world id report registration) ∧
        R (Dispatch.begun world id report registration) (Dispatch.handle run id
          (Token.descriptor report.event.token) report.event.ready registration.handler
          (Dispatch.begun world id report registration)).2 ∧
        ∀ outcome after, attempt (Dispatch.handle run id (Token.descriptor report.event.token)
            report.event.ready registration.handler) (Dispatch.begun world id report registration) =
              (.ok outcome, after) →
          R world after → R world (changeLoop id (Dispatch.idle registration.serial) after).2) :
    R world (Dispatch.deliver run id report world).2 := by
  cases found : (world.loop? id).bind fun loop => loop.addressee? report.event with
  | none =>
      rw [Dispatch.deliver_of_none found]
      exact refl_of R world
  | some registration =>
      rcases serves registration found with ⟨begins, handled, finishes⟩
      rw [Dispatch.deliver_of_some found]
      rw [← attempt_world] at handled
      rcases ended : attempt (Dispatch.handle run id (Token.descriptor report.event.token)
        report.event.ready registration.handler) (Dispatch.begun world id report registration) with
        ⟨failure | outcome, after⟩
      · rw [ended] at handled
        rw [bind_of_error ended]
        exact trans_of R begins handled
      · rw [ended] at handled
        rw [bind_of_ok ended, changeLoop_bind_eq]
        exact trans_of R (finishes outcome after ended (trans_of R begins handled))
          (rules.conclude id outcome _)

omit rules in
theorem deliverAll {Waits : Nat → Dispatch.Report → World σ → Prop} {run : Script σ → Action σ Value}
    {id : Nat} {reports : List Dispatch.Report} {world : World σ}
    (lasts : ∀ id report before after, R before after → Waits id report before →
      Waits id report after)
    (delivers : ∀ id report world, Waits id report world →
      R world (Dispatch.deliver run id report world).2)
    (waits : ∀ report ∈ reports, Waits id report world) :
    R world (Dispatch.deliverAll run id reports world).2 := by
  induction reports generalizing world with
  | nil => exact refl_of R world
  | cons report rest ih =>
      have delivered := delivers id report world (waits report List.mem_cons_self)
      refine Keeps.bind_from delivered fun handled after ended => ?_
      rw [ended] at delivered
      refine Keeps.bind_from (ih fun other member => ?_) fun _ after _ => refl_of R after
      exact lasts id other world after delivered (waits other (List.mem_cons_of_mem report member))

variable {Waits : Nat → Dispatch.Report → World σ → Prop} (reporting : Reporting R Waits)
  {run : Script σ → Action σ Value}
  (directs : ∀ id report world, Dispatch.Awaits id report world →
    Orderly world (Dispatch.deliver run id report world).2)
  (delivers : ∀ id report world, Waits id report world →
    R world (Dispatch.deliver run id report world).2)
  (ran : ∀ script, Keeps R (run script))

include reporting directs delivers ran

theorem poll (reactor : Nat) (timeout : Option Span) :
    Keeps R (Dispatch.poll run reactor timeout) := by
  refine (rules.holds reactor).bind fun _ => ?_
  refine Keeps.bind (Keeps.attempt ?_) fun outcome =>
    (rules.letsGo reactor).bind fun _ => .ofExcept outcome
  refine Keeps.get_bind fun world => ?_
  cases found : world.loop? reactor with
  | none => exact refl_of R world
  | some loop =>
      rcases Option.map_eq_some_iff.mp found with ⟨state, present, rfl⟩
      have waited := rules.system (state.loop.poller.still_poll timeout) world
      have polls := orderly_system (state.loop.poller.still_poll timeout) world
      rcases polled : state.loop.poller.poll timeout world.kernel with ⟨cause | events, kernel⟩
      · dsimp only
        rw [system_of_error polled] at waited
        rw [bind_of_error (system_of_error polled)]
        exact waited
      · dsimp only
        rw [system_of_ok polled] at polls
        rw [bind_of_ok (system_of_ok polled)]
        have recalls : Recalls { world with kernel } (Dispatch.deliverAll run reactor
            (events.map (Dispatch.Report.by state.loop)) { world with kernel }).2 :=
          Dispatch.keeps_deliverAll recalls_of_changes
            (fun script => (ran script).mono fun _ _ kept => (rules.orderly _ _ kept).recalls)
            reactor _ _
        have orderly : Orderly world (Dispatch.deliverAll run reactor
            (events.map (Dispatch.Report.by state.loop)) { world with kernel }).2 := by
          refine Orderly.of_sound (trans_of Recalls polls.recalls recalls) fun _ sound => ?_
          exact trans_of Orderly polls (deliverAll (fun _ _ _ _ later awaits => awaits.later later)
            directs (Dispatch.awaits_poll sound present polled))
        exact reporting.polled world _ reactor state timeout events kernel present polled orderly
          (deliverAll reporting.lasts delivers)

theorem turn (reactor turns : Nat) : Keeps R (Dispatch.turn run reactor turns) := by
  induction turns with
  | zero => exact .throw _
  | succ turns ih =>
      refine Keeps.get_bind fun world => ?_
      cases found : world.loop? reactor with
      | none => exact refl_of R world
      | some loop =>
          dsimp only
          split
          next empty => exact rules.drained world reactor loop found empty
          next => exact ((rules.poll reporting directs delivers ran reactor none).bind fun _ => ih) world

theorem drive (reactor turns : Nat) : Keeps R (Dispatch.drive run reactor turns) :=
  (rules.holds reactor).bind fun _ => (rules.turn reporting directs delivers ran reactor turns).attempt.bind
    fun outcome => (rules.letsGo reactor).bind fun _ => .ofExcept outcome

end LoopRules

end ScriptHost
