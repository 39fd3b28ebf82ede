import ScriptHost.Proofs.Runs.Scripts

/-!
# Relations that do not mind a part

A relation that every change of the loaders satisfies is kept by a require as
soon as the bodies of modules keep it, and one that every change of the loops
satisfies is kept by a poll as soon as handlers keep it.
-/

namespace ScriptHost

open World

variable {σ α : Type} {R : World σ → World σ → Prop} [IsPreorder (World σ) R]

/-! ## Modules -/

namespace Modules

/-- An evaluation compiles its record, runs the body, or assigns to a container. -/
theorem ends_evaluate {cut : Prop} {engine : Engine σ} {run : Script σ → Action σ Value}
    (rest : ∀ before after, Changes .rest before after → R before after)
    (compiles : ∀ id, Keeps R (changeRecord id fun record => { record with isCompiled := true }))
    (ran : ∀ script, Ends cut R (run script)) (loader id : Nat) (record : ModuleRecord) :
    Ends cut R (evaluate engine run loader id record) := by
  have json : Ends cut R (evaluateJson record : Action σ Unit) := by
    unfold evaluateJson
    cases Json.parse record.source with
    | ok json => exact Keeps.ends fun world => rest _ _ (changes_rest rfl rfl rfl rfl rfl rfl rfl rfl)
    | error fault => exact .raise _
  have told : Ends cut R
      (tell (.compiled record.path.text Engine.moduleParameters) : Action σ Unit) :=
    Keeps.ends (Keeps.mono rest (changes_tell _ (.inl rfl)))
  have script : Ends cut R (evaluateScript engine run loader id record) :=
    told.bind fun _ => (Ends.ofExcept _).bind fun body =>
      (compiles id).ends.bind fun _ => (ran _).bind fun _ => .pure ()
  unfold evaluate
  cases record.kind with
  | json => exact json
  | script | native => exact script

variable (indifferent : ∀ before after, Changes .modules before after → R before after)

include indifferent

omit [IsPreorder (World σ) R] in
theorem keeps_tell (event : Event) (about : event.part = .modules ∨ event.part = .rest) :
    Keeps R (tell event : Action σ Unit) :=
  (changes_tell event about).mono indifferent

omit [IsPreorder (World σ) R] in
theorem keeps_changeLoader (loader : Nat) (f : ModuleLoader → ModuleLoader) :
    Keeps R (changeLoader loader f : Action σ Unit) :=
  fun world => indifferent _ _ ⟨Nat.le_refl _, fun other => absurd rfl other,
    fun _ => ⟨rfl, rfl⟩, fun _ => rfl, fun _ => rfl, Adds.refl world.journal⟩

omit [IsPreorder (World σ) R] in
theorem keeps_newRecord (record : ModuleRecord) :
    Keeps R (newRecord record : Action σ Nat) :=
  fun world => indifferent _ _ ⟨Nat.le_refl _, fun other => absurd rfl other,
    fun _ => ⟨rfl, rfl⟩, fun _ => rfl, fun _ => rfl, Adds.refl world.journal⟩

omit [IsPreorder (World σ) R] in
theorem keeps_changeRecord (record : Nat) (f : ModuleRecord → ModuleRecord) :
    Keeps R (changeRecord record f : Action σ Unit) :=
  fun world => indifferent _ _ ⟨Nat.le_refl _, fun other => absurd rfl other,
    fun _ => ⟨rfl, rfl⟩, fun _ => rfl, fun _ => rfl, Adds.refl world.journal⟩

theorem keeps_enter (loader : Nat) (path directory : Path) (kind : ModuleKind)
    (origin : ModuleOrigin) (source : String) :
    Keeps R (enter loader path directory kind origin source : Action σ _) := by
  refine Keeps.bind (fun world => indifferent _ _ ?_) fun exports => ?_
  · exact changes_rest rfl rfl rfl rfl rfl rfl rfl rfl
  exact (keeps_newRecord indifferent _).bind fun id =>
    (keeps_changeLoader indifferent loader _).bind fun _ =>
      (keeps_tell indifferent _ (.inl rfl)).bind fun _ => .pure _

theorem keeps_answerWith (loader record : Nat) (path : Path) :
    Keeps R (answerWith loader record path : Action σ (Option Nat)) :=
  Keeps.get.bind fun _ => (keeps_tell indifferent _ (.inl rfl)).bind fun _ => .pure _

/-- What a require does with the answer of its search. -/
def answerSearch (engine : Engine σ) (run : Script σ → Action σ Value) (loader : Nat)
    (path directory : Path) (kind : ModuleKind) :
    Except FileError (Option ModuleSearch.Hit) → Action σ (Option Nat)
  | .error cause => raise (.file cause)
  | .ok none => pure none
  | .ok (some (source, origin)) =>
      some <$> instantiate engine run loader path directory kind origin source

section Ends

variable {cut : Prop} {engine : Engine σ} {run : Script σ → Action σ Value}
  (ran : ∀ script, Ends cut R (run script))

include ran

theorem ends_instantiate (loader : Nat) (path directory : Path) (kind : ModuleKind)
    (origin : ModuleOrigin) (source : String) :
    Ends cut R (instantiate engine run loader path directory kind origin source) := by
  have evaluated (id : Nat) (record : ModuleRecord) :
      Ends cut R (evaluate engine run loader id record) :=
    ends_evaluate (fun before after changes => indifferent before after changes.of_rest)
      (fun id => keeps_changeRecord indifferent id _) ran loader id record
  refine (keeps_enter indifferent loader _ _ _ _ _).ends.bind fun entered => ?_
  refine (evaluated entered.1 entered.2).attempt.bind fun outcome => ?_
  cases outcome with
  | ok =>
      exact Ends.get.bind fun world => (keeps_tell indifferent _ (.inl rfl)).ends.bind fun _ =>
        .pure _
  | error error =>
      exact (keeps_changeLoader indifferent loader _).ends.bind fun _ =>
        (keeps_tell indifferent _ (.inl rfl)).ends.bind fun _ => .raise error

theorem ends_requireNative (loader : Nat) (name : String) :
    Ends cut R (requireNative engine run loader name) := by
  refine Ends.get.bind fun world => ?_
  cases world.loaders.get? loader with
  | none => exact .pure none
  | some state =>
      dsimp only
      cases state.lookup? ⟨Specifier.nativeEntry name⟩ with
      | some record => exact (keeps_answerWith indifferent loader record _).ends
      | none =>
          refine (keeps_tell indifferent _ (.inl rfl)).ends.bind fun _ => ?_
          cases state.resources.get? (Specifier.nativeEntry name) with
          | none => exact .pure none
          | some text => exact (ends_instantiate indifferent ran loader _ _ _ _ _).map _

theorem ends_answerSearch (loader : Nat) (path directory : Path) (kind : ModuleKind)
    (answer : Except FileError (Option ModuleSearch.Hit)) :
    Ends cut R (answerSearch engine run loader path directory kind answer) := by
  rcases answer with cause | _ | ⟨source, origin⟩
  · exact .raise _
  · exact .pure none
  · exact (ends_instantiate indifferent ran loader _ _ _ _ _).map _

theorem ends_requireFile (loader : Nat) (state : ModuleLoader) (requester : Option Nat)
    (kind : ModuleKind) (specifier : String) :
    Ends cut R (requireFile engine run loader state requester kind specifier) := by
  refine Ends.get.bind fun world => ?_
  generalize (baseDirectory world state.paths requester).resolve specifier = path
  dsimp only
  cases state.lookup? path with
  | some record => exact (keeps_answerWith indifferent loader record path).ends
  | none =>
      refine (keeps_tell indifferent _ (.inl rfl)).ends.bind fun _ => ?_
      rcases ModuleSearch.locate world.disk state.resources state.paths path with ⟨answer, report?⟩
      have proceed : Ends cut R (answerSearch engine run loader path
          (path.parent?.getD state.paths.appRoot) kind answer) :=
        ends_answerSearch indifferent ran loader path _ kind answer
      cases report? with
      | some report => exact (keeps_tell indifferent _ (.inr rfl)).ends.bind fun _ => proceed
      | none => exact proceed

theorem ends_require (loader : Nat) (requester : Option Nat) (specifier : String) :
    Ends cut R (require engine run loader requester specifier) := by
  refine Ends.get.bind fun world => ?_
  cases world.loaders.get? loader with
  | none => exact .pure none
  | some state =>
      dsimp only
      split
      · exact ends_requireFile indifferent ran loader state requester _ _
      · exact ends_requireNative indifferent ran loader _

end Ends

section Keeps

variable {engine : Engine σ} {run : Script σ → Action σ Value}
  (ran : ∀ script, Keeps R (run script))

include ran

theorem keeps_requireNative (loader : Nat) (name : String) :
    Keeps R (requireNative engine run loader name) :=
  ends_true_iff.mp (ends_requireNative indifferent (fun script => (ran script).ends) loader name)

theorem keeps_require (loader : Nat) (requester : Option Nat) (specifier : String) :
    Keeps R (require engine run loader requester specifier) :=
  ends_true_iff.mp
    (ends_require indifferent (fun script => (ran script).ends) loader requester specifier)

end Keeps

end Modules

/-! ## Loops -/

/-- What is to be known of a relation with regard to what polls do beside the turns of
events. -/
structure Polling (R : World σ → World σ → Prop) : Prop where
  /-- Reactors that are held. -/
  holds : ∀ id, Keeps R (holdReactor id : Action σ Unit)
  /-- Reactors that are let go. -/
  letsGo : ∀ id, Keeps R (releaseReactor id : Action σ Unit)
  /-- Waits. -/
  waits : ∀ (poller : Poller) timeout, Keeps R (system (poller.poll timeout) : Action σ _)
  /-- What follows the callbacks of timers. -/
  settles : ∀ reactor timer isRepeating outcome,
    Keeps R (onReactor reactor (Reactor.settle timer isRepeating outcome) : Action σ Unit)
  /-- News. -/
  tells : ∀ event, event.part = .loops ∨ event.part = .rest → Keeps R (tell event : Action σ Unit)

namespace Polling

open Dispatch

omit [IsPreorder (World σ) R] in
theorem of_changes (indifferent : ∀ before after, Changes .loops before after → R before after) :
    Polling R where
  holds id := (changes_holdReactor id).mono indifferent
  letsGo id := (changes_releaseReactor id).mono indifferent
  waits _ _ := (changes_system _).mono indifferent
  settles reactor _ _ _ := (changes_onReactor reactor _).mono indifferent
  tells event about := (changes_tell event about).mono indifferent

variable {cut : Prop} (polling : Polling R)

include polling

omit [IsPreorder (World σ) R] in
theorem mono {S : World σ → World σ → Prop} (weaker : ∀ before after, R before after → S before after) :
    Polling S where
  holds id := (polling.holds id).mono weaker
  letsGo id := (polling.letsGo id).mono weaker
  waits poller timeout := (polling.waits poller timeout).mono weaker
  settles reactor timer isRepeating outcome :=
    (polling.settles reactor timer isRepeating outcome).mono weaker
  tells event about := (polling.tells event about).mono weaker

theorem withReactor (id : Nat) {action : Action σ α} (ends : Ends cut R action) :
    Ends cut R (withReactor id action) :=
  (polling.holds id).ends.bind fun _ => ends.attempt.bind fun outcome =>
    (polling.letsGo id).ends.bind fun _ => .ofExcept outcome

theorem settle (reactor : Nat) (timer : TimerHandle) (isRepeating : Bool)
    (outcome : Except Error Unit) :
    Keeps R (settle reactor timer isRepeating outcome : Action σ Unit) := by
  refine Keeps.get.bind fun world => ?_
  cases world.reactor? reactor with
  | none => exact .ofExcept outcome
  | some state => exact Keeps.ite (polling.settles reactor _ _ _) (.ofExcept outcome)

theorem noticeHollow (reactor : Nat) (timer : TimerHandle) :
    Keeps R (noticeHollow reactor timer : Action σ Unit) :=
  Keeps.get.bind fun _ => Keeps.ite (polling.tells _ (.inl rfl)) (.pure ())

theorem noticeUnread (reactor : Nat) (timer : TimerHandle) :
    Keeps R (noticeUnread reactor timer : Action σ Unit) :=
  Keeps.get.bind fun _ => Keeps.ite (polling.tells _ (.inl rfl)) (.pure ())

theorem report (reactor : Nat) (error : Error) :
    Keeps R (report reactor error : Action σ Unit) := by
  refine Keeps.get.bind fun world => ?_
  split
  · exact polling.tells _ (.inr rfl)
  · exact polling.tells _ (.inr rfl)
  · exact .pure ()

section Handlers

variable {run : Script σ → Action σ Value} (ran : ∀ script, Ends cut R (run script))

include ran

theorem ring (reactor : Nat) (timer : TimerHandle) (isRepeating : Bool)
    (callback : Script σ) : Ends cut R (ring run reactor timer isRepeating callback) := by
  refine Ends.get.bind fun world => (polling.tells _ (.inl rfl)).ends.bind fun _ => ?_
  refine Ends.bind (Ends.attempt ((ran callback).bind fun _ => .pure ())) fun outcome => ?_
  refine (polling.settle reactor timer isRepeating outcome).attempt.ends.bind fun settled => ?_
  exact (polling.tells _ (.inl rfl)).ends.bind fun _ => .ofExcept settled

theorem alarm (reactor : Nat) (timer : TimerHandle) (isRepeating : Bool)
    (callback : Script σ) : Ends cut R (alarm run reactor timer isRepeating callback) := by
  refine (polling.noticeHollow reactor timer).ends.bind fun _ => ?_
  refine (polling.ring ran reactor timer isRepeating callback).attempt.bind fun outcome => ?_
  exact (polling.noticeUnread reactor timer).ends.bind fun _ => .ofExcept outcome

theorem handle (reactor : Nat) (fd : Descriptor) (ready : Interest) (handler : Handler σ) :
    Ends cut R (handle run reactor fd ready handler) := by
  cases handler with
  | script body => exact (ran _).bind fun _ => .pure ()
  | timer timer isRepeating callback => exact polling.alarm ran reactor timer isRepeating callback

end Handlers

section Deliveries

variable {run : Script σ → Action σ Value}
  (delivers : ∀ reactor report, Ends cut R (deliver run reactor report))

include delivers

omit polling in
theorem deliverAll (reactor : Nat) (reports : List Report) :
    Ends cut R (deliverAll run reactor reports) := by
  induction reports with
  | nil => exact .pure 0
  | cons report rest ih =>
      exact (delivers reactor report).bind fun _ => ih.bind fun _ => .pure _

theorem poll (reactor : Nat) (timeout : Option Kernel.Span) :
    Ends cut R (poll run reactor timeout) := by
  refine polling.withReactor reactor (Ends.get.bind fun world => ?_)
  cases world.loop? reactor with
  | none => exact .raise _
  | some loop =>
      exact (polling.waits loop.poller timeout).ends.bind fun events =>
        deliverAll delivers reactor _

theorem turn (reactor turns : Nat) : Ends cut R (turn run reactor turns) := by
  induction turns with
  | zero => exact .throw _
  | succ turns ih =>
      refine Ends.get.bind fun world => ?_
      cases world.loop? reactor with
      | none => exact .raise _
      | some loop =>
          exact Ends.ite (polling.tells _ (.inl rfl)).ends
            ((polling.poll delivers reactor none).bind fun _ => ih)

theorem drive (reactor turns : Nat) : Ends cut R (drive run reactor turns) :=
  polling.withReactor reactor (polling.turn delivers reactor turns)

end Deliveries

end Polling

namespace Dispatch

variable {cut : Prop} (indifferent : ∀ before after, Changes .loops before after → R before after)

include indifferent

theorem keeps_listenFor (reactor : Nat) (fd : Descriptor) (interest : Interest)
    (handler : Descriptor → Interest → Script σ) :
    Keeps R (Script.listenFor reactor fd interest handler) :=
  Keeps.bind (fun world => indifferent _ _ (changes_noticeUse world (some fd))) fun _ =>
    (changes_onReactor reactor _).mono indifferent

theorem keeps_schedule (reactor : Nat) (delay : Kernel.Span) (isRepeating : Bool)
    (callback : Script σ) : Keeps R (schedule reactor delay isRepeating callback) := by
  have tells := (Polling.of_changes indifferent).tells
  refine Keeps.get.bind fun _ => ?_
  refine ((changes_onReactor reactor _).mono indifferent).bind fun timer => Keeps.get.bind fun _ => ?_
  exact (tells _ (.inl rfl)).bind fun _ => (tells _ (.inl rfl)).bind fun _ => .pure timer

section Ends

variable {run : Script σ → Action σ Value} (ran : ∀ script, Ends cut R (run script))

include ran

theorem ends_deliver (reactor : Nat) (report : Report) :
    Ends cut R (deliver run reactor report) := by
  have polling := Polling.of_changes indifferent
  have change (f : EventLoop (Handler σ) → EventLoop (Handler σ)) : Ends cut R (changeLoop reactor f) :=
    ((changes_changeLoop reactor f).mono indifferent).ends
  refine Ends.get.bind fun world => ?_
  cases (world.loop? reactor).bind fun loop => loop.addressee? report.event with
  | none => exact .pure false
  | some registration =>
      refine (change _).bind fun _ => (polling.tells _ (.inl rfl)).ends.bind fun _ => ?_
      refine (polling.handle ran reactor _ _ registration.handler).attempt.bind
        fun outcome => (change _).bind fun _ => ?_
      cases outcome with
      | ok => exact .pure true
      | error error => exact (polling.report reactor error).ends.bind fun _ => .pure true

theorem ends_poll (reactor : Nat) (timeout : Option Kernel.Span) :
    Ends cut R (poll run reactor timeout) :=
  (Polling.of_changes indifferent).poll (ends_deliver indifferent ran) reactor timeout

theorem ends_drive (reactor turns : Nat) : Ends cut R (drive run reactor turns) :=
  (Polling.of_changes indifferent).drive (ends_deliver indifferent ran) reactor turns

end Ends

section Keeps

variable {run : Script σ → Action σ Value} (ran : ∀ script, Keeps R (run script))

include ran

theorem keeps_deliver (reactor : Nat) (report : Report) : Keeps R (deliver run reactor report) :=
  ends_true_iff.mp (ends_deliver indifferent (fun script => (ran script).ends) reactor report)

theorem keeps_deliverAll (reactor : Nat) (reports : List Report) :
    Keeps R (deliverAll run reactor reports) :=
  ends_true_iff.mp (Polling.deliverAll
    (ends_deliver indifferent fun script => (ran script).ends) reactor reports)

theorem keeps_poll (reactor : Nat) (timeout : Option Kernel.Span) :
    Keeps R (poll run reactor timeout) :=
  ends_true_iff.mp (ends_poll indifferent (fun script => (ran script).ends) reactor timeout)

theorem keeps_drive (reactor turns : Nat) : Keeps R (drive run reactor turns) :=
  ends_true_iff.mp (ends_drive indifferent (fun script => (ran script).ends) reactor turns)

end Keeps

end Dispatch

end ScriptHost
