import ScriptHost.Proofs.Runs.Keeping
import ScriptHost.Script.Exec

/-!
# The parts of a world

Loaders with their records, loops with the kernel below them, the vault and the
runtimes are four parts of a world that no request changes together, unless it
makes or unmakes a whole runtime.  A call that changes one of them leaves the
others as they are, and tells the journal nothing that is about them.  What an
invariant of one part needs to know of the calls on the others is said here once.
-/

namespace ScriptHost

variable {σ α : Type}

/-- A part of a world. -/
inductive Part where
  /-- The loaders and the records. -/
  | modules
  /-- The kernel, the loops and their timers. -/
  | loops
  /-- Capabilities, payloads and registries. -/
  | vault
  /-- The runtimes, and who holds them. -/
  | runtimes
  /-- Everything else. -/
  | rest
deriving DecidableEq, Repr

/-- What part an event is about. -/
def Event.part : Event → Part
  | found .. | searched .. | evaluating .. | evaluated .. | evaluationFailed ..
  | exportsReplaced .. => .modules
  | handling .. | drained .. | scheduled .. | armed .. | hollow .. | ringing .. | rang ..
  | unread .. | cancelled .. | meddled .. | seized .. => .loops
  | factory .. | opening .. | opened .. | resolved .. | registered .. | obtained ..
  | payloadFreed .. | dropped .. | closed .. => .vault
  | handedOver .. => .runtimes
  | note .. | log .. | uncaught .. | compiled .. | script .. | module .. => .rest

/-! ## Shares of capabilities -/

/-- Something was let go of. -/
def Event.isRelease : Event → Prop
  | .payloadFreed .. | .dropped .. | .closed .. => True
  | _ => False

namespace Vault

theorem keeps_current {R : Vault × Journal → Vault × Journal → Prop}
    [IsPreorder (Vault × Journal) R] : Keeps R current :=
  Keeps.still fun _ => rfl

theorem keeps_pure {R : Vault × Journal → Vault × Journal → Prop}
    [IsPreorder (Vault × Journal) R] (value : α) : Keeps R (pure value : VaultCall α) :=
  Keeps.still fun _ => rfl

/-- What a require does with the capability that it has loaded. -/
def finishRequire (capability : Nat) (name : String) (type : PayloadType) :
    VaultCall (Except Error (Nat × Payload)) := do
  let answer ←
    match (← current).payloadOf? capability with
    | some (id, payload) =>
        if type.admits payload then
          holdPayload id
          pure (.ok (id, payload))
        else pure (.error (.capabilityType name type.fullName))
    | none => pure (.error (.capabilityType name type.fullName))
  release capability
  pure answer

/-- What is to be known of a relation with regard to calls that take and give back shares of
capabilities and payloads. -/
structure Sharing (R : Vault × Journal → Vault × Journal → Prop) : Prop where
  told : ∀ event : Event, event.isRelease → Keeps R (Vault.tell event)
  changed : ∀ (capabilities : Vault → Table Nat (Shared Capability))
    (payloads : Vault → Table Nat (Shared Payload)), Keeps R (Vault.change fun vault =>
      { vault with capabilities := capabilities vault, payloads := payloads vault })

namespace Sharing

variable {R : Vault × Journal → Vault × Journal → Prop} [IsPreorder (Vault × Journal) R]
  (sharing : Sharing R)

include sharing

omit [IsPreorder (Vault × Journal) R] in
theorem holdPayload (id : Nat) : Keeps R (Vault.holdPayload id) :=
  sharing.changed Vault.capabilities fun vault => Shared.hold vault.payloads id

theorem releasePayload (id : Nat) : Keeps R (Vault.releasePayload id) := by
  refine keeps_current.bind_state fun vault => ?_
  rcases Shared.letGo vault.payloads id with ⟨gone, payloads⟩
  refine (sharing.changed Vault.capabilities fun _ => payloads).bind_state fun _ => ?_
  cases gone with
  | some payload => exact sharing.told (.payloadFreed id payload) trivial
  | none => exact keeps_pure ()

theorem dismantle (capability : Capability) : Keeps R (Vault.dismantle capability) := by
  unfold Vault.dismantle
  cases capability.payload <;> cases capability.handle
  case none.none => exact keeps_pure ()
  case none.some handle => exact sharing.told (.closed handle) trivial
  case some.none payload => exact (sharing.releasePayload payload).bind_state fun _ => keeps_pure ()
  case some.some payload handle =>
      exact (sharing.releasePayload payload).bind_state fun _ =>
        sharing.told (.closed handle) trivial

theorem release (id : Nat) : Keeps R (Vault.release id) := by
  refine keeps_current.bind_state fun vault => ?_
  rcases Shared.letGo vault.capabilities id with ⟨gone, capabilities⟩
  refine (sharing.changed (fun _ => capabilities) Vault.payloads).bind_state fun _ => ?_
  cases gone with
  | none => exact keeps_pure ()
  | some capability =>
      dsimp only
      cases capability.handle with
      | some handle =>
          refine keeps_current.bind_state fun _ => ?_
          exact (sharing.told (.dropped handle _) trivial).bind_state fun _ =>
            sharing.dismantle capability
      | none => exact sharing.dismantle capability

theorem close (id : Nat) : Keeps R (Vault.close id) := by
  refine keeps_current.bind_state fun vault => ?_
  cases vault.capability? id with
  | none => exact keeps_pure false
  | some capability =>
      refine Keeps.ite (keeps_pure false) ?_
      have emptied := sharing.changed (fun vault => vault.capabilities.modify id <|
        Shared.map fun capability => { capability with payload := none, handle := none })
        Vault.payloads
      exact emptied.bind_state fun _ =>
        (sharing.dismantle capability).bind_state fun _ => keeps_pure true

theorem holdPayloadOf (id : Nat) : Keeps R (Vault.holdPayloadOf id) := by
  refine keeps_current.bind_state fun vault => ?_
  cases vault.payloadOf? id with
  | none => exact keeps_pure none
  | some held => exact (sharing.holdPayload _).bind_state fun _ => keeps_pure _

theorem finishRequire (capability : Nat) (name : String) (type : PayloadType) :
    Keeps R (Vault.finishRequire capability name type) := by
  have finish (answer : Except Error (Nat × Payload)) :
      Keeps R (do Vault.release capability; pure answer : VaultCall _) :=
    (sharing.release capability).bind_state fun _ => keeps_pure answer
  refine keeps_current.bind_state fun vault => ?_
  cases vault.payloadOf? capability with
  | none => exact (keeps_pure _).bind_state finish
  | some held =>
      refine Keeps.ite ?_ ((keeps_pure _).bind_state finish)
      exact (sharing.holdPayload _).bind_state fun _ => (keeps_pure _).bind_state finish

end Sharing

/-- What is to be known of a relation with regard to calls that only look into libraries. -/
structure Browsing (R : Vault × Journal → Vault × Journal → Prop) : Prop where
  told : ∀ event : Event, event.part = .vault → Keeps R (Vault.tell event)
  numbered : Keeps R Vault.newId

namespace Browsing

variable {R : Vault × Journal → Vault × Journal → Prop} [IsPreorder (Vault × Journal) R]
  (browsing : Browsing R)

include browsing

theorem inspect (source : LibrarySource) (path : Path) (library : Symbols)
    (symbols : List String) : Keeps R (Vault.inspect source path library symbols) := by
  refine browsing.numbered.bind_state fun id => (browsing.told _ rfl).bind_state fun _ => ?_
  have answers : Keeps R (symbols.mapM fun symbol => do
      Vault.tell (.resolved source symbol)
      pure (LibraryLoader.findSymbol source library symbol) : VaultCall _) :=
    Keeps.mapM_state (fun _ => (browsing.told _ rfl).bind_state fun _ => keeps_pure _) symbols
  exact answers.bind_state fun _ => (browsing.told _ rfl).bind_state fun _ => keeps_pure _

theorem probe (disk : Disk) (loader : LibraryLoader) (path : Path) (symbols : List String) :
    Keeps R (Vault.probe disk loader path symbols) := by
  unfold Vault.probe
  cases loader.openLibrary disk path with
  | error cause =>
      exact Keeps.ite ((browsing.told _ rfl).bind_state fun _ => keeps_pure _) (keeps_pure _)
  | ok library =>
      have look := (browsing.inspect loader.source path library symbols).bind_state fun answers =>
        keeps_pure (Except.ok (ε := LibraryError) (path, answers))
      exact Keeps.ite ((browsing.told _ rfl).bind_state fun _ => look) look

end Browsing

end Vault

namespace World

/-- The later history is the earlier one with news about one part. -/
def Adds (part : Part) (before after : Journal) : Prop :=
  ∃ news, after.toList = before.toList ++ news ∧
    ∀ event ∈ news, event.part = part ∨ event.part = .rest

/-- What lies between two worlds concerns one part. -/
structure Changes (part : Part) (before after : World σ) : Prop where
  fresh : before.fresh ≤ after.fresh
  modules : part ≠ .modules → after.loaders = before.loaders ∧ after.records = before.records
  loops : part ≠ .loops → after.kernel = before.kernel ∧ after.reactors = before.reactors
  vault : part ≠ .vault → after.vault = before.vault
  runtimes : part ≠ .runtimes → after.runtimes = before.runtimes
  journal : Adds part before.journal after.journal

variable {part : Part}

theorem Adds.refl (journal : Journal) : Adds part journal journal :=
  ⟨[], (List.append_nil _).symm, by simp⟩

theorem Adds.trans {before middle after : Journal} (first : Adds part before middle)
    (second : Adds part middle after) : Adds part before after := by
  rcases first with ⟨early, middle_eq, early_part⟩
  rcases second with ⟨late, after_eq, late_part⟩
  refine ⟨early ++ late, ?_, ?_⟩
  · rw [after_eq, middle_eq, List.append_assoc]
  · intro event member
    rcases List.mem_append.mp member with inEarly | inLate
    · exact early_part event inEarly
    · exact late_part event inLate

theorem Adds.push (journal : Journal) {event : Event}
    (about : event.part = part ∨ event.part = .rest) : Adds part journal (journal.push event) := by
  refine ⟨[event], Array.toList_push, ?_⟩
  intro other member
  rw [List.mem_singleton.mp member]
  exact about

instance : IsPreorder (World σ) (Changes part) where
  refl _ := ⟨Nat.le_refl _, fun _ => ⟨rfl, rfl⟩, fun _ => ⟨rfl, rfl⟩, fun _ => rfl, fun _ => rfl,
    .refl _⟩
  trans _ _ _ first second :=
    { fresh := Nat.le_trans first.fresh second.fresh
      modules := fun other =>
        ⟨(second.modules other).1.trans (first.modules other).1,
          (second.modules other).2.trans (first.modules other).2⟩
      loops := fun other =>
        ⟨(second.loops other).1.trans (first.loops other).1,
          (second.loops other).2.trans (first.loops other).2⟩
      vault := fun other => (second.vault other).trans (first.vault other)
      runtimes := fun other => (second.runtimes other).trans (first.runtimes other)
      journal := first.journal.trans second.journal }

/-- A change of the rest is a change of any part. -/
theorem Changes.of_rest {before after : World σ} (changes : Changes .rest before after) :
    Changes part before after where
  fresh := changes.fresh
  modules _ := changes.modules (by decide)
  loops _ := changes.loops (by decide)
  vault _ := changes.vault (by decide)
  runtimes _ := changes.runtimes (by decide)
  journal := by
    rcases changes.journal with ⟨news, after_eq, about⟩
    exact ⟨news, after_eq, fun event member => .inr (by simpa using about event member)⟩

theorem changes_tell (event : Event) (about : event.part = part ∨ event.part = .rest) :
    Keeps (Changes part) (tell event : Action σ Unit) := by
  intro world
  exact ⟨Nat.le_refl _, fun _ => ⟨rfl, rfl⟩, fun _ => ⟨rfl, rfl⟩, fun _ => rfl, fun _ => rfl,
    .push _ about⟩

/-! ## Loops -/

theorem changes_loops (kernel : Kernel) (reactors : Table Nat (Shared (Reactor (Handler σ))))
    (world : World σ) : Changes .loops world { world with kernel, reactors } :=
  ⟨Nat.le_refl _, fun _ => ⟨rfl, rfl⟩, fun other => absurd rfl other, fun _ => rfl, fun _ => rfl,
    .refl _⟩

theorem changes_system (call : SystemCall α) :
    Keeps (Changes .loops) (system call : Action σ α) := by
  refine Keeps.bind (fun world => changes_loops _ world.reactors world) fun answer => ?_
  cases answer with
  | ok value => exact .pure value
  | error cause => exact .raise _

theorem changes_onReactor (id : Nat) (call : ReactorCall (Handler σ) α) :
    Keeps (Changes .loops) (onReactor id call) := by
  refine Keeps.get_bind fun world => ?_
  cases world.reactor? id with
  | none => exact refl_of _ world
  | some reactor =>
      exact Keeps.bind_from (changes_loops _ _ world) fun _ after _ => Keeps.ofExcept _ after

theorem changes_changeLoop (id : Nat) (f : EventLoop (Handler σ) → EventLoop (Handler σ)) :
    Keeps (Changes .loops) (changeLoop id f) := by
  intro world
  exact changes_loops world.kernel _ world

theorem changes_newReactor (capacity : Nat) :
    Keeps (Changes .loops) (newReactor capacity : Action σ Nat) := by
  refine (changes_system _).bind fun reactor => ?_
  intro world
  exact ⟨Nat.le_succ _, fun _ => ⟨rfl, rfl⟩, fun other => absurd rfl other, fun _ => rfl, fun _ => rfl,
    .refl _⟩

theorem changes_holdReactor (id : Nat) :
    Keeps (Changes .loops) (holdReactor id : Action σ Unit) := by
  intro world
  exact changes_loops world.kernel _ world

theorem changes_releaseReactor (id : Nat) :
    Keeps (Changes .loops) (releaseReactor id : Action σ Unit) := by
  intro world
  exact changes_loops _ _ world

theorem changes_noticeSeizure (world : World σ) (fd : Option Descriptor) :
    Changes .loops world (world.noticeSeizure fd) := by
  cases fd with
  | none => exact refl_of _ world
  | some fd =>
      simp only [noticeSeizure]
      split
      · have told : Keeps (Changes .loops) (tell (.seized fd) : Action σ Unit) :=
          changes_tell _ (.inl rfl)
        exact told world
      · exact refl_of _ world

theorem changes_noticeUse (world : World σ) (fd : Option Descriptor) :
    Changes .loops world (world.noticeUse fd) := by
  cases fd with
  | none => exact refl_of _ world
  | some fd =>
      simp only [noticeUse]
      split
      · have told : Keeps (Changes .loops) (tell (.meddled fd) : Action σ Unit) :=
          changes_tell _ (.inl rfl)
        exact told world
      · exact refl_of _ world

/-! ## The vault -/

/-- What a call on the vault tells the journal is about the vault. -/
def VaultAdds (before after : Vault × Journal) : Prop :=
  Adds .vault before.2 after.2

instance : IsPreorder (Vault × Journal) VaultAdds where
  refl state := Adds.refl state.2
  trans _ _ _ := Adds.trans

theorem adds_change (f : Vault → Vault) : Keeps VaultAdds (Vault.change f) :=
  fun state => Adds.refl state.2

theorem adds_tell (event : Event) (about : event.part = .vault ∨ event.part = .rest) :
    Keeps VaultAdds (Vault.tell event) :=
  fun state => Adds.push state.2 about

theorem adds_newId : Keeps VaultAdds Vault.newId :=
  fun state => Adds.refl state.2

theorem adds_sharing : Vault.Sharing VaultAdds where
  told event release := by
    apply adds_tell
    cases event <;> first | exact .inl rfl | exact release.elim
  changed _ _ := adds_change _

theorem adds_browsing : Vault.Browsing VaultAdds where
  told event about := adds_tell event (.inl about)
  numbered := adds_newId

theorem adds_addRegistry (builtins : Table String Factory) (libraries : LibraryLoader) :
    Keeps VaultAdds (Vault.addRegistry builtins libraries) :=
  adds_newId.bind_state fun _ => (adds_change _).bind_state fun _ => Vault.keeps_pure _

theorem adds_releaseRegistry (id : Nat) : Keeps VaultAdds (Vault.releaseRegistry id) := by
  refine Vault.keeps_current.bind_state fun vault => ?_
  rcases Shared.letGo vault.registries id with ⟨gone, registries⟩
  refine (adds_change _).bind_state fun _ => ?_
  cases gone with
  | some registry => exact Keeps.forM_state adds_sharing.release _
  | none => exact Vault.keeps_pure ()

theorem adds_cached (registry : Nat) (name : String) :
    Keeps VaultAdds (Vault.cached registry name) := by
  refine Vault.keeps_current.bind_state fun vault => ?_
  cases (vault.registryAt? registry).bind fun r => r.loaded.get? name with
  | some id => exact (adds_change _).bind_state fun _ => Vault.keeps_pure _
  | none => exact Vault.keeps_pure none

theorem adds_remember (registry : Nat) (capability : Capability) :
    Keeps VaultAdds (Vault.remember registry capability) :=
  (adds_newId.bind_state fun _ => (adds_change _).bind_state fun _ => Vault.keeps_pure _).bind_state
    fun _ => (adds_change _).bind_state fun _ => Vault.keeps_pure _

theorem adds_remembered (registry : Nat) (capability : Capability) :
    Keeps VaultAdds (some <$> Vault.remember registry capability) :=
  adds_remember registry capability

theorem adds_makeBuiltin (registry : Nat) (name : String) (factory : Factory) :
    Keeps VaultAdds (Vault.makeBuiltin registry name factory) := by
  refine (adds_tell _ (.inl rfl)).bind_state fun _ => ?_
  cases factory.result with
  | ok payload =>
      exact (adds_newId.bind_state fun _ => (adds_change _).bind_state fun _ =>
        Vault.keeps_pure _).bind_state fun _ => adds_remembered registry _
  | error error => exact (adds_tell _ (.inr rfl)).bind_state fun _ => Vault.keeps_pure none

theorem adds_openCapability (disk : Disk) (registry : Nat) (loader : LibraryLoader)
    (name : String) (path : Path) :
    Keeps VaultAdds (Vault.openCapability disk registry loader name path) := by
  refine (adds_tell _ (.inl rfl)).bind_state fun _ => ?_
  cases loader.openLibrary disk path with
  | error cause => exact Vault.keeps_pure none
  | ok symbols =>
      refine adds_newId.bind_state fun id => (adds_tell _ (.inl rfl)).bind_state fun _ =>
        (adds_tell _ (.inl rfl)).bind_state fun _ => ?_
      cases LibraryLoader.findSymbol loader.source symbols (LibraryLoader.registerSymbol name) with
      | error cause => exact (adds_tell _ (.inl rfl)).bind_state fun _ => Vault.keeps_pure none
      | ok level? =>
          refine (adds_tell _ (.inl rfl)).bind_state fun _ => ?_
          cases level? with
          | none => exact (adds_tell _ (.inl rfl)).bind_state fun _ => Vault.keeps_pure none
          | some level =>
              exact (adds_newId.bind_state fun _ => (adds_change _).bind_state fun _ =>
                Vault.keeps_pure _).bind_state fun _ => (adds_tell _ (.inl rfl)).bind_state fun _ =>
                  adds_remembered registry _

theorem adds_load (disk : Disk) (registry : Nat) (name : String) (path : Option Path) :
    Keeps VaultAdds (Vault.load disk registry name path) := by
  refine (adds_cached registry name).bind_state fun known => ?_
  cases known with
  | some id => exact Vault.keeps_pure _
  | none =>
      refine Vault.keeps_current.bind_state fun vault => ?_
      cases vault.registryAt? registry with
      | none => exact Vault.keeps_pure none
      | some state =>
          dsimp only
          cases state.builtins.get? name with
          | some factory => exact adds_makeBuiltin registry name factory
          | none => exact Keeps.ite (adds_openCapability _ _ _ _ _) (Vault.keeps_pure none)

theorem adds_require (disk : Disk) (registry : Nat) (name : String) (type : PayloadType) :
    Keeps VaultAdds (Vault.require disk registry name type) := by
  refine (adds_load disk registry name none).bind_state fun found => ?_
  cases found with
  | none => exact Vault.keeps_pure _
  | some capability => exact adds_sharing.finishRequire capability name type

theorem changes_vaultCall {call : VaultCall α} (adds : Keeps VaultAdds call) :
    Keeps (Changes .vault) (vaultCall call : StateM (World σ) α) := by
  intro world
  exact ⟨Nat.le_refl _, fun _ => ⟨rfl, rfl⟩, fun _ => ⟨rfl, rfl⟩, fun other => absurd rfl other,
    fun _ => rfl, adds (world.vault, world.journal)⟩

/-! ## Runtimes -/

theorem changes_runtimes (world : World σ) (runtimes : Table Nat (Shared Runtime)) :
    Changes .runtimes world { world with runtimes } :=
  ⟨Nat.le_refl _, fun _ => ⟨rfl, rfl⟩, fun _ => ⟨rfl, rfl⟩, fun _ => rfl,
    fun other => absurd rfl other, .refl _⟩

theorem changes_takeWorker (id : Nat) :
    Keeps (Changes .runtimes) (takeWorker id : Action σ (Option String)) := by
  refine Keeps.get.bind fun world => ?_
  cases (world.runtime? id).bind Runtime.worker with
  | none => exact .pure none
  | some source =>
      have told : Keeps (Changes .runtimes) (tell (.handedOver id source) : Action σ Unit) :=
        changes_tell _ (.inl rfl)
      exact Keeps.bind (fun world => changes_runtimes world _) fun _ => told.bind fun _ => .pure _

/-! ## Results -/

theorem result_world (action : Action σ α) (world : World σ) :
    (result action world).2 = (action world).2 := by
  unfold result
  split <;> simp only [*]

theorem keeps_result {R : World σ → World σ → Prop} {action : Action σ α}
    (keeps : Keeps R action) : Keeps R (result action) := by
  intro world
  rw [result_world]
  exact keeps world

end World

open World

/-- Cancelling a timer changes only loops. -/
theorem Dispatch.changes_cancel (reactor : Nat) (timer : TimerHandle) :
    Keeps (Changes .loops) (cancel reactor timer : Action σ Bool) := by
  refine Keeps.get.bind fun world => ?_
  have told : Keeps (Changes .loops) (tell (.cancelled reactor timer) : Action σ Unit) :=
    changes_tell _ (.inl rfl)
  exact Keeps.ite (told.bind fun _ => changes_onReactor reactor _) (changes_onReactor reactor _)

/-! ## Requests -/

/-- The part that a request may change, unless it is about a whole runtime. -/
def Request.part? : Request → Option Part
  | newLoader .. | setExports .. => some .modules
  | now | advance _ | armed | plan _ | pipe | openFile _ | close _ | read .. | write ..
  | readToEnd .. | setNonblocking _ | newPoller _ | register .. | reregister .. | deregister ..
  | await .. | newReactor _ | holdReactor _ | releaseReactor _ | setHook .. | modify ..
  | unlisten .. | listens .. | registered _ | timers _ | cancel .. => some .loops
  | newRegistry .. | registry _ | holdRegistry _ | releaseRegistry _ | load .. | loaded ..
  | requireCapability .. | capability _ | release _ | closeCapability _ | holdPayloadOf _
  | payloadOf _ | releasePayload _ | probe .. => some .vault
  | note _ | putNode .. | remove _ | enterDirectory _ | isFile _ | readText _ | currentPath
  | environment | loadSettings _ | findSettings _ | loader _ | record _ | newContainer _
  | container _ | assign .. | setMember .. | runtime _ => some .rest
  | bootstrap .. | holdRuntime _ | releaseRuntime _ => none

variable {part : Part}

/-- A world that differs in nothing that belongs to a part. -/
theorem changes_rest {before after : World σ} (fresh : after.fresh = before.fresh)
    (loaders : after.loaders = before.loaders) (records : after.records = before.records)
    (kernel : after.kernel = before.kernel) (reactors : after.reactors = before.reactors)
    (vault : after.vault = before.vault) (runtimes : after.runtimes = before.runtimes)
    (journal : after.journal = before.journal) : Changes part before after where
  fresh := Nat.le_of_eq fresh.symm
  modules _ := ⟨loaders, records⟩
  loops _ := ⟨kernel, reactors⟩
  vault _ := vault
  runtimes _ := runtimes
  journal := by
    rw [journal]
    exact Adds.refl before.journal

namespace Request

theorem perform_modules (request : Request) (concerns : request.part? = some .modules) :
    Keeps (Changes .modules) (request.perform : StateM (World σ) request.Reply) := by
  cases request <;> cases concerns
  case newLoader resources paths =>
      intro world
      exact ⟨Nat.le_succ _, fun other => absurd rfl other, fun _ => ⟨rfl, rfl⟩, fun _ => rfl,
        fun _ => rfl, Adds.refl world.journal⟩
  case setExports record container =>
      intro world
      exact ⟨Nat.le_refl _, fun other => absurd rfl other, fun _ => ⟨rfl, rfl⟩, fun _ => rfl,
        fun _ => rfl, Adds.push world.journal (.inl rfl)⟩

theorem perform_loops (request : Request) (concerns : request.part? = some .loops) :
    Keeps (Changes .loops) (request.perform : StateM (World σ) request.Reply) := by
  cases request <;> cases concerns
  case now | armed | listens | registered | timers => exact Keeps.still fun _ => rfl
  case advance | plan | pipe | close =>
      intro world
      exact changes_loops _ world.reactors world
  case openFile path =>
      intro world
      dsimp only [perform, always]
      split
      · split
        · exact changes_loops _ world.reactors world
        · exact refl_of _ world
      · exact refl_of _ world
  case read | write | readToEnd | setNonblocking | newPoller | register | reregister | deregister
      | await => exact keeps_result (changes_system _)
  case newReactor capacity => exact keeps_result (changes_newReactor capacity)
  case holdReactor id => exact changes_holdReactor id
  case releaseReactor id => exact changes_releaseReactor id
  case setHook id hook => exact changes_changeLoop id fun loop => { loop with hook }
  case modify | unlisten => exact keeps_result (changes_onReactor _ _)
  case cancel id timer => exact keeps_result (Dispatch.changes_cancel id timer)

theorem perform_vault (request : Request) (concerns : request.part? = some .vault) :
    Keeps (Changes .vault) (request.perform : StateM (World σ) request.Reply) := by
  cases request <;> cases concerns
  case registry | capability | payloadOf => exact Keeps.still fun _ => rfl
  case newRegistry => exact changes_vaultCall (adds_addRegistry _ _)
  case holdRegistry => exact changes_vaultCall (adds_change _)
  case releaseRegistry => exact changes_vaultCall (adds_releaseRegistry _)
  case load => exact fun world => changes_vaultCall (adds_load world.disk _ _ _) world
  case loaded => exact changes_vaultCall (adds_cached _ _)
  case requireCapability =>
      exact fun world => changes_vaultCall (adds_require world.disk _ _ _) world
  case release => exact changes_vaultCall (adds_sharing.release _)
  case closeCapability => exact changes_vaultCall (adds_sharing.close _)
  case holdPayloadOf => exact changes_vaultCall (adds_sharing.holdPayloadOf _)
  case releasePayload => exact changes_vaultCall (adds_sharing.releasePayload _)
  case probe => exact fun world => changes_vaultCall (adds_browsing.probe world.disk _ _ _) world

theorem perform_rest (request : Request) (concerns : request.part? = some .rest) :
    Keeps (Changes .rest) (request.perform : StateM (World σ) request.Reply) := by
  cases request <;> cases concerns
  case isFile | readText | currentPath | environment | loadSettings | findSettings | loader
      | record | container | runtime => exact Keeps.still fun _ => rfl
  case note line =>
      have told : Keeps (Changes .rest) (tell (.note line) : Action σ Unit) :=
        changes_tell _ (.inl rfl)
      exact told
  case setMember id key value =>
      intro world
      dsimp only [perform, always]
      split
      · exact changes_rest rfl rfl rfl rfl rfl rfl rfl rfl
      · exact refl_of _ world
  case putNode | remove | enterDirectory | newContainer | assign =>
      exact fun world => changes_rest rfl rfl rfl rfl rfl rfl rfl rfl

/-- A request changes at most its own part. -/
theorem perform_changes (request : Request) (part : Part) (concerns : request.part? = some part) :
    Keeps (Changes part) (request.perform : StateM (World σ) request.Reply) := by
  cases part with
  | modules => exact perform_modules request concerns
  | loops => exact perform_loops request concerns
  | vault => exact perform_vault request concerns
  | runtimes => cases request <;> cases concerns
  | rest => exact perform_rest request concerns

/-- Only requests about the loops seize or use a descriptor. -/
theorem notices_nothing (request : Request) (part : Part) (concerns : request.part? = some part)
    (other : part ≠ .loops) : request.seizes? = none ∧ request.uses? = none := by
  cases request <;> cases concerns <;> first | exact ⟨rfl, rfl⟩ | exact absurd rfl other

end Request

/-- The answer to a request changes at most the part that the request is about. -/
theorem Script.answer_changes (request : Request) (part : Part)
    (concerns : request.part? = some part) :
    Keeps (Changes part) (answer request : Action σ request.Reply) := by
  intro world
  by_cases loops : part = .loops
  · subst loops
    have noticed := trans_of (Changes .loops) (changes_noticeSeizure world request.seizes?)
      (changes_noticeUse _ request.uses?)
    exact trans_of _ noticed (request.perform_changes .loops concerns _)
  · have quiet := request.notices_nothing part concerns loops
    have performed := request.perform_changes part concerns world
    unfold answer
    rw [quiet.1, quiet.2]
    exact performed

/-- A relation that only the changes of one part concern is kept by all answers to requests
if it is kept by those about that part. -/
theorem Script.keeps_answer {R : World σ → World σ → Prop} {part : Part}
    (elsewhere : ∀ {other : Part}, other ≠ part → ∀ before after, Changes other before after →
      R before after)
    (own : ∀ request, Request.part? request = some part → Keeps R (answer request))
    (request : Request) (other : Part) (concerns : request.part? = some other) :
    Keeps R (answer request : Action σ request.Reply) := by
  by_cases same : other = part
  · subst same
    exact own request concerns
  · exact (answer_changes request other concerns).mono (elsewhere same)

end ScriptHost
