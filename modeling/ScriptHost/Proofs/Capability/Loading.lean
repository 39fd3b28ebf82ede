import ScriptHost.Proofs.Capability.Fates

/-!
# The first load wins

Only a factory that succeeds and a registration that gives a capability are remembered,
under the name that was asked for.  So a name succeeds at most once, and from then on it is
answered from memory, whatever the path, and whatever factories and libraries would do by
then.
-/

namespace ScriptHost.Vault

variable {vault : Vault} {journal : Journal} {disk : Disk} {registry : Nat} {name : String}

/-! ## Calls on a registry -/

/-- A call on a registry. -/
inductive Call where
  /-- Load a name, from a path if one is given. -/
  | load (name : String) (path : Option Path)
  /-- Take the payload of a name that must be there and of a type. -/
  | require (name : String) (type : PayloadType)
  /-- Look whether a name has been loaded. -/
  | get (name : String)

/-- What a call on a registry returns. -/
inductive Reply where
  /-- A capability, if there is one. -/
  | capability (id? : Option Nat)
  /-- A payload, or why there is none. -/
  | payload (answer : Except Error (Nat × Payload))

namespace Call

/-- The name that a call is about. -/
def about : Call → String
  | load name _ | require name _ | get name => name

/-- The call takes the payload of a capability and keeps nothing of the capability itself. -/
def isRequire : Call → Bool
  | require .. => true
  | _ => false

/-- Carry out a call. -/
def perform (disk : Disk) (registry : Nat) : Call → VaultCall Reply
  | load name path => .capability <$> Vault.load disk registry name path
  | require name type => .payload <$> Vault.require disk registry name type
  | get name => .capability <$> Vault.cached registry name

/-- What comes of a call: only loads and requires try anything. -/
def fate (call : Call) (disk : Disk) (vault : Vault) (registry : Nat) : Fate :=
  match call with
  | load name path => vault.fate disk registry name path
  | require name _ => vault.fate disk registry name none
  | get name => ((vault.loadedAs? registry name).map .kept).getD .untried

/-- How a call is answered, given a capability and its payload, if there is one. -/
def reply (call : Call) (given? : Option Nat) (held? : Option (Nat × Payload)) : Reply :=
  match call with
  | load .. | get _ => .capability given?
  | require name type =>
      .payload (if given?.isSome then typed name type held? else .error (.missingCapability name))

end Call

/-- A call on a registry, made when the disk and the vault are in some state. -/
structure Turn (registry : Nat) where
  /-- The disk at the time of the call. -/
  disk : Disk
  /-- The call. -/
  call : Call
  /-- What the call finds. -/
  before : Vault × Journal

namespace Turn

variable (turn : Turn registry)

/-- The name that the call is about. -/
def about : String := turn.call.about

/-- What the call returns. -/
def reply : Reply := (turn.call.perform turn.disk registry turn.before).1

/-- What the call leaves. -/
def after : Vault × Journal := (turn.call.perform turn.disk registry turn.before).2

/-- What comes of the call. -/
def fate : Fate := turn.call.fate turn.disk turn.before.1 registry

/-- What the call tells. -/
def news : List Event := turn.after.2.toList.drop turn.before.2.toList.length

/-- The factory calls and the registrations in it that succeed. -/
def successes : List Event := turn.news.filter (turn.before.1.succeeds registry)

/-- A call has come to what it had to come to.  A require lets go of the capability that it
has loaded. -/
structure Served : Prop where
  told : turn.after.2.toList = turn.before.2.toList ++ turn.news
  news : ∃ releases : List Event,
    turn.news = turn.fate.news turn.before.1.fresh turn.about ++ releases ∧
      (∀ event ∈ releases, event.isRelease) ∧ (turn.call.isRequire = false → releases = [])
  reply : turn.reply =
    turn.call.reply (turn.fate.given? turn.before.1.fresh) (turn.fate.payload? turn.before.1)
  fresh : turn.before.1.fresh ≤ turn.after.1.fresh
  registries : turn.after.1.registries =
    remembering turn.before.1.registries registry turn.about (turn.fate.new? turn.before.1.fresh)
  capabilities : ∀ id shared, id < turn.before.1.fresh →
    turn.before.1.capabilities.get? id = some shared → 0 < shared.holders →
      turn.after.1.capability? id = some shared.value

end Turn

/-- Things were let go of, and the registries did not change. -/
structure LetsGo (before after : Vault × Journal) : Prop where
  told : ∃ releases : List Event, after.2.toList = before.2.toList ++ releases ∧
    ∀ event ∈ releases, event.isRelease
  fresh : after.1.fresh = before.1.fresh
  registries : after.1.registries = before.1.registries

instance : IsPreorder (Vault × Journal) LetsGo where
  refl _ := ⟨⟨[], (List.append_nil _).symm, by simp⟩, rfl, rfl⟩
  trans _ _ _ first second := by
    rcases first.told with ⟨early, grown, released⟩
    rcases second.told with ⟨late, grown', released'⟩
    constructor
    case told =>
        refine ⟨early ++ late, by rw [grown', grown, List.append_assoc], fun event member => ?_⟩
        rcases List.mem_append.mp member with before | after
        · exact released event before
        · exact released' event after
    case fresh => rw [second.fresh, first.fresh]
    case registries => rw [second.registries, first.registries]

theorem letsGo_sharing : Sharing LetsGo where
  told event release state := by
    refine ⟨⟨[event], Array.toList_push, fun other member => ?_⟩, rfl, rfl⟩
    rw [List.mem_singleton.mp member]
    exact release
  changed _ _ state := ⟨⟨[], (List.append_nil _).symm, by simp⟩, rfl, rfl⟩

theorem require_eq (disk : Disk) (registry : Nat) (name : String) (type : PayloadType)
    (state : Vault × Journal) :
    require disk registry name type state =
      match load disk registry name none state with
      | (none, after) => (.error (.missingCapability name), after)
      | (some capability, after) => finishRequire capability name type after := by
  unfold require
  rw [call_bind]
  rcases load disk registry name none state with ⟨answer, after⟩
  cases answer <;> rfl

namespace Turn

variable {turn : Turn registry}

theorem news_eq {told : List Event}
    (grown : turn.after.2.toList = turn.before.2.toList ++ told) : turn.news = told := by
  rw [news, grown, List.drop_left]

/-- A capability that had holders is there after a call on the registry. -/
theorem capability?_of_shares {fate : Fate} {before after : Vault × Journal} {answer : Option Nat}
    {id : Nat} {shared : Shared Capability}
    (fulfils : Fulfils fate registry name before after answer) (early : id < before.1.fresh)
    (found : before.1.capabilities.get? id = some shared) :
    ∃ shared', after.1.capabilities.get? id = some shared' ∧ shared'.value = shared.value ∧
      shared'.holders = shared.holders + if answer = some id then 1 else 0 := by
  have shares := fulfils.shares id early
  rw [found, ← fulfils.answer] at shares
  refine ⟨_, shares, ?_⟩
  by_cases given : answer = some id <;> simp [given]

theorem served_of_fulfils {answer : Option Nat}
    (fulfils : Fulfils turn.fate registry turn.about turn.before turn.after answer)
    (reply : turn.reply =
      turn.call.reply (turn.fate.given? turn.before.1.fresh) (turn.fate.payload? turn.before.1)) :
    turn.Served where
  told := by rw [news_eq fulfils.told, fulfils.told]
  news := ⟨[], by rw [news_eq fulfils.told, List.append_nil], by simp, fun _ => rfl⟩
  reply := reply
  fresh := fulfils.fresh
  registries := fulfils.registries
  capabilities id shared early found _ := by
    rcases capability?_of_shares fulfils early found with ⟨_, found', value, _⟩
    unfold capability? Shared.value?
    rw [found', ← value]
    rfl

theorem get_fulfils (disk : Disk) (registry : Nat) (name : String) (vault : Vault)
    (journal : Journal) :
    Fulfils ((Call.get name).fate disk vault registry) registry name (vault, journal)
      (cached registry name (vault, journal)).2 (cached registry name (vault, journal)).1 := by
  unfold Call.fate
  dsimp only
  cases loaded : vault.loadedAs? registry name with
  | some id => exact cached_fulfils loaded journal
  | none =>
      rw [cached_of_unloaded loaded]
      exact fulfils_nothing rfl (List.append_nil _).symm (Nat.le_refl _) rfl rfl

/-- A require that has loaded a capability takes a share of its payload and lets go of it. -/
theorem served_of_finished {type : PayloadType} {capability : Nat} {middle : Vault × Journal}
    (require : turn.call = .require name type)
    (loading : Fulfils turn.fate registry turn.about turn.before middle (some capability))
    (reply : turn.reply = .payload (finishRequire capability name type middle).1)
    (after : turn.after = (finishRequire capability name type middle).2) : turn.Served := by
  have released := letsGo_sharing.finishRequire capability name type middle
  rcases finishRequire_eq capability name type middle.1 middle.2 with ⟨payloads, finished⟩
  rw [finished] at reply after released
  rcases released.told with ⟨releases, grown, releases_only⟩
  rw [loading.told, List.append_assoc, ← after] at grown
  constructor
  case told => rw [news_eq grown, grown]
  case news =>
      refine ⟨releases, news_eq grown, releases_only, fun other => ?_⟩
      rw [require] at other
      cases other
  case reply =>
      have held := loading.payload capability loading.answer.symm
      rw [reply, held, ← loading.answer, require]
      rfl
  case fresh =>
      rw [after, released.fresh]
      exact loading.fresh
  case registries =>
      rw [after, released.registries]
      exact loading.registries
  case capabilities =>
      intro id shared early found positive
      rcases capability?_of_shares loading early found with ⟨shared', found', value, holders⟩
      have others : id = capability → 1 < shared'.holders := by
        rintro rfl
        rw [holders, if_pos rfl]
        exact Nat.succ_lt_succ positive
      rw [after, ← value]
      exact capability?_release { middle.1 with payloads } found' others middle.2

/-- A require comes to what its load comes to. -/
theorem served_require (disk : Disk) (registry : Nat) (name : String) (type : PayloadType)
    (vault : Vault) (journal : Journal) :
    Served (⟨disk, .require name type, vault, journal⟩ : Turn registry) := by
  have loading := load_fulfils disk registry name none vault journal
  have ended := require_eq disk registry name type (vault, journal)
  generalize load disk registry name none (vault, journal) = loaded at loading ended
  rcases loaded with ⟨answer, middle⟩
  have reply := congrArg (fun ended => Reply.payload ended.1) ended
  have after := congrArg Prod.snd ended
  cases answer with
  | none =>
      have fulfils : Fulfils (vault.fate disk registry name none) registry name (vault, journal)
          (require disk registry name type (vault, journal)).2 none := by
        rw [after]
        exact loading
      refine served_of_fulfils fulfils (reply.trans ?_)
      change _ = Call.reply _ ((vault.fate disk registry name none).given? vault.fresh) _
      rw [← loading.answer]
      rfl
  | some capability => exact served_of_finished rfl loading reply after

/-- Every call comes to what it has to come to. -/
theorem served (turn : Turn registry) : turn.Served := by
  rcases turn with ⟨disk, call, vault, journal⟩
  cases call with
  | load name path =>
      have fulfils := load_fulfils disk registry name path vault journal
      exact served_of_fulfils fulfils (congrArg Reply.capability fulfils.answer)
  | get name =>
      have fulfils := get_fulfils disk registry name vault journal
      exact served_of_fulfils fulfils (congrArg Reply.capability fulfils.answer)
  | require name type => exact served_require disk registry name type vault journal

/-! ## What a call leaves -/

theorem origin (turn : Turn registry) :
    Origin turn.before.1 turn.disk registry turn.about turn.fate := by
  rcases turn with ⟨disk, call, before⟩
  cases call with
  | load name path => exact fate_origin before.1 disk registry name path
  | require name type => exact fate_origin before.1 disk registry name none
  | get name =>
      unfold fate Call.fate
      dsimp only
      cases loaded : before.1.loadedAs? registry name with
      | some id => exact .memory loaded
      | none => exact .nowhere loaded

/-- After a call, the registry has loaded under the name what the call gives, and under every
other name what it had loaded before. -/
theorem loadedAs?_after (turn : Turn registry) (other : Nat) (wanted : String) :
    turn.after.1.loadedAs? other wanted =
      if registry = other ∧ turn.about = wanted then turn.fate.given? turn.before.1.fresh
      else turn.before.1.loadedAs? other wanted := by
  have registries := turn.served.registries
  cases new : turn.fate.new? turn.before.1.fresh with
  | some id =>
      rcases turn.origin.alive_of_new new with ⟨state, alive⟩
      rw [new] at registries
      rw [loadedAs?_remembering registries alive, Fate.given?_of_new new]
  | none =>
      rw [new] at registries
      have same : turn.after.1.loadedAs? other wanted = turn.before.1.loadedAs? other wanted := by
        unfold loadedAs? registryAt?
        rw [registries]
        rfl
      rw [same]
      split
      next about =>
          rcases about with ⟨rfl, rfl⟩
          cases loaded : turn.before.1.loadedAs? registry turn.about with
          | some id => rw [turn.origin.eq_kept loaded]; rfl
          | none => rw [turn.origin.given?_of_unloaded loaded, new]
      next => rfl

theorem factory?_after (turn : Turn registry) (other : Nat) (wanted : String) :
    turn.after.1.factory? other wanted = turn.before.1.factory? other wanted :=
  factory?_remembering turn.served.registries other wanted

/-- A call of which something new comes succeeds once, and any other one never. -/
theorem successes_length (turn : Turn registry) :
    turn.successes.length = (turn.fate.new? turn.before.1.fresh).toList.length := by
  rcases turn.served.news with ⟨releases, news, released, _⟩
  have none : releases.filter (turn.before.1.succeeds registry) = [] := by
    refine List.filter_eq_nil_iff.mpr fun event member => ?_
    have release := released event member
    cases event <;> first | exact release.elim | exact Bool.false_ne_true
  rw [successes, news, List.filter_append, none, List.append_nil]
  exact turn.origin.successes _

/-- A call that succeeds is about a name that has not been loaded, and then it has. -/
theorem loaded_of_successes (succeeds : turn.successes ≠ []) :
    turn.before.1.loadedAs? registry turn.about = none ∧
      ∃ id, turn.after.1.loadedAs? registry turn.about = some id := by
  cases new : turn.fate.new? turn.before.1.fresh with
  | none =>
      have length := turn.successes_length
      rw [new] at length
      exact absurd (List.eq_nil_of_length_eq_zero length) succeeds
  | some id =>
      have given := Fate.given?_of_new new
      constructor
      · cases loaded : turn.before.1.loadedAs? registry turn.about with
        | none => rfl
        | some old =>
            rw [turn.origin.eq_kept loaded] at new
            cases new
      · rw [turn.loadedAs?_after, if_pos ⟨rfl, rfl⟩]
        exact ⟨id, given⟩

theorem successes_length_le (turn : Turn registry) : turn.successes.length ≤ 1 := by
  rw [turn.successes_length]
  cases turn.fate.new? turn.before.1.fresh with
  | none => exact Nat.zero_le 1
  | some id => exact Nat.le_refl 1

/-- A call is answered from memory: nothing is called or opened, at most something is let go of. -/
structure Recalls (turn : Turn registry) (id : Nat) : Prop where
  reply : turn.reply = turn.call.reply (some id) (turn.before.1.payloadOf? id)
  quiet : ∀ event ∈ turn.news, event.isRelease
  silent : turn.call.isRequire = false → turn.news = []

theorem recalls {id : Nat} (loaded : turn.before.1.loadedAs? registry turn.about = some id) :
    turn.Recalls id := by
  have served := turn.served
  have kept := turn.origin.eq_kept loaded
  rcases served.news with ⟨releases, news, released, silent⟩
  rw [kept] at news
  constructor
  case reply =>
      rw [served.reply, kept]
      rfl
  case quiet =>
      rw [news]
      exact released
  case silent =>
      intro other
      rw [news, silent other]
      rfl

end Turn

/-! ## Between calls -/

/-- What may happen to a registry besides calls on it: factories may come to give other
results, and libraries may change, but nothing that has been loaded is forgotten or replaced. -/
structure Meanwhile (registry : Nat) (before after : Vault) : Prop where
  loaded : ∀ name, after.loadedAs? registry name = before.loadedAs? registry name
  builtins : ∀ name, (after.factory? registry name).isSome = (before.factory? registry name).isSome

/-- A registry that is there stays as it is. -/
def Spares (registry : Nat) (before after : Vault × Journal) : Prop :=
  registry < before.1.fresh →
    registry < after.1.fresh ∧ after.1.registryAt? registry = before.1.registryAt? registry

instance : IsPreorder (Vault × Journal) (Spares registry) where
  refl _ there := ⟨there, rfl⟩
  trans _ _ _ first second there := by
    rcases first there with ⟨there', same⟩
    rcases second there' with ⟨there'', same'⟩
    exact ⟨there'', same'.trans same⟩

theorem Spares.meanwhile {before after : Vault × Journal} (spares : Spares registry before after)
    (there : registry < before.1.fresh) : Meanwhile registry before.1 after.1 where
  loaded name := by rw [loadedAs?, (spares there).2]; rfl
  builtins name := by rw [factory?, (spares there).2]; rfl

theorem spares_tell (event : Event) : Keeps (Spares registry) (tell event) :=
  fun _ there => ⟨there, rfl⟩

theorem spares_newId : Keeps (Spares registry) newId :=
  fun _ there => ⟨Nat.lt_succ_of_lt there, rfl⟩

theorem spares_sharing : Sharing (Spares registry) where
  told event _ := spares_tell event
  changed _ _ _ there := ⟨there, rfl⟩

theorem spares_browsing : Browsing (Spares registry) where
  told event _ := spares_tell event
  numbered := spares_newId

theorem spares_turn {other : Nat} (turn : Turn other) (different : other ≠ registry) :
    Spares registry turn.before turn.after := by
  intro there
  refine ⟨Nat.lt_of_lt_of_le there turn.served.fresh, ?_⟩
  rw [registryAt?_remembering turn.served.registries, if_neg different]

theorem spares_addRegistry (builtins : Table String Factory) (libraries : LibraryLoader) :
    Keeps (Spares registry) (addRegistry builtins libraries) := by
  intro state there
  refine ⟨Nat.lt_succ_of_lt there, ?_⟩
  change (Table.get? (Table.insert _ _ _) registry).map Shared.value = _
  rw [Table.get?_insert, if_neg (Nat.ne_of_gt there)]
  rfl

theorem spares_holdRegistry (id : Nat) : Keeps (Spares registry) (holdRegistry id) :=
  fun _ there => ⟨there, Shared.value?_hold ..⟩

/-- Letting go of another registry, or of one that somebody else holds. -/
theorem spares_releaseRegistry {id : Nat}
    (held : id = registry → ∀ shared, vault.registries.get? id = some shared → 1 < shared.holders)
    (journal : Journal) :
    Spares registry (vault, journal) (releaseRegistry id (vault, journal)).2 := by
  have stays := Shared.value?_letGo vault.registries id registry
  have kept : ¬(id = registry ∧ (Shared.letGo vault.registries id).1.isSome) := by
    rintro ⟨same, gone⟩
    unfold Shared.letGo at gone
    cases found : vault.registries.get? id with
    | none =>
        rw [found] at gone
        cases gone
    | some shared =>
        rw [found] at gone
        simp [Nat.not_le_of_lt (held same shared found)] at gone
  rw [if_neg kept] at stays
  unfold releaseRegistry
  rw [current_bind]
  generalize Shared.letGo vault.registries id = left at stays ⊢
  rcases left with ⟨gone, registries⟩
  have first : Spares registry (vault, journal) ({ vault with registries }, journal) :=
    fun there => ⟨there, stays⟩
  dsimp only
  rw [change_bind]
  cases gone with
  | some state => exact trans_of _ first (Keeps.forM_state spares_sharing.release _ _)
  | none => exact first

/-- The request is not a call on a registry, and is not the last holder's letting go of it. -/
def Passes (registry : Nat) (vault : Vault) : Request → Prop
  | .load id .. | .loaded id _ | .requireCapability id .. => id ≠ registry
  | .releaseRegistry id =>
      id = registry → ∀ shared, vault.registries.get? id = some shared → 1 < shared.holders
  | _ => True

theorem spares_request {σ : Type} {request : Request} (concerns : request.part? = some .vault)
    (world : World σ) (passes : Passes registry world.vault request) :
    Spares registry (world.vault, world.journal)
      ((request.perform world).2.vault, (request.perform world).2.journal) := by
  cases request <;> cases concerns
  case registry | capability | payloadOf => exact refl_of (Spares registry) _
  case newRegistry => exact spares_addRegistry _ _ (world.vault, world.journal)
  case holdRegistry => exact spares_holdRegistry _ (world.vault, world.journal)
  case releaseRegistry => exact spares_releaseRegistry passes world.journal
  case load id name path =>
      exact spares_turn ⟨world.disk, .load name path, world.vault, world.journal⟩ passes
  case loaded id name =>
      exact spares_turn ⟨world.disk, .get name, world.vault, world.journal⟩ passes
  case requireCapability id name type =>
      exact spares_turn ⟨world.disk, .require name type, world.vault, world.journal⟩ passes
  case release => exact spares_sharing.release _ (world.vault, world.journal)
  case closeCapability => exact spares_sharing.close _ (world.vault, world.journal)
  case holdPayloadOf => exact spares_sharing.holdPayloadOf _ (world.vault, world.journal)
  case releasePayload => exact spares_sharing.releasePayload _ (world.vault, world.journal)
  case probe => exact spares_browsing.probe world.disk _ _ _ (world.vault, world.journal)

/-- Every other request that a script makes may come between two calls on a registry, unless
it makes or unmakes a whole runtime. -/
theorem meanwhile_of_answer {σ : Type} {request : Request} {part : Part}
    (concerns : request.part? = some part) (world : World σ)
    (passes : Passes registry world.vault request) (there : registry < world.vault.fresh) :
    Meanwhile registry world.vault
      ((Script.answer request : Action σ request.Reply) world).2.vault := by
  have changes := Script.answer_changes request part concerns world
  by_cases own : part = .vault
  · subst own
    have quiet := request.notices_nothing .vault concerns (by decide)
    unfold Script.answer
    rw [quiet.1, quiet.2]
    exact (spares_request concerns world passes).meanwhile there
  · rw [changes.vault own]
    exact (refl_of (Spares registry) (world.vault, world.journal)).meanwhile there

/-! ## Runs of calls -/

/-- Calls on a registry, one after another, from some state of the vault on. -/
inductive Course (registry : Nat) : Vault → List (Turn registry) → Prop where
  | done (vault : Vault) : Course registry vault []
  | turn {vault : Vault} {turn : Turn registry} {turns : List (Turn registry)}
      (since : Meanwhile registry vault turn.before.1)
      (later : Course registry turn.after.1 turns) : Course registry vault (turn :: turns)

namespace Course

variable {start : Vault} {turns : List (Turn registry)}

/-- What calls keep, and what meanwhile is kept, every call finds. -/
theorem finds (P : Vault → Prop) (course : Course registry start turns)
    (waits : ∀ before after, Meanwhile registry before after → P before → P after)
    (calls : ∀ turn : Turn registry, P turn.before.1 → P turn.after.1) (initial : P start) :
    ∀ turn ∈ turns, P turn.before.1 := by
  induction course with
  | done => simp
  | turn since later ih =>
      have found := waits _ _ since initial
      intro turn member
      rcases List.mem_cons.mp member with rfl | member
      · exact found
      · exact ih (calls _ found) turn member

/-- What has been loaded stays. -/
theorem finds_loaded {name : String} {id : Nat} (course : Course registry start turns)
    (loaded : start.loadedAs? registry name = some id) :
    ∀ turn ∈ turns, turn.before.1.loadedAs? registry name = some id := by
  refine course.finds (fun vault => vault.loadedAs? registry name = some id) ?waits ?calls loaded
  case waits => exact fun before after meanwhile held => (meanwhile.loaded name).trans held
  case calls =>
      intro turn held
      rw [turn.loadedAs?_after]
      split
      next about =>
          rcases about with ⟨_, rfl⟩
          rw [turn.origin.eq_kept held]
          rfl
      next => exact held

theorem finds_builtin {name : String} (course : Course registry start turns)
    (builtin : (start.factory? registry name).isSome) :
    ∀ turn ∈ turns, (turn.before.1.factory? registry name).isSome := by
  refine course.finds (fun vault => (vault.factory? registry name).isSome) ?waits ?calls builtin
  case waits => exact fun before after meanwhile held => (meanwhile.builtins name).trans held
  case calls =>
      intro turn held
      rw [turn.factory?_after]
      exact held

theorem recalls {id : Nat} (course : Course registry start turns) {name : String}
    (loaded : start.loadedAs? registry name = some id) :
    ∀ turn ∈ turns, turn.about = name → turn.Recalls id := by
  rintro turn member rfl
  exact Turn.recalls (course.finds_loaded loaded turn member)

/-- The factory calls and registrations that succeed for a name. -/
def successes (turns : List (Turn registry)) (name : String) : List Event :=
  (turns.filter fun turn => turn.about = name).flatMap Turn.successes

theorem successes_cons (turn : Turn registry) (turns : List (Turn registry)) (name : String) :
    successes (turn :: turns) name =
      if turn.about = name then turn.successes ++ successes turns name
      else successes turns name := by
  unfold successes
  rw [List.filter_cons]
  by_cases about : turn.about = name
  · rw [if_pos (decide_eq_true about), if_pos about, List.flatMap_cons]
  · rw [if_neg (by simpa using about), if_neg about]

theorem successes_of_loaded {id : Nat} (course : Course registry start turns)
    (loaded : start.loadedAs? registry name = some id) : successes turns name = [] := by
  refine List.flatMap_eq_nil_iff.mpr fun turn member => ?_
  rcases List.mem_filter.mp member with ⟨member, about⟩
  have held := course.finds_loaded loaded turn member
  rw [← of_decide_eq_true about] at held
  apply Classical.byContradiction
  intro succeeds
  rw [(Turn.loaded_of_successes succeeds).1] at held
  cases held

/-- At most one factory call or registration succeeds for a name. -/
theorem successes_length_le (course : Course registry start turns) (name : String) :
    (successes turns name).length ≤ 1 := by
  induction course with
  | done => exact Nat.zero_le 1
  | @turn vault turn turns since later ih =>
      rw [successes_cons]
      split
      next about =>
          subst about
          by_cases fails : turn.successes = []
          · rw [fails]
            exact ih
          · rcases (Turn.loaded_of_successes fails).2 with ⟨id, loaded⟩
            rw [later.successes_of_loaded loaded, List.append_nil]
            exact turn.successes_length_le
      next => exact ih

/-- What a call leaves loaded, every later call about the name is answered with. -/
theorem pairwise_recalls (course : Course registry start turns) :
    turns.Pairwise fun earlier later => earlier.about = later.about → ∀ id,
      earlier.after.1.loadedAs? registry earlier.about = some id → later.Recalls id := by
  induction course with
  | done => exact .nil
  | turn since later ih =>
      refine .cons (fun turn member about id loaded => ?_) ih
      exact later.recalls loaded turn member about.symm

end Course

/-- The first load wins. -/
structure FirstLoadWins (start : Vault) (turns : List (Turn registry)) : Prop where
  /-- Calls add to the history what they tell. -/
  told : ∀ turn ∈ turns, turn.after.2.toList = turn.before.2.toList ++ turn.news
  /-- A call gives what the registry has then loaded under the name. -/
  gives : ∀ turn ∈ turns, ∃ held?, turn.reply =
    turn.call.reply (turn.after.1.loadedAs? registry turn.about) held?
  /-- Once a name has been loaded, every later call about it gives the same capability. -/
  wins : turns.Pairwise fun earlier later => earlier.about = later.about → ∀ id,
    earlier.after.1.loadedAs? registry earlier.about = some id → later.Recalls id
  /-- For each name, at most one factory call or registration succeeds. -/
  once : ∀ name, (Course.successes turns name).length ≤ 1
  /-- Nothing is opened for a name that is built in. -/
  builtin : ∀ turn ∈ turns, (start.factory? registry turn.about).isSome →
    ∀ event ∈ turn.news, ¬event.isOpening
  /-- A call about one name leaves alone what is loaded under others and in other registries. -/
  apart : ∀ turn ∈ turns, ∀ other name, ¬(registry = other ∧ turn.about = name) →
    turn.after.1.loadedAs? other name = turn.before.1.loadedAs? other name
  /-- No call changes a capability that somebody holds. -/
  intact : ∀ turn ∈ turns, ∀ id shared, id < turn.before.1.fresh →
    turn.before.1.capabilities.get? id = some shared → 0 < shared.holders →
      turn.after.1.capability? id = some shared.value

theorem first_load_wins {start : Vault} {turns : List (Turn registry)}
    (course : Course registry start turns) : FirstLoadWins start turns where
  told turn _ := turn.served.told
  gives turn _ := by
    refine ⟨turn.fate.payload? turn.before.1, ?_⟩
    rw [turn.loadedAs?_after, if_pos ⟨rfl, rfl⟩]
    exact turn.served.reply
  wins := course.pairwise_recalls
  once := course.successes_length_le
  builtin turn member builtin event told := by
    rcases turn.served.news with ⟨releases, news, released, _⟩
    have found := course.finds_builtin builtin turn member
    rw [news] at told
    rcases List.mem_append.mp told with tried | letGo
    · exact turn.origin.not_opening _ found event tried
    · have release := released event letGo
      intro opening
      cases event <;> first | exact release.elim | exact opening.elim
  apart turn _ other name different := by
    rw [turn.loadedAs?_after, if_neg different]
  intact turn _ := turn.served.capabilities

/-- A registry with a clock that cannot be made, and a library of compression. -/
def workshop : Vault where
  registries := .ofList [(0, .one
    { builtins := .ofList [("clock", ⟨false, .error (.capabilityType "clock" "Clock")⟩)]
      libraries := .table (.ofList [("zlib.so", .ofList [("_register_zlib", some 6)])])
      loaded := .empty })]
  capabilities := .empty
  payloads := .empty
  fresh := 1

/-- The first load there. -/
def firstLoad : Turn 0 := ⟨.empty, .load "zlib" none, workshop, #[]⟩

/-- A second load, from elsewhere, when the caller has let go of what the first one gave. -/
def secondLoad : Turn 0 :=
  ⟨.empty, .load "zlib" (some ⟨"other.so"⟩), (release 3 firstLoad.after).2⟩

/-- A load of the clock. -/
def clockLoad : Turn 0 := ⟨.empty, .load "clock" (some ⟨"zlib.so"⟩), secondLoad.after⟩

/-- The second load gives the capability of the first one, and does nothing for it. -/
theorem second_load_is_the_first :
    Course 0 workshop [firstLoad, secondLoad, clockLoad] ∧
      firstLoad.reply = .capability (some 3) ∧ secondLoad.reply = .capability (some 3) ∧
      secondLoad.news = [] ∧ ∀ event ∈ clockLoad.news, ¬event.isOpening := by
  have still : Meanwhile 0 workshop workshop := ⟨fun _ => rfl, fun _ => rfl⟩
  have idle : Meanwhile 0 secondLoad.after.1 secondLoad.after.1 := ⟨fun _ => rfl, fun _ => rfl⟩
  have there : 0 < firstLoad.after.1.fresh := by decide +kernel
  have letGo := (spares_sharing.release 3 firstLoad.after).meanwhile there
  have course : Course 0 workshop [firstLoad, secondLoad, clockLoad] :=
    .turn still (.turn letGo (.turn idle (.done _)))
  have wins := first_load_wins course
  have loaded : firstLoad.after.1.loadedAs? 0 "zlib" = some 3 := by decide +kernel
  have recalled := (List.pairwise_cons.mp wins.wins).1 secondLoad (by simp) rfl 3 loaded
  refine ⟨course, rfl, recalled.reply, recalled.silent rfl, ?_⟩
  exact wins.builtin clockLoad (by simp) (by decide +kernel)

end ScriptHost.Vault
