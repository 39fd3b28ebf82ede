import ScriptHost.Proofs.Modules.Growth

/-!
# The payloads of native modules

The cache tells paths apart by their components, the store of embedded texts tells
names apart by their characters.  A record that is kept has the components of its key and
holds the text that the store has under the record's own name.  So a require of a native
module is answered from the text of its entry, unless a record is kept for the key that
was made from another text: under another spelling of the name, or from a file.
-/

namespace ScriptHost.Modules

open World

variable {σ : Type} {before after world : World σ} {state : ModuleLoader}
  {loader : Nat} {path : Path} {source : Source}

/-! ## What records are made from -/

/-- What a loader keeps for a key has that key and, if it says so, is from the store. -/
structure MadeFor (state : ModuleLoader) (key : List Component) (record : ModuleRecord) : Prop where
  path : record.path.components = key
  native : record.kind = .native → record.origin = .embedded record.path.text
  embedded : ∀ name, record.origin = .embedded name →
    state.resources.get? name = some record.source

/-- Every record that is kept was made for its key. -/
def Stocked (world : World σ) : Prop :=
  ∀ loader state key id, world.loaders.get? loader = some state →
    state.cache.get? key = some id →
    ∃ record, world.records[id]? = some record ∧ MadeFor state key record

/-- A native module that is kept holds the text that the store has under its own name. -/
theorem MadeFor.text {key : List Component} {record : ModuleRecord}
    (made : MadeFor state key record) (native : record.kind = .native) :
    state.resources.get? record.path.text = some record.source :=
  made.embedded _ (made.native native)

/-- What has been made for a key is unaffected by what happens to the record. -/
theorem MadeFor.continues {key : List Component} {record later : ModuleRecord}
    {state' : ModuleLoader} (made : MadeFor state key record) (continues : Continues record later)
    (resources : state'.resources = state.resources) : MadeFor state' key later := by
  rw [continues]
  constructor
  case path => exact made.path
  case native => exact made.native
  case embedded =>
      rw [resources]
      exact made.embedded

/-! ## Runs keep what records are made from -/

/-- Records go on, and those that are kept were made for their keys. -/
structure Supplies (before after : World σ) : Prop where
  records : ∀ (id : Nat) record, before.records[id]? = some record →
    ∃ later, after.records[id]? = some later ∧ Continues record later
  stocked : Stocked before → Stocked after

instance : IsPreorder (World σ) Supplies where
  refl _ := ⟨fun _ record found => ⟨record, found, rfl⟩, id⟩
  trans _ _ _ first second := by
    constructor
    case records =>
        intro id record found
        rcases first.records id record found with ⟨middle, found', early⟩
        rcases second.records id middle found' with ⟨later, found'', late⟩
        exact ⟨later, found'', early.trans late⟩
    case stocked => exact second.stocked ∘ first.stocked

/-- Nothing is kept that was not kept before. -/
theorem supplies_of_entries
    (records : ∀ (id : Nat) record, before.records[id]? = some record →
      ∃ later, after.records[id]? = some later ∧ Continues record later)
    (entries : ∀ loader later key id, after.loaders.get? loader = some later →
      later.cache.get? key = some id → Old before loader later key id) :
    Supplies before after := by
  constructor
  case records => exact records
  case stocked =>
      intro stocked loader later key id present kept
      rcases entries loader later key id present kept with ⟨state, present', resources, -, kept'⟩
      rcases stocked loader state key id present' kept' with ⟨record, found, made⟩
      rcases records id record found with ⟨record', found', continues⟩
      exact ⟨record', found', made.continues continues resources⟩

/-! ## Evaluations -/

/-- The source of a file module comes from the search, with the kind that it was aimed at, and
its home is the directory above. -/
theorem located_of_find {stock : Stock} {aim : Aim} {kind : ModuleKind}
    (aimed : aim.kind? = some kind) (found : (stock.find aim).1 = .ok (some source)) :
    source.kind = kind ∧ source.directory = aim.path.parent?.getD stock.paths.appRoot ∧
      ∃ report?, ModuleSearch.locate stock.disk stock.resources stock.paths aim.path =
        (.ok (some (source.text, source.origin)), report?) := by
  unfold Stock.find at found
  rw [aimed] at found
  dsimp only at found
  rcases located : ModuleSearch.locate stock.disk stock.resources stock.paths aim.path with
    ⟨cause | _ | hit, report?⟩ <;> rw [located] at found <;> cases found
  exact ⟨rfl, rfl, report?, rfl⟩

/-- A native module is found embedded under the text of its path, and its home is the app root. -/
theorem embedded_of_find {stock : Stock} {aim : Aim} (aimed : aim.kind? = none)
    (found : (stock.find aim).1 = .ok (some source)) :
    source.kind = .native ∧ source.directory = stock.paths.appRoot ∧
      source.origin = .embedded aim.path.text ∧
      stock.resources.get? aim.path.text = some source.text := by
  unfold Stock.find at found
  rw [aimed] at found
  simp only [Except.ok.injEq, Option.map_eq_some_iff] at found
  rcases found with ⟨text, there, rfl⟩
  exact ⟨rfl, rfl, rfl, there⟩

theorem embedded?_eq_some {resources : Table String String} {name : String}
    {hit : ModuleSearch.Hit} (found : ModuleSearch.embedded? resources name = some hit) :
    resources.get? name = some hit.1 ∧ hit.2 = .embedded name := by
  unfold ModuleSearch.embedded? at found
  cases stored : resources.get? name with
  | none => simp [stored] at found
  | some text =>
      by_cases empty : text = "" <;> simp [stored, empty] at found
      simp [← found]

theorem installed?_eq_some {disk : Disk} {directory : Path} {name : String}
    {hit : ModuleSearch.Hit} (found : (ModuleSearch.installed? disk directory name).1 = some hit) :
    hit.2 = .installed (directory.join name) := by
  unfold ModuleSearch.installed? at found
  by_cases file : disk.isFile (directory.join name) = true
  · cases read : disk.readText (directory.join name) with
    | error cause => simp [file, read] at found
    | ok text =>
        by_cases empty : text = "" <;> simp [file, read, empty] at found
        simp [← found]
  · simp [file] at found

/-- What a search found embedded is the text of that name. -/
theorem text_of_locate {disk : Disk} {resources : Table String String} {paths : ModulePaths}
    {text name : String} {report? : Option LogRecord}
    (located : ModuleSearch.locate disk resources paths path =
      (.ok (some (text, .embedded name)), report?)) : resources.get? name = some text := by
  unfold ModuleSearch.locate at located
  by_cases file : disk.isFile path = true
  · cases read : disk.readText path <;>
      simp [ModuleSearch.onDisk?, file, read, Except.map] at located
  · cases stored :
        ModuleSearch.embedded? resources (Specifier.resourceName path paths.appRoot) with
    | some hit =>
        simp only [ModuleSearch.onDisk?, file, stored] at located
        cases located
        rcases embedded?_eq_some stored with ⟨kept, named⟩
        cases named
        exact kept
    | none =>
        simp only [ModuleSearch.onDisk?, file, stored] at located
        cases installed?_eq_some (Except.ok.inj (Prod.mk.inj located).1)

/-- What was found embedded is the text of that name. -/
theorem text_of_find {stock : Stock} {aim : Aim} {name : String}
    (found : (stock.find aim).1 = .ok (some source)) (embedded : source.origin = .embedded name) :
    stock.resources.get? name = some source.text := by
  cases aimed : aim.kind? with
  | none =>
      rcases embedded_of_find aimed found with ⟨-, -, origin, stored⟩
      cases origin.symm.trans embedded
      exact stored
  | some kind =>
      rcases located_of_find aimed found with ⟨-, -, report?, located⟩
      rw [embedded] at located
      exact text_of_locate located

/-- Only a native module is found as one, and then it is embedded under its name. -/
theorem origin_of_find {stock : Stock} {aim : Aim}
    (found : (stock.find aim).1 = .ok (some source)) (aimed : aim.kind? ≠ some .native)
    (native : source.kind = .native) : source.origin = .embedded aim.path.text := by
  cases kind : aim.kind? with
  | none => exact (embedded_of_find kind found).2.2.1
  | some other =>
      rw [(located_of_find kind found).1] at native
      exact absurd (kind.trans (congrArg some native)) aimed

/-- No file module is native. -/
theorem Demand.kind?_aim (demand : Demand) (world : World σ) (state : ModuleLoader) :
    (demand.aim world state).kind? ≠ some .native := by
  cases demand with
  | native name => simp [aim, Aim.ofNative]
  | module requester specifier =>
      unfold aim Aim.ofSpecifier
      dsimp only
      cases kind : ModuleKind.ofExtension? (Specifier.extension
        ((Specifier.expandAlias? specifier state.paths.appRoot).getD specifier)) with
      | none => simp [Aim.ofNative]
      | some found =>
          unfold ModuleKind.ofExtension? at kind
          split at kind <;> cases kind <;> simp

/-- A record that starts from what its path was found to have was made for its key. -/
theorem madeFor_recordOf {aim : Aim} {start : World σ}
    (found : ((stockOf world state).find aim).1 = .ok (some source))
    (aimed : aim.kind? ≠ some .native) :
    MadeFor state aim.path.components (recordOf start aim.path source) where
  path := rfl
  native := origin_of_find found aimed
  embedded _ := text_of_find found

/-- The new entry was made for its key, and the old ones are as they were. -/
theorem supplies_entered (present : world.loaders.get? loader = some state)
    (made : MadeFor state path.components (recordOf world path source)) :
    Supplies world (entered world loader path source) := by
  constructor
  case records =>
      exact fun id record found => ⟨record, records_entered_of_some found path source, rfl⟩
  case stocked =>
      intro stocked owner later key id present' kept
      rcases new_or_old_of_entered present present' kept with
        ⟨rfl, rfl, rfl, rfl⟩ | ⟨state', present'', resources, -, kept'⟩
      · exact ⟨_, (records_entered ..).trans (if_pos rfl), made.continues rfl rfl⟩
      · rcases stocked owner state' key id present'' kept' with ⟨record, found, old⟩
        exact ⟨record, records_entered_of_some found path source, old.continues rfl resources⟩

theorem supplies_growth : Growth (Supplies : World σ → World σ → Prop) where
  quiet _ _ quiet := supplies_of_entries quiet.records fun loader later key id present kept =>
    ⟨later, by rwa [← quiet.loaders], rfl, rfl, kept⟩
  created _ _ _ := supplies_of_entries (fun _ record found => ⟨record, found, rfl⟩)
    fun _ _ _ _ => old_of_created
  kept demand world _ state _ present found :=
    supplies_entered present (madeFor_recordOf found (demand.kind?_aim world state))
  evicted _ _ _ _ := supplies_of_entries (fun _ record found => ⟨record, found, rfl⟩)
    fun _ _ _ _ => old_of_forgotten

/-- Every run of every script makes records for their keys. -/
theorem supplies_rules (engine : Engine σ) :
    Rules engine (Supplies : World σ → World σ → Prop) :=
  supplies_growth.rules engine

/-- At every moment of every session, what is kept was made for its key. -/
theorem stocked_world (session : Session σ) (steps : Nat) : Stocked (session.world steps) :=
  (session.keeps (supplies_rules session.engine) steps).stocked fun _ _ _ _ present =>
    nomatch present

/-! ## The answer for a name -/

/-- What a require of a native module should come to: there is no module exactly if the store
has no text under the very name of its entry, and what is given are the exports of a kept
record whose source is that text. -/
structure ExactPayload (state : ModuleLoader) (loader : Nat) (name : String)
    (outcome : Except Error (Option Nat)) (after : World σ) : Prop where
  missing : outcome = .ok none ↔ state.resources.get? (Specifier.nativeEntry name) = none
  exports : ∀ container, outcome = .ok (some container) →
    ∃ id record, cached? after loader (Aim.ofNative name).key = some id ∧
      after.records[id]? = some record ∧ record.exports = container ∧
      state.resources.get? (Specifier.nativeEntry name) = some record.source

/-- A record that is kept for a key is what its loader answers with. -/
theorem exportsOf_of_found {id : Nat} {record : ModuleRecord}
    (found : world.records[id]? = some record) : world.exportsOf id = record.exports := by
  simp [exportsOf, found]

section Answers

variable {engine : Engine σ} {run : Script σ → Action σ Value} {name : String}
  {outcome : Except Error (Option Nat)}

/-- An answer from the cache is as it should be exactly if the record that is kept was made
from the text of the entry. -/
theorem exactPayload_of_kept {id : Nat} {record : ModuleRecord}
    (present : world.loaders.get? loader = some state)
    (kept : state.lookup? (Aim.ofNative name).path = some id)
    (found : world.records[id]? = some record)
    (ended : requireNative engine run loader name world =
      (ofExcept outcome : Action σ (Option Nat)) after) :
    outcome = .ok (some record.exports) ∧
      (ExactPayload state loader name outcome after ↔
        state.resources.get? (Specifier.nativeEntry name) = some record.source) := by
  rw [requireNative_of_kept engine run present kept, exportsOf_of_found found] at ended
  cases outcome with
  | error error => cases ended
  | ok value =>
      cases ended
      refine ⟨rfl, ?_, fun stored => ?_⟩
      · intro exact
        rcases exact.exports record.exports rfl with ⟨id', record', kept', found', -, stored⟩
        have same : some id' = some id := kept'.symm.trans ((cached?_eq_lookup? present _).trans kept)
        cases same
        cases found'.symm.trans found
        exact stored
      · constructor
        case missing => simp [stored]
        case exports =>
            rintro container ⟨rfl⟩
            exact ⟨id, record, (cached?_eq_lookup? present _).trans kept, found, rfl, stored⟩

/-- What a native module is made from if the store has a text for its entry. -/
def nativeSource (state : ModuleLoader) (name text : String) : Source :=
  ⟨state.paths.appRoot, .native, .embedded (Specifier.nativeEntry name), text⟩

/-- A native module that is not kept is looked for in the store, under the name of its entry. -/
theorem requireNative_of_unkept (present : world.loaders.get? loader = some state)
    (absent : state.lookup? (Aim.ofNative name).path = none) :
    requireNative engine run loader name world =
      proceed engine run loader (Aim.ofNative name).path
        (.ok ((state.resources.get? (Specifier.nativeEntry name)).map (nativeSource state name)))
        (searched world loader (Aim.ofNative name).path none) :=
  (Demand.native name).ask_of_absent engine run present absent

/-- A require of a native module comes back if a record is kept, or the store has no entry. -/
theorem entry_of_cutOff (present : world.loaders.get? loader = some state)
    (cut : requireNative engine run loader name world = (.error .exhausted, after)) :
    state.lookup? (Aim.ofNative name).path = none ∧
      ∃ text, state.resources.get? (Specifier.nativeEntry name) = some text := by
  cases kept : state.lookup? (Aim.ofNative name).path with
  | some id =>
      rw [requireNative_of_kept engine run present kept] at cut
      cases cut
  | none =>
      rw [requireNative_of_unkept present kept] at cut
      refine ⟨rfl, Option.ne_none_iff_exists'.mp fun missing => ?_⟩
      rw [missing] at cut
      cases cut

/-- After an evaluation that ended well its record has the source that it had. -/
theorem source_of_evaluated (ran : ∀ script, Keeps Supplies (run script)) {last : World σ}
    (ended : evaluate engine run loader world.records.size (recordOf world path source)
      (entered world loader path source) = (.ok (), last)) :
    ∃ record, last.records[world.records.size]? = some record ∧ record.source = source.text := by
  have supplied := supplies_growth.evaluate engine ran loader world.records.size
    (recordOf world path source) (entered world loader path source)
  rw [ended] at supplied
  have new : (entered world loader path source).records[world.records.size]? =
      some (recordOf world path source) := Array.getElem?_push_size
  rcases supplied.records _ _ new with ⟨record, found, continues⟩
  refine ⟨record, found, ?_⟩
  rw [continues]
  rfl

section Absent

variable (ran : ∀ script, Keeps Supplies (run script))
  (tracks : ∀ script, Keeps Tracks (run script)) (tracked : Tracked world)
  (present : world.loaders.get? loader = some state)

include tracks tracked present

/-- After an evaluation that ended well its record is kept. -/
theorem kept_of_evaluated {last : World σ} (absent : cached? world loader path.components = none)
    (ended : evaluate engine run loader world.records.size (recordOf world path source)
      (entered world loader path source) = (.ok (), last)) :
    cached? last loader path.components = some world.records.size := by
  have begun := tracks_enter source.directory source.kind source.origin source.text present absent
    tracked
  have body := tracks_evaluate tracks engine loader world.records.size (recordOf world path source)
    (entered world loader path source) begun.1
  rw [ended] at body
  apply body.2
  rw [cached?_entered present]
  exact if_pos ⟨rfl, rfl⟩

/-- What is returned to a demand are the exports of the record that is kept for it then. -/
theorem Demand.kept_of_returned (demand : Demand) {container : Nat}
    (ended : demand.ask engine run loader world = (.ok (some container), after)) :
    ∃ id, cached? after loader (demand.aim world state).key = some id ∧
      after.exportsOf id = container := by
  cases found : state.lookup? (demand.aim world state).path with
  | some id =>
      have kept := (cached?_eq_lookup? present (demand.aim world state).path).trans found
      rw [← demand.target_eq] at found
      rw [demand.ask_of_kept engine run present found] at ended
      cases ended
      exact ⟨id, kept, rfl⟩
  | none =>
      have unkept := (cached?_eq_lookup? present (demand.aim world state).path).trans found
      rw [demand.ask_of_absent engine run present found] at ended
      rcases looked : (stockOf world state).find (demand.aim world state) with
        ⟨cause | _ | source, report?⟩ <;> rw [looked] at ended
      · cases ended
      · cases ended
      · have searches := tracks_search unkept report? tracked
        have present' : (searched world loader (demand.aim world state).path
            report?).loaders.get? loader = some state := present
        have unkept' : cached? (searched world loader (demand.aim world state).path report?)
            loader (demand.aim world state).path.components = none := unkept
        rw [Aim.key]
        generalize searched world loader (demand.aim world state).path report? = start at *
        rcases evaluated : evaluate engine run loader start.records.size
          (recordOf start (demand.aim world state).path source)
          (entered start loader (demand.aim world state).path source) with
          ⟨(error | _) | _, last⟩
        · rw [proceed_of_raised evaluated] at ended
          cases ended
        · rw [proceed_of_exhausted evaluated] at ended
          cases ended
        · have kept := kept_of_evaluated tracks searches.1 present' unkept' evaluated
          rw [proceed_of_ok evaluated] at ended
          cases ended
          exact ⟨_, kept, rfl⟩

include ran

/-- An answer that is not from the cache is as it should be. -/
theorem exactPayload_of_absent (absent : state.lookup? (Aim.ofNative name).path = none)
    (ended : requireNative engine run loader name world =
      (ofExcept outcome : Action σ (Option Nat)) after) :
    ExactPayload state loader name outcome after := by
  have unkept := (cached?_eq_lookup? present (Aim.ofNative name).path).trans absent
  have searches := tracks_search unkept none tracked
  rw [requireNative_of_unkept present absent] at ended
  cases stored : state.resources.get? (Specifier.nativeEntry name) with
  | none =>
      rw [stored] at ended
      cases outcome with
      | error error => cases ended
      | ok value =>
          cases ended
          exact ⟨by simp [stored], by simp⟩
  | some text =>
      rw [stored, Option.map_some] at ended
      have present' : (searched world loader (Aim.ofNative name).path none).loaders.get? loader =
          some state := present
      have unkept' : cached? (searched world loader (Aim.ofNative name).path none) loader
          (Aim.ofNative name).path.components = none := unkept
      generalize searched world loader (Aim.ofNative name).path none = start at *
      generalize made : nativeSource state name text = source at ended
      rcases evaluated : evaluate engine run loader start.records.size
        (recordOf start (Aim.ofNative name).path source)
        (entered start loader (Aim.ofNative name).path source) with ⟨(error | _) | _, last⟩
      · rw [proceed_of_raised evaluated] at ended
        cases outcome with
        | ok value => cases ended
        | error error => exact ⟨by simp [stored], by simp⟩
      · rw [proceed_of_exhausted evaluated] at ended
        cases outcome <;> cases ended
      · rw [proceed_of_ok evaluated] at ended
        have kept := kept_of_evaluated tracks searches.1 present' unkept' evaluated
        rcases source_of_evaluated ran evaluated with ⟨record, found, same⟩
        cases outcome with
        | error error => cases ended
        | ok value =>
            cases ended
            refine ⟨by simp [stored], ?_⟩
            rintro container ⟨rfl⟩
            refine ⟨start.records.size, record, kept, found, (exportsOf_of_found found).symm, ?_⟩
            rw [stored, same, ← made]
            rfl

end Absent

end Answers

/-- Whatever world a session is in, also in the middle of the bodies of modules, and whatever
name of a native module is required: the answer is that of the very entry of the name if and
only if no record that was kept for its key had another text.  Such a record has the same
components and is answered with; if it is native, then it has the text of its own spelling.  So
a name is answered as it should be if its key was kept, if at all, under this spelling.  There
is an answer, unless the store has a text for the entry and its evaluation does not end. -/
theorem exactPayload_iff (session : Session σ) (moment : Nat) (steps : Option Nat)
    (engine : Engine σ) (fuel loader : Nat) (name : String) {state : ModuleLoader}
    (present : (session.world moment).loaders.get? loader = some state) :
    (∀ outcome after, attempt (requireNative engine (Script.exec engine fuel) loader name)
        { session.world moment with steps } = (.ok outcome, after) →
      (ExactPayload state loader name outcome after ↔
        ∀ id record, cached? (session.world moment) loader (Aim.ofNative name).key = some id →
          (session.world moment).records[id]? = some record →
          state.resources.get? (Specifier.nativeEntry name) = some record.source) ∧
      (∀ id, cached? (session.world moment) loader (Aim.ofNative name).key = some id →
        ∃ record, (session.world moment).records[id]? = some record ∧
          outcome = .ok (some record.exports) ∧
          record.path.components = (Aim.ofNative name).key ∧
          (record.kind = .native → record.origin = .embedded record.path.text ∧
            state.resources.get? record.path.text = some record.source)) ∧
      ((∀ id record, cached? (session.world moment) loader (Aim.ofNative name).key = some id →
          (session.world moment).records[id]? = some record →
          record.kind = .native ∧ record.path.text = Specifier.nativeEntry name) →
        ExactPayload state loader name outcome after)) ∧
    ∀ failure after, attempt (requireNative engine (Script.exec engine fuel) loader name)
        { session.world moment with steps } = (.error failure, after) →
      cached? (session.world moment) loader (Aim.ofNative name).key = none ∧
        ∃ text, state.resources.get? (Specifier.nativeEntry name) = some text := by
  have tracked := tracked_world session moment
  have stocked := stocked_world session moment
  generalize session.world moment = world at *
  have tracked' : Tracked { world with steps } := { tracked with }
  have present' : ({ world with steps } : World σ).loaders.get? loader = some state := present
  have ran := (supplies_rules engine).exec fuel
  have tracks := (tracks_rules engine).exec fuel
  have looked : cached? world loader (Aim.ofNative name).key =
      state.lookup? (Aim.ofNative name).path := cached?_eq_lookup? present _
  rw [looked]
  constructor
  · intro outcome after returned
    have ended := attempt_eq_ok_iff.mp returned
    cases kept : state.lookup? (Aim.ofNative name).path with
    | none =>
        have exact : ExactPayload state loader name outcome after :=
          exactPayload_of_absent ran tracks tracked' present kept ended
        simp [exact]
    | some id =>
        rcases stocked loader state _ id present kept with ⟨record, found, made⟩
        rcases exactPayload_of_kept present' kept found ended with ⟨answered, exact⟩
        rw [exact]
        refine ⟨⟨?_, ?_⟩, ?_, ?_⟩
        · rintro stored id' record' ⟨rfl⟩ found'
          cases found.symm.trans found'
          exact stored
        · exact fun all => all id record rfl found
        · rintro id' ⟨rfl⟩
          exact ⟨record, found, answered, made.path,
            fun native => ⟨made.native native, made.text native⟩⟩
        · intro own
          rcases own id record rfl found with ⟨native, spelled⟩
          rw [← spelled]
          exact made.text native
  · intro failure after returned
    rcases attempt_eq_error_iff.mp returned with ⟨-, cut⟩
    exact entry_of_cutOff present' cut

/-- The demand for a module that was loaded, under another spelling of its name. -/
def askRespelled : Except Failure (Except Error (Option Nat)) × World Unit :=
  attempt (requireNative failing (Script.exec failing 3) 0 "./old")
    { loadedOne.world 9 with steps := none }

/-- It is answered with the exports of that module, though the store has nothing for it. -/
theorem respelled_name_is_answered :
    ∃ state, (loadedOne.world 9).loaders.get? 0 = some state ∧
      state.resources.get? (Specifier.nativeEntry "./old") = none ∧
      askRespelled.1 = .ok (.ok (some 0)) ∧
      ¬ExactPayload state 0 "./old" (.ok (some 0)) askRespelled.2 := by
  have stock : ((loadedOne.world 9).loaders.get? 0).map (fun state =>
      state.resources.get? (Specifier.nativeEntry "./old")) = some none := by decide +kernel
  rcases Option.map_eq_some_iff.mp stock with ⟨state, present, missing⟩
  have answered : askRespelled.1 = .ok (.ok (some 0)) := by decide +kernel
  have returned : askRespelled = (.ok (.ok (some 0)), askRespelled.2) := by rw [← answered]
  have kept : cached? (loadedOne.world 9) 0 (Aim.ofNative "./old").key = some 0 := by
    decide +kernel
  rcases (exactPayload_iff loadedOne 9 none failing 3 0 "./old" present).1 _ _ returned with
    ⟨exact, record, -⟩
  refine ⟨state, present, missing, answered, fun payload => ?_⟩
  rcases record 0 kept with ⟨record, found, -⟩
  rw [exact.mp payload 0 record kept found] at missing
  cases missing

end ScriptHost.Modules
