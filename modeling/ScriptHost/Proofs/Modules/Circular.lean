import Mathlib.Data.Set.Card
import ScriptHost.Proofs.Modules.Graph

/-!
# Modules that require each other

Modules may require each other in circles, and a module whose evaluation failed may be
evaluated again and again, so neither the graph nor the number of keys that are not in
the cache bounds a require by itself.  What decreases on the way down is the number of
keys that are not in the cache when an evaluation begins: the module that is being
evaluated is kept, and no entry goes while others run below it.  Along a body the
recursion is on the body.

The same induction follows the order of evaluations.  As long as none fails it is the
depth-first preorder of what the cache does not hold.
-/

namespace ScriptHost.Modules

open World

variable {σ α : Type} {loader depth : Nat} {world before middle after : World σ}
  {news early late : List Event}

/-! ## Nested evaluations -/

/-- Whether an event is the start of an evaluation. -/
def isStart : Event → Bool
  | .evaluating .. => true
  | _ => false

/-- Whether an event is the end of an evaluation. -/
def isEnd : Event → Bool
  | .evaluated .. | .evaluationFailed .. => true
  | _ => false

/-- At no time more than so many of the evaluations among the news are under way, and at the
end none is. -/
structure Nested (depth : Nat) (news : List Event) : Prop where
  within : ∀ early late, news = early ++ late →
    early.countP isStart ≤ early.countP isEnd + depth
  balanced : news.countP isStart = news.countP isEnd

namespace Nested

theorem of_quiet (quiet : ∀ event ∈ news, isStart event = false ∧ isEnd event = false) :
    Nested depth news := by
  have none (part : List Event) (among : ∀ event ∈ part, event ∈ news) :
      part.countP isStart = 0 ∧ part.countP isEnd = 0 := by
    simp only [List.countP_eq_zero, Bool.not_eq_true]
    exact ⟨fun event member => (quiet event (among event member)).1,
      fun event member => (quiet event (among event member)).2⟩
  constructor
  · rintro early late rfl
    rw [(none early fun event member => List.mem_append_left _ member).1]
    exact Nat.zero_le _
  · rw [(none news fun _ member => member).1, (none news fun _ member => member).2]

theorem append (first : Nested depth early) (second : Nested depth late) :
    Nested depth (early ++ late) where
  within := by
    intro front back split
    rcases List.append_eq_append_iff.mp split with ⟨more, rfl, rest⟩ | ⟨more, rfl, rest⟩
    · have inner := second.within more back rest
      have outer := first.balanced
      rw [List.countP_append, List.countP_append]
      omega
    · exact first.within front more rfl
  balanced := by
    have outer := first.balanced
    have inner := second.balanced
    rw [List.countP_append, List.countP_append]
    omega

/-- An evaluation around others. -/
theorem around {start stop : Event} (nested : Nested depth news)
    (starts : isStart start = true ∧ isEnd start = false)
    (stops : isStart stop = false ∧ isEnd stop = true) :
    Nested (depth + 1) (start :: news ++ [stop]) where
  within := by
    intro front back split
    cases front with
    | nil => simp
    | cons first inner =>
        rw [List.cons_append, List.cons_append, List.cons.injEq] at split
        obtain ⟨rfl, split⟩ := split
        rw [List.countP_cons_of_pos starts.1, List.countP_cons_of_neg (by simp [starts.2])]
        rcases List.append_eq_append_iff.mp split with ⟨more, rfl, rest⟩ | ⟨more, rfl, rest⟩
        · have whole := nested.balanced
          rw [List.countP_append, List.countP_append]
          have one : more.countP isStart ≤ 0 := by
            rw [Nat.le_zero, List.countP_eq_zero]
            intro event member
            have among : event ∈ [stop] := rest ▸ List.mem_append_left back member
            rw [List.mem_singleton.mp among, stops.1]
            exact Bool.false_ne_true
          omega
        · have inside := nested.within inner more rfl
          omega
  balanced := by
    have inside := nested.balanced
    simp only [List.countP_append, List.countP_cons, List.countP_nil, starts.1, starts.2,
      stops.1, stops.2, Bool.false_eq_true, if_false, if_true]
    omega

end Nested

/-! ## Tours -/

/-- The keys that a loader keeps. -/
def cachedKeys (world : World σ) (loader : Nat) : Set (List Component) :=
  {key | ∃ record, cached? world loader key = some record}

/-- The keys whose evaluation a loader has started, in order. -/
def startedKeys (loader : Nat) (news : List Event) : List (List Component) :=
  news.filterMap fun
    | .evaluating owner _ _ path => if owner = loader then some path.components else none
    | _ => none

/-- If no evaluation failed, what was evaluated is the depth-first preorder of what was not
kept, and is kept now. -/
def Tours (program : Program) (loader : Nat) (aims : List Aim) (before after : World σ)
    (news : List Event) : Prop :=
  (∀ record path, .evaluationFailed loader record path ∉ news) →
    Visits Aim.key program.next? (cachedKeys before loader) aims (startedKeys loader news) ∧
      cachedKeys after loader = cachedKeys before loader ∪ {key | key ∈ startedKeys loader news}

theorem Tours.append {program : Program} {front rest : List Aim}
    (first : Tours program loader front before middle early)
    (second : Tours program loader rest middle after late) :
    Tours program loader (front ++ rest) before after (early ++ late) := by
  intro unfailed
  obtain ⟨visits, kept⟩ := first fun record path member =>
    unfailed record path (List.mem_append_left _ member)
  obtain ⟨visits', kept'⟩ := second fun record path member =>
    unfailed record path (List.mem_append_right _ member)
  rw [kept] at visits' kept'
  rw [startedKeys, List.filterMap_append]
  refine ⟨visits.append visits', kept'.trans ?_⟩
  ext key
  simp only [Set.mem_union, Set.mem_ofPred_eq, List.mem_append, or_assoc]
  rfl

/-! ## Calls that come back -/

/-- A world in which a loader has the program's stock and scripts may run on. -/
structure Ready (program : Program) (loader : Nat) (world : World σ) : Prop where
  unlimited : world.steps = none
  tracked : Tracked world
  stocked : ∃ state, world.loaders.get? loader = some state ∧ stockOf world state = program.stock

/-- What is ready stays so. -/
theorem Ready.stays {program : Program} {own : Option Nat} (ready : Ready program loader before)
    (tracks : Tracks before after) (leaves : Leaves own before after) :
    Ready program loader after where
  unlimited := leaves.steps ready.unlimited
  tracked := (tracks ready.tracked).1
  stocked := by
    obtain ⟨state, present, stocked⟩ := ready.stocked
    have same := leaves.loaders loader
    rw [present] at same
    obtain ⟨state', present', sources⟩ := Option.map_eq_some_iff.mp same
    obtain ⟨resources, paths⟩ := Prod.mk.inj sources
    refine ⟨state', present', ?_⟩
    rw [← stocked, stockOf, stockOf, leaves.disk, resources, paths]

theorem cachedKeys_mono (remembers : Remembers before after) :
    cachedKeys before loader ⊆ cachedKeys after loader :=
  fun _ ⟨record, kept⟩ => ⟨record, remembers _ _ _ kept⟩

/-- The call comes back.  Its evaluations are nested so deep at most, and if it comes back
with such an outcome, it has toured the aims. -/
def Courses (program : Program) (loader depth : Nat) (aims : List Aim)
    (such : Except Error α → Prop) (call : Action σ α) (world : World σ) : Prop :=
  ∃ outcome after news, call world = (World.ofExcept outcome : Action σ α) after ∧
    after.journal.toList = world.journal.toList ++ news ∧ Nested depth news ∧
    (such outcome → Tours program loader aims world after news)

/-- Where nothing is evaluated and the caches are left as they are, aims are passed over. -/
theorem tours_of_quiet {program : Program} {aims : List Aim}
    (loaders : after.loaders = before.loaders) (started : startedKeys loader news = [])
    (passes : Visits Aim.key program.next? (cachedKeys before loader) aims []) :
    Tours program loader aims before after news := by
  intro _
  rw [started]
  refine ⟨passes, ?_⟩
  simp only [cachedKeys, cached?, loaders, List.not_mem_nil, Set.ofPred_false, Set.union_empty]

section Runs

variable (program : Program) (others : Engine σ)

theorem tracks_ask (demand : Demand) (fuel loader : Nat) :
    Keeps Tracks (demand.ask (program.engine others)
      (Script.exec (program.engine others) fuel) loader) := by
  have rules : Rules (program.engine others) (Tracks : World σ → World σ → Prop) :=
    tracks_rules _
  cases demand with
  | module requester specifier => exact rules.require _ (rules.exec fuel) loader _ _
  | native name => exact rules.requireNative _ (rules.exec fuel) loader _

/-! ### Steps of bodies -/

section Steps

variable {program others} {fuel : Nat} {scope : ModuleScope} {next : Script σ}

theorem tick_of_unlimited (unlimited : world.steps = none) :
    (tick : Action σ Unit) world = (.ok (), world) := by
  unfold tick
  rw [unlimited]

/-- After a require the body goes on or fails, whatever is next. -/
theorem goOn_cases (ignores : Bool) (outcome : Except Error (Option Nat)) :
    (∀ next : Script σ, Step.goOn ignores next outcome = next) ∨
      ∃ error, ∀ next : Script σ, Step.goOn ignores next outcome = .fail error := by
  rcases outcome with error | found
  · cases ignores
    · exact .inr ⟨error, fun _ => rfl⟩
    · exact .inl fun _ => rfl
  · exact .inl fun _ => rfl

theorem interpret_require {want : Want} {outcome : Except Error (Option Nat)}
    (ignores : Bool) (next : Script σ) (unlimited : world.steps = none)
    (asked : (want.demand scope.record).ask (program.engine others)
      (Script.exec (program.engine others) fuel) scope.loader world =
        (World.ofExcept outcome : Action σ _) after) :
    Script.interpret (Script.context (program.engine others) fuel)
        ((Step.require want ignores).script scope next) world =
      Script.interpret (Script.context (program.engine others) fuel)
        (Step.goOn ignores next outcome) after := by
  have attempted := attempt_eq_ok_iff.mpr asked
  cases want with
  | module specifier =>
      simp only [Step.script, Script.interpret]
      rw [bind_of_ok (tick_of_unlimited unlimited)]
      exact bind_of_ok attempted
  | native name =>
      simp only [Step.script, Script.interpret]
      rw [bind_of_ok (tick_of_unlimited unlimited)]
      exact bind_of_ok attempted

theorem interpret_write {member : String} {value : Value} (unlimited : world.steps = none) :
    Script.interpret (Script.context (program.engine others) fuel)
        ((Step.write member value).script scope next) world =
      Script.interpret (Script.context (program.engine others) fuel) next
        (Script.answer (.setMember scope.exports member value) world).2 := by
  simp only [Step.script, Script.interpret]
  rw [bind_of_ok (tick_of_unlimited unlimited)]
  exact bind_of_ok rfl

theorem setMember_world (container : Nat) (member : String) (value : Value) (world : World σ) :
    ∃ containers, (Script.answer (.setMember container member value) world).2 =
      { world with containers } := by
  unfold Script.answer
  simp only [Request.seizes?, Request.uses?, noticeSeizure, noticeUse, Request.perform, always]
  cases (world.content container).set? member value with
  | none => exact ⟨world.containers, rfl⟩
  | some changed => exact ⟨_, rfl⟩

theorem interpret_fail {error : Error} (unlimited : world.steps = none) :
    Script.interpret (Script.context (program.engine others) fuel) (.fail error) world =
      (.error (.raised error), world) := by
  simp only [Script.interpret]
  rw [bind_of_ok (tick_of_unlimited unlimited)]
  rfl

theorem interpret_nil (unlimited : world.steps = none) :
    Script.interpret (Script.context (program.engine others) fuel)
      (Body.script scope []) world = (.ok .null, world) := by
  simp only [Body.script, Script.interpret]
  rw [bind_of_ok (tick_of_unlimited unlimited)]
  rfl

end Steps

/-! ### Bodies -/

section Bodies

variable {program others} {fuel : Nat} {scope : ModuleScope} {directory : Path}

/-- What a module that has a record requires leads where its directory says. -/
theorem aim_of_want {state : ModuleLoader} (want : Want) {record : Nat}
    (stocked : stockOf world state = program.stock)
    (starts : (world.records[record]?).map ModuleRecord.directory = some directory) :
    (want.demand record).aim world state = want.aim program.stock.paths directory := by
  rw [← stocked]
  cases want with
  | native name => rfl
  | module specifier =>
      obtain ⟨r, found, rfl⟩ := Option.map_eq_some_iff.mp starts
      simp only [Want.demand, Demand.aim, Want.aim, stockOf, baseDirectory, Option.bind_some, found]

/-- Following a body, given that the demands for its aims come back as long as certain keys
are kept. -/
theorem body_courses (scope : ModuleScope) {known : Set (List Component)} {aims : List Aim}
    (asks : ∀ (world : World σ) (demand : Demand) (state : ModuleLoader),
      Ready program scope.loader world → known ⊆ cachedKeys world scope.loader →
      world.loaders.get? scope.loader = some state → demand.aim world state ∈ aims →
      Courses program scope.loader depth [demand.aim world state] (fun _ => True)
        (demand.ask (program.engine others) (Script.exec (program.engine others) fuel)
          scope.loader) world)
    (body : Body) (among : ∀ aim ∈ body.aims program.stock.paths directory, aim ∈ aims)
    (world : World σ) (ready : Ready program scope.loader world)
    (keeps : known ⊆ cachedKeys world scope.loader)
    (starts : (world.records[scope.record]?).map ModuleRecord.directory = some directory) :
    Courses program scope.loader depth (body.aims program.stock.paths directory)
      (fun outcome => ∃ value, outcome = .ok value)
      (Script.interpret (Script.context (program.engine others) fuel) (body.script scope))
      world := by
  induction body generalizing world with
  | nil =>
      refine ⟨.ok .null, world, [], interpret_nil ready.unlimited, ?_, ?_, ?_⟩
      · exact (List.append_nil _).symm
      · exact .of_quiet (by simp)
      · exact fun _ => tours_of_quiet rfl rfl .nil
  | cons step rest ih =>
      cases step with
      | throw error =>
          refine ⟨.error error, world, [], interpret_fail ready.unlimited, ?_, ?_, ?_⟩
          · exact (List.append_nil _).symm
          · exact .of_quiet (by simp)
          · rintro ⟨value, impossible⟩
            cases impossible
      | write member value =>
          have leaves := leaves_setMember scope.exports member value world
          have tracks := (tracks_rules (program.engine others)).request
            (.setMember scope.exports member value) .rest rfl world
          have followed : Script.interpret (Script.context (program.engine others) fuel)
              (Body.script scope (.write member value :: rest)) world = _ :=
            interpret_write ready.unlimited
          obtain ⟨containers, written⟩ := setMember_world scope.exports member value world
          rw [written] at leaves tracks followed
          obtain ⟨outcome, after, news, ended, grown, nested, tours⟩ :=
            ih among _ (ready.stays tracks leaves) keeps starts
          exact ⟨outcome, after, news, followed.trans ended, grown, nested, tours⟩
      | require want ignores =>
          obtain ⟨state, present, stocked⟩ := ready.stocked
          have aimed := aim_of_want want stocked starts
          have first : want.aim program.stock.paths directory ∈ aims :=
            among _ List.mem_cons_self
          obtain ⟨outcome, middle, early, asked, grown, nested, tours⟩ :=
            asks world (want.demand scope.record) state ready keeps present (aimed ▸ first)
          rw [aimed] at tours
          have left : Leaves none world middle :=
            (leaves_demand program.bodies others fuel (want.demand scope.record)
              scope.loader).of_returned asked
          have tracked : Tracks world middle :=
            (tracks_ask program others (want.demand scope.record) fuel scope.loader).of_returned
              asked
          have ready' := ready.stays tracked left
          have followed := interpret_require ignores (Body.script scope rest) ready.unlimited asked
          rcases goOn_cases ignores outcome with goes | ⟨error, fails⟩
          · rw [goes] at followed
            obtain ⟨outcome', after, late, ended', grown', nested', tours'⟩ :=
              ih (fun aim member => among aim (List.mem_cons_of_mem _ member)) middle ready'
                (keeps.trans (cachedKeys_mono (tracked ready.tracked).2)) (left.directory starts)
            refine ⟨outcome', after, early ++ late, followed.trans ended', ?_,
              nested.append nested', fun well => (tours trivial).append (tours' well)⟩
            rw [grown', grown, List.append_assoc]
          · rw [fails] at followed
            refine ⟨.error error, middle, early, ?_, grown, nested, ?_⟩
            · exact followed.trans (interpret_fail ready'.unlimited)
            · rintro ⟨value, impossible⟩
              cases impossible

/-- The directory of the module whose evaluation has begun. -/
theorem directory_entered (start : World σ) (loader : Nat) (path : Path) (source : Source) :
    ((entered start loader path source).records[start.records.size]?).map
      ModuleRecord.directory = some source.directory := by
  change ((start.records.push _)[start.records.size]?).map _ = _
  rw [Array.getElem?_push_size]
  rfl

/-- The world in which the source of a record has been compiled. -/
def marked (world : World σ) (path : Path) (record : Nat) : World σ :=
  { world with
    records := world.records.modify record fun record => { record with isCompiled := true }
    journal := world.journal.push (.compiled path.text Engine.moduleParameters) }

theorem tracks_marked (world : World σ) (path : Path) (record : Nat) :
    Tracks world (marked world path record) := by
  have told := tracks_rest_tell (.compiled path.text Engine.moduleParameters) rfl world
  have changed : Keeps Tracks
      (changeRecord record fun record => { record with isCompiled := true } : Action σ Unit) :=
    tracks_changeRecord record fun _ => rfl
  exact trans_of Tracks told (changed _)

theorem leaves_marked (world : World σ) (path : Path) (record : Nat) :
    Leaves none world (marked world path record) := by
  have told : Leaves none world _ :=
    leaves_tell (.compiled path.text Engine.moduleParameters) world
  have changed : Keeps (Leaves none)
      (changeRecord record fun record => { record with isCompiled := true } : Action σ Unit) :=
    leaves_changeRecord record fun _ => rfl
  exact trans_of _ told (changed _)

/-- A source that has a body is compiled and its body is run. -/
theorem evaluateScript_of_body {record : ModuleRecord} {body : Body} (id : Nat)
    (run : Script σ → Action σ Value)
    (compiled : program.bodies record.source record.path.text = .ok body) (world : World σ) :
    evaluateScript (program.engine others) run loader id record world =
      (run (body.script ⟨loader, id, record.exports⟩) >>= fun _ => pure ())
        (marked world record.path id) := by
  simp only [evaluateScript, Program.engine, Bodies.engine, compiled]
  rfl

/-- A source that cannot be compiled. -/
theorem evaluateScript_of_error {record : ModuleRecord} {error : Error} (id : Nat)
    (run : Script σ → Action σ Value)
    (fails : program.bodies record.source record.path.text = .error error) (world : World σ) :
    evaluateScript (program.engine others) run loader id record world =
      (.error (.raised error),
        (tell (.compiled record.path.text Engine.moduleParameters) world).2) := by
  simp only [evaluateScript, Program.engine, Bodies.engine, fails]
  rfl

section Evaluate

variable {known : Set (List Component)} {aims : List Aim} {path : Path} {source : Source}
  {start : World σ}
  (asks : ∀ (world : World σ) (demand : Demand) (state : ModuleLoader),
    Ready program loader world → known ⊆ cachedKeys world loader →
    world.loaders.get? loader = some state → demand.aim world state ∈ aims →
    Courses program loader depth [demand.aim world state] (fun _ => True)
      (demand.ask (program.engine others) (Script.exec (program.engine others) fuel) loader)
      world)
  (among : ∀ aim ∈ (program.bodyOf path source).aims program.stock.paths source.directory,
    aim ∈ aims)
  (ready : Ready program loader (entered start loader path source))
  (keeps : known ⊆ cachedKeys (entered start loader path source) loader)

include asks among ready keeps

/-- A source that is compiled. -/
theorem evaluateScript_courses
    (hasBody : program.bodyOf path source =
      (program.bodies source.text path.text).toOption.getD []) :
    Courses program loader depth
      ((program.bodyOf path source).aims program.stock.paths source.directory)
      (fun outcome => ∃ value, outcome = .ok value)
      (evaluateScript (program.engine others) (Script.exec (program.engine others) (fuel + 1))
        loader start.records.size (recordOf start path source))
      (entered start loader path source) := by
  have starts := directory_entered start loader path source
  generalize entered start loader path source = world at ready keeps starts ⊢
  let event : Event := .compiled path.text Engine.moduleParameters
  have quiet : Nested depth [event] := .of_quiet (by simp [event, isStart, isEnd])
  cases compiled : program.bodies source.text path.text with
  | error error =>
      refine ⟨.error error, (tell event world).2, [event], ?_, Array.toList_push, quiet, ?_⟩
      · exact evaluateScript_of_error start.records.size _ compiled world
      · rintro ⟨value, impossible⟩
        cases impossible
  | ok body =>
      have same : program.bodyOf path source = body := by
        rw [hasBody, compiled]
        rfl
      rw [same] at among ⊢
      have leaves := leaves_marked world path start.records.size
      have ready' := ready.stays (tracks_marked world path start.records.size) leaves
      obtain ⟨outcome, after, news, ended, grown, nested, tours⟩ :=
        body_courses ⟨loader, start.records.size, start.containers.size⟩ asks body among _ ready'
          keeps (leaves.directory starts)
      have told : (marked world path start.records.size).journal.toList =
          world.journal.toList ++ [event] :=
        Array.toList_push
      have follows : evaluateScript (program.engine others)
          (Script.exec (program.engine others) (fuel + 1)) loader start.records.size
          (recordOf start path source) world = _ :=
        evaluateScript_of_body start.records.size _ compiled world
      refine ⟨outcome.map fun _ => (), after, event :: news, follows.trans ?_, ?_,
        quiet.append nested, ?_⟩
      · cases outcome with
        | ok value => exact bind_of_ok ended
        | error error => exact bind_of_error ended
      · rw [grown, told, List.append_assoc]
        rfl
      · rintro ⟨value, well⟩ unfailed
        cases outcome with
        | error error => cases well
        | ok value =>
            exact tours ⟨value, rfl⟩ fun record path member =>
              unfailed record path (List.mem_cons_of_mem event member)

/-- Evaluating what was found at a path, given that the demands for its aims come back. -/
theorem evaluate_courses :
    Courses program loader depth
      ((program.bodyOf path source).aims program.stock.paths source.directory)
      (fun outcome => ∃ value, outcome = .ok value)
      (evaluate (program.engine others) (Script.exec (program.engine others) (fuel + 1)) loader
        start.records.size (recordOf start path source))
      (entered start loader path source) := by
  have script := evaluateScript_courses asks among ready keeps
  rcases source with ⟨directory, kind, origin, text⟩
  cases kind with
  | script => exact script rfl
  | native => exact script rfl
  | json =>
      have evaluates : evaluate (program.engine others)
          (Script.exec (program.engine others) (fuel + 1)) loader start.records.size
          (recordOf start path ⟨directory, .json, origin, text⟩) =
          evaluateJson (recordOf start path ⟨directory, .json, origin, text⟩) :=
        rfl
      rw [evaluates, evaluateJson]
      cases Json.parse (recordOf start path ⟨directory, .json, origin, text⟩).source with
      | ok json =>
          exact ⟨.ok (), _, [], rfl, (List.append_nil _).symm, .of_quiet (by simp),
            fun _ => tours_of_quiet rfl rfl .nil⟩
      | error fault =>
          refine ⟨.error _, _, [], rfl, (List.append_nil _).symm, .of_quiet (by simp), ?_⟩
          rintro ⟨value, impossible⟩
          cases impossible

end Evaluate

/-! ### Demands -/

theorem cachedKeys_entered {state : ModuleLoader}
    (present : world.loaders.get? loader = some state) (path : Path) (source : Source) :
    cachedKeys (entered world loader path source) loader =
      insert path.components (cachedKeys world loader) := by
  ext key
  simp only [cachedKeys, Set.mem_ofPred_eq, Set.mem_insert_iff, cached?_entered present, true_and]
  constructor
  · rintro ⟨record, kept⟩
    split at kept
    next same => exact .inl same.symm
    next => exact .inr ⟨record, kept⟩
  · rintro (rfl | ⟨record, kept⟩)
    · exact ⟨_, if_pos rfl⟩
    · by_cases same : path.components = key
      · exact ⟨_, if_pos same⟩
      · exact ⟨record, (if_neg same).trans kept⟩

/-- Evaluating what was found around what its body does. -/
theorem proceed_courses {aim : Aim} {source : Source} {run : Script σ → Action σ Value}
    {state : ModuleLoader} (present : world.loaders.get? loader = some state)
    (absent : aim.key ∉ cachedKeys world loader)
    (found : (program.stock.find aim).1 = .ok (some source))
    (evaluates : Courses program loader depth
      ((program.bodyOf aim.path source).aims program.stock.paths source.directory)
      (fun outcome => ∃ value, outcome = .ok value)
      (evaluate (program.engine others) run loader world.records.size
        (recordOf world aim.path source)) (entered world loader aim.path source)) :
    Courses program loader (depth + 1) [aim] (fun _ => True)
      (proceed (program.engine others) run loader aim.path (.ok (some source))) world := by
  obtain ⟨outcome, last, news, ended, grown, nested, tours⟩ := evaluates
  let start : Event := .evaluating loader world.records.size world.containers.size aim.path
  have grown' (stop : Event) :
      (last.journal.push stop).toList = world.journal.toList ++ (start :: news ++ [stop]) := by
    rw [Array.toList_push, grown, journal_entered]
    simp only [List.append_assoc, List.cons_append, List.nil_append, start]
  cases outcome with
  | error error =>
      let stop : Event := .evaluationFailed loader world.records.size aim.path
      refine ⟨.error error, _, start :: news ++ [stop], proceed_of_raised ended, grown' stop,
        nested.around ⟨rfl, rfl⟩ ⟨rfl, rfl⟩, ?_⟩
      intro _ unfailed
      exact absurd (List.mem_append_right _ (List.mem_singleton_self stop)) (unfailed _ _)
  | ok value =>
      let stop : Event :=
        .evaluated loader world.records.size (last.exportsOf world.records.size) aim.path
      refine ⟨.ok (some (last.exportsOf world.records.size)), _, start :: news ++ [stop],
        proceed_of_ok ended, grown' stop, nested.around ⟨rfl, rfl⟩ ⟨rfl, rfl⟩, ?_⟩
      intro _ unfailed
      obtain ⟨visits, keeps⟩ := tours ⟨value, rfl⟩ fun record path member =>
        unfailed record path (List.mem_append_left _ (List.mem_cons_of_mem _ member))
      rw [cachedKeys_entered present aim.path source] at visits keeps
      have started : startedKeys loader (start :: news ++ [stop]) =
          aim.key :: startedKeys loader news ++ [] := by
        simp [startedKeys, start, stop, Aim.key]
      rw [started]
      refine ⟨.visit absent (Program.next?_of_found found) visits .nil, ?_⟩
      change cachedKeys last loader = _
      rw [keeps]
      ext key
      simp only [Set.mem_union, Set.mem_insert_iff, Set.mem_ofPred_eq, List.append_nil,
        List.mem_cons, Aim.key]
      tauto

/-- A demand that evaluates nothing. -/
theorem ask_courses_of_quiet {demand : Demand} {run : Script σ → Action σ Value}
    {state : ModuleLoader} (outcome : Except Error (Option Nat)) (depth : Nat)
    (ended : demand.ask (program.engine others) run loader world =
      (World.ofExcept outcome : Action σ _) after)
    (loaders : after.loaders = world.loaders)
    (grown : after.journal.toList = world.journal.toList ++ news)
    (quiet : ∀ event ∈ news, isStart event = false ∧ isEnd event = false)
    (passed : (demand.aim world state).key ∈ cachedKeys world loader ∨
      program.next? (demand.aim world state) = none) :
    Courses program loader depth [demand.aim world state] (fun _ => True)
      (demand.ask (program.engine others) run loader) world := by
  refine ⟨outcome, after, news, ended, grown, .of_quiet quiet, fun _ _ => ?_⟩
  have started : startedKeys loader news = [] := by
    rw [startedKeys, List.filterMap_eq_nil_iff]
    intro event member
    obtain ⟨still, -⟩ := quiet event member
    cases event <;> first | rfl | cases still
  refine tours_of_quiet loaders started ?_ ‹_›
  rcases passed with known | nowhere
  · exact .seen known .nil
  · exact .missing nowhere .nil

theorem quiet_search (path : Path) (report? : Option LogRecord) :
    ∀ event ∈ searchEvents loader path report?, isStart event = false ∧ isEnd event = false := by
  cases report? <;> simp [searchEvents, isStart, isEnd]

theorem mem_cachedKeys_iff {state : ModuleLoader}
    (present : world.loaders.get? loader = some state) (path : Path) :
    path.components ∈ cachedKeys world loader ↔ ∃ record, state.lookup? path = some record := by
  rw [cachedKeys, Set.mem_ofPred_eq, cached?_eq_lookup? present]

/-- A demand evaluates nothing, or there is a source for its key, which is not kept. -/
theorem quiet_or_evaluates {state : ModuleLoader} (demand : Demand)
    (run : Script σ → Action σ Value) (ready : Ready program loader world)
    (present : world.loaders.get? loader = some state) :
    (∀ depth, Courses program loader depth [demand.aim world state] (fun _ => True)
      (demand.ask (program.engine others) run loader) world) ∨
    ∃ source report?, (demand.aim world state).key ∉ cachedKeys world loader ∧
      (program.stock.find (demand.aim world state)).1 = .ok (some source) ∧
      demand.ask (program.engine others) run loader world =
        proceed (program.engine others) run loader (demand.aim world state).path
          (.ok (some source)) (searched world loader (demand.aim world state).path report?) := by
  have stocked : stockOf world state = program.stock := by
    obtain ⟨state', present', stocked⟩ := ready.stocked
    obtain rfl := Option.some.inj (present'.symm.trans present)
    exact stocked
  cases kept : state.lookup? (demand.aim world state).path with
  | some record =>
      have known := (mem_cachedKeys_iff present (demand.aim world state).path).mpr ⟨record, kept⟩
      rw [← demand.target_eq] at kept
      exact .inl fun depth => ask_courses_of_quiet (.ok (some _)) depth
        (demand.ask_of_kept _ run present kept) rfl Array.toList_push
        (by simp [isStart, isEnd]) (.inl known)
  | none =>
      have unknown : (demand.aim world state).key ∉ cachedKeys world loader := by
        intro known
        obtain ⟨record, impossible⟩ := (mem_cachedKeys_iff present _).mp known
        exact absurd (impossible.symm.trans kept) (Option.some_ne_none record)
      have ended := demand.ask_of_absent (program.engine others) run present kept
      rw [stocked] at ended
      have passed (outcome : Except Error (Option Nat))
          (came : proceed (program.engine others) run loader (demand.aim world state).path
            (program.stock.find (demand.aim world state)).1 =
              (World.ofExcept outcome : Action σ (Option Nat)))
          (nowhere : program.next? (demand.aim world state) = none) (depth : Nat) :
          Courses program loader depth [demand.aim world state] (fun _ => True)
            (demand.ask (program.engine others) run loader) world := by
        rw [came] at ended
        exact ask_courses_of_quiet outcome depth ended rfl (journal_searched world loader _ _)
          (quiet_search _ _) (.inr nowhere)
      rcases found : (program.stock.find (demand.aim world state)).1 with cause | _ | source
      · refine .inl (passed (.error (.file cause)) ?_ ?_)
        · rw [found]; rfl
        · rw [Program.next?, found]
      · refine .inl (passed (.ok none) ?_ ?_)
        · rw [found]; rfl
        · rw [Program.next?, found]
      · rw [found] at ended
        exact .inr ⟨source, _, unknown, rfl, ended⟩

/-- The depth of a demand is bounded by the number of keys that it may have to evaluate: of
modules that there are, to which it leads and which are not kept. -/
theorem ask_courses (others : Engine σ) {state : ModuleLoader} {demand : Demand} (enough : depth ≤ fuel)
    (ready : Ready program loader world) (present : world.loaders.get? loader = some state)
    (finite : (program.resolvable (demand.aim world state)).Finite)
    (few : (program.resolvable (demand.aim world state) \ cachedKeys world loader).ncard ≤ depth) :
    Courses program loader depth [demand.aim world state] (fun _ => True)
      (demand.ask (program.engine others) (Script.exec (program.engine others) fuel) loader)
      world := by
  induction depth generalizing fuel world demand state with
  | zero =>
      rcases quiet_or_evaluates demand _ ready present with quiet | ⟨source, _, unknown, found, _⟩
      · exact quiet 0
      · -- A key that is there and is not kept counts.
        have counted : (demand.aim world state).key ∈
            program.resolvable (demand.aim world state) \ cachedKeys world loader :=
          ⟨Program.resolvable_self (Program.next?_of_found found), unknown⟩
        have positive := (Set.ncard_pos (finite.subset Set.sdiff_subset)).mpr ⟨_, counted⟩
        exact absurd few (Nat.not_le.mpr positive)
  | succ depth ih =>
      rcases quiet_or_evaluates demand _ ready present with
        quiet | ⟨source, report?, unknown, found, ended⟩
      · exact quiet (depth + 1)
      · obtain ⟨less, rfl⟩ : ∃ less, fuel = less + 1 := ⟨fuel - 1, by omega⟩
        have leads := Program.next?_of_found found
        generalize demand.aim world state = aim at unknown found ended leads finite few ⊢
        have absent : cached? world loader aim.path.components = none :=
          Option.eq_none_iff_forall_ne_some.mpr fun record kept => unknown ⟨record, kept⟩
        have tracks : Tracks world
            (entered (searched world loader aim.path report?) loader aim.path source) :=
          trans_of Tracks (tracks_search absent report?)
            (tracks_enter source.directory source.kind source.origin source.text present absent)
        have leaves : Leaves none world
            (entered (searched world loader aim.path report?) loader aim.path source) :=
          trans_of _ (leaves_searched world loader aim.path report?)
            (leaves_entered _ loader aim.path source)
        have keys : insert aim.key (cachedKeys world loader) = cachedKeys
            (entered (searched world loader aim.path report?) loader aim.path source) loader :=
          (cachedKeys_entered present aim.path source).symm
        -- Below, the key is kept too, so that there is one fewer to evaluate.
        have asks (below : World σ) (demand : Demand) (state : ModuleLoader)
            (ready : Ready program loader below)
            (keeps : insert aim.key (cachedKeys world loader) ⊆ cachedKeys below loader)
            (present : below.loaders.get? loader = some state)
            (among : demand.aim below state ∈
              (program.bodyOf aim.path source).aims program.stock.paths source.directory) :
            Courses program loader depth [demand.aim below state] (fun _ => True)
              (demand.ask (program.engine others) (Script.exec (program.engine others) less)
                loader) below := by
          have inside := Program.resolvable_child leads among
          refine ih (Nat.le_of_succ_le_succ enough) ready present (finite.subset inside) ?_
          have fewer : program.resolvable (demand.aim below state) \ cachedKeys below loader ⊆
              (program.resolvable aim \ cachedKeys world loader) \ {aim.key} := by
            rintro key ⟨resolves, unkept⟩
            refine ⟨⟨inside resolves, fun kept => unkept (keeps (.inr kept))⟩, ?_⟩
            rintro rfl
            exact unkept (keeps (.inl rfl))
          have counted : aim.key ∈ program.resolvable aim \ cachedKeys world loader :=
            ⟨Program.resolvable_self leads, unknown⟩
          have bounded := Set.ncard_le_ncard fewer (finite.sdiff.sdiff)
          have one := Set.ncard_sdiff_singleton_add_one counted finite.sdiff
          omega
        -- The search leaves the cache as it was.
        have present' : (searched world loader aim.path report?).loaders.get? loader = some state :=
          present
        have unknown' : aim.key ∉ cachedKeys (searched world loader aim.path report?) loader :=
          unknown
        obtain ⟨outcome, after, news, came, grown, nested, tours⟩ :=
          proceed_courses present' unknown' found
            (evaluate_courses asks (fun _ among => among) (ready.stays tracks leaves) keys.subset)
        refine ⟨outcome, after, searchEvents loader aim.path report? ++ news, ended.trans came, ?_,
          (Nested.of_quiet (quiet_search _ _)).append nested, ?_⟩
        · rw [grown, journal_searched, List.append_assoc]
        · intro _ unfailed
          have started : startedKeys loader (searchEvents loader aim.path report? ++ news) =
              startedKeys loader news := by
            cases report? <;> rfl
          rw [started]
          exact tours trivial fun record path member =>
            unfailed record path (List.mem_append_right _ member)

end Bodies

end Runs

end ScriptHost.Modules
