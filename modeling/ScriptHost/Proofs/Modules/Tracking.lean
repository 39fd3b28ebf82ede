import ScriptHost.Proofs.Modules.Replay
import ScriptHost.Proofs.Runs.Indifference

/-!
# Caches follow the history

In every world that scripts can see, the caches of the loaders are what the
history says they are.  Requires are reentrant: while a record is evaluated its
body may require the same key again, and other evaluations may fail.  The
induction goes through because whatever runs meanwhile leaves the entries that
are already in a cache alone, so a failed evaluation still finds its own record
to forget.
-/

namespace ScriptHost.Modules

open World

variable {σ : Type} {part : Part}

/-- The record that a loader keeps for a key. -/
def cached? (world : World σ) (loader : Nat) (key : List Component) : Option Nat :=
  (world.loaders.get? loader).bind fun state => state.cache.get? key

/-- The history tells what the loaders keep and what the records export, and it is
lawful. -/
structure Tracked (world : World σ) : Prop where
  /-- Loaders are numbered below the next number. -/
  loaders : ∀ loader, world.fresh ≤ loader → world.loaders.get? loader = none
  cache : ∀ loader key, cached? world loader key = keptBy world.journal.toList loader key
  /-- What is kept is a record. -/
  records : ∀ loader key record, cached? world loader key = some record →
    record < world.records.size
  exports : ∀ record : Nat, (world.records[record]?).map ModuleRecord.exports =
    exportsBy world.journal.toList record
  lawful : Lawful allowed world.journal.toList

/-- What a kept record exports is what the history says. -/
theorem Tracked.exported {world : World σ} (tracked : Tracked world) {loader record : Nat}
    {key : List Component} (kept : cached? world loader key = some record) :
    exportsBy world.journal.toList record = some (world.exportsOf record) := by
  have bound : record < world.records.size := tracked.records loader key record kept
  rw [← tracked.exports record, exportsOf, Array.getElem?_eq_getElem bound]
  rfl

/-- The entries of the caches are still there. -/
def Remembers (before after : World σ) : Prop :=
  ∀ loader key record, cached? before loader key = some record →
    cached? after loader key = some record

/-- What runs keep: the caches follow the history and lose no entry. -/
def Tracks (before after : World σ) : Prop :=
  Tracked before → Tracked after ∧ Remembers before after

instance : IsPreorder (World σ) Tracks where
  refl _ tracked := ⟨tracked, fun _ _ _ kept => kept⟩
  trans _ _ _ first second tracked :=
    have middle := first tracked
    have last := second middle.1
    ⟨last.1, fun loader key record kept =>
      last.2 loader key record (middle.2 loader key record kept)⟩

/-! ## Changes of other parts -/

/-- Loaders and records that stay as they are with news about other things. -/
theorem tracks_of_same {before after : World σ} (loaders : after.loaders = before.loaders)
    (records : after.records = before.records) (fresh : before.fresh ≤ after.fresh)
    {news : List Event} (grown : after.journal.toList = before.journal.toList ++ news)
    (about : ∀ event ∈ news, event.part ≠ .modules) : Tracks before after := by
  intro tracked
  have same (loader : Nat) (key : List Component) :
      cached? after loader key = cached? before loader key := by
    rw [cached?, cached?, loaders]
  refine ⟨?_, fun loader key record kept => (same loader key).trans kept⟩
  constructor
  case loaders =>
      intro loader above
      rw [loaders]
      exact tracked.loaders loader (Nat.le_trans fresh above)
  case cache =>
      intro loader key
      rw [same, grown, keptBy_append_of_part_ne about]
      exact tracked.cache loader key
  case records =>
      intro loader key record kept
      rw [records]
      exact tracked.records loader key record ((same loader key).symm.trans kept)
  case exports =>
      intro record
      rw [records, grown, exportsBy_append_of_part_ne about]
      exact tracked.exports record
  case lawful =>
      rw [grown]
      exact tracked.lawful.append_free fun event member =>
        allowed_of_part_ne (about event member)

theorem tracks_of_changes (other : part ≠ .modules) (before after : World σ)
    (changes : Changes part before after) : Tracks before after := by
  rcases changes.journal with ⟨news, grown, about⟩
  refine tracks_of_same (changes.modules other).1 (changes.modules other).2 changes.fresh grown ?_
  intro event member
  rcases about event member with same | rest
  · rw [same]
    exact other
  · rw [rest]
    decide

/-! ## Single changes -/

/-- An event that says what is the case is told. -/
theorem tracks_tell (event : Event) (world : World σ)
    (next : Tracked world → allowed world.journal.toList event)
    (kept : ∀ loader key kept, keepAfter loader key kept event = kept)
    (exported : ∀ record exports, exportAfter record exports event = exports) :
    Tracks world { world with journal := world.journal.push event } := by
  intro tracked
  refine ⟨?_, fun loader key record entry => entry⟩
  constructor
  case loaders => exact tracked.loaders
  case records => exact tracked.records
  case cache =>
      intro loader key
      rw [Array.toList_push, keptBy_concat, kept]
      exact tracked.cache loader key
  case exports =>
      intro record
      rw [Array.toList_push, exportsBy_concat, exported]
      exact tracked.exports record
  case lawful =>
      rw [Array.toList_push]
      exact tracked.lawful.concat (next tracked)

/-- What a loader keeps after one of them was changed. -/
theorem cached?_modify {before after : World σ} {owner : Nat} {f : ModuleLoader → ModuleLoader}
    (changed : after.loaders = before.loaders.modify owner f) (loader : Nat)
    (key : List Component) :
    cached? after loader key =
      if owner = loader then
        ((before.loaders.get? loader).map f).bind fun state => state.cache.get? key
      else cached? before loader key := by
  simp only [cached?, changed, Table.get?_modify]
  split <;> rfl

theorem tracks_newLoader (resources : Table String String) (paths : ModulePaths) :
    Keeps Tracks (newLoader resources paths : Action σ Nat) := by
  intro world tracked
  have same (loader : Nat) (key : List Component) :
      cached? (newLoader resources paths world).2 loader key = cached? world loader key := by
    change (Option.bind ((world.loaders.insert world.fresh _).get? loader) _) = _
    rw [Table.get?_insert]
    split
    next new =>
        rw [cached?, tracked.loaders loader (Nat.le_of_eq new)]
        rfl
    next => rfl
  refine ⟨?_, fun loader key record kept => (same loader key).trans kept⟩
  constructor
  case loaders =>
      intro loader above
      change (world.loaders.insert world.fresh _).get? loader = none
      have other : world.fresh ≠ loader := Nat.ne_of_lt above
      rw [Table.get?_insert, if_neg other]
      exact tracked.loaders loader (Nat.le_of_lt above)
  case cache => exact fun loader key => (same loader key).trans (tracked.cache loader key)
  case records =>
      exact fun loader key record kept =>
        tracked.records loader key record ((same loader key).symm.trans kept)
  case exports => exact tracked.exports
  case lawful => exact tracked.lawful

theorem tracks_setExports (record container : Nat) (world : World σ) :
    Tracks world ((Request.setExports record container).perform world).2 := by
  intro tracked
  refine ⟨?_, fun loader key record kept => kept⟩
  constructor
  case loaders => exact tracked.loaders
  case cache =>
      intro loader key
      change cached? world loader key = keptBy (world.journal.push _).toList loader key
      rw [Array.toList_push, keptBy_concat]
      exact tracked.cache loader key
  case records =>
      intro loader key kept entry
      change kept < (world.records.modify record _).size
      rw [Array.size_modify]
      exact tracked.records loader key kept entry
  case exports =>
      intro other
      change ((world.records.modify record _)[other]?).map _ = exportsBy (world.journal.push _).toList _
      rw [Array.toList_push, exportsBy_concat, ← tracked.exports other, Array.getElem?_modify]
      simp only [exportAfter]
      split
      · cases world.records[other]? <;> rfl
      · rfl
  case lawful =>
      change Lawful allowed (world.journal.push _).toList
      rw [Array.toList_push]
      exact tracked.lawful.concat trivial

/-- A record may change as long as it exports the same container. -/
theorem tracks_changeRecord (record : Nat) {f : ModuleRecord → ModuleRecord}
    (same : ∀ r, (f r).exports = r.exports) :
    Keeps Tracks (changeRecord record f : Action σ Unit) := by
  intro world tracked
  refine ⟨?_, fun loader key record kept => kept⟩
  constructor
  case loaders => exact tracked.loaders
  case cache => exact tracked.cache
  case records =>
      intro loader key kept entry
      change kept < (world.records.modify record f).size
      rw [Array.size_modify]
      exact tracked.records loader key kept entry
  case exports =>
      intro other
      change ((world.records.modify record f)[other]?).map _ = exportsBy world.journal.toList _
      rw [← tracked.exports other, Array.getElem?_modify]
      split
      · cases world.records[other]? with
        | none => rfl
        | some r => exact congrArg some (same r)
      · rfl
  case lawful => exact tracked.lawful

/-! ## One evaluation -/

section Evaluation

variable {engine : Engine σ} {run : Script σ → Action σ Value} {loader : Nat} {path : Path}
  {world : World σ}

theorem enter_keeps (path directory : Path) (kind : ModuleKind) (origin : ModuleOrigin)
    (source : String) {state : ModuleLoader} (present : world.loaders.get? loader = some state)
    (owner : Nat) (key : List Component) :
    cached? (enter loader path directory kind origin source world).2 owner key =
      if loader = owner ∧ path.components = key then some world.records.size
      else cached? world owner key := by
  have changed : (enter loader path directory kind origin source world).2.loaders =
      world.loaders.modify loader fun state => state.keep path world.records.size :=
    rfl
  rw [cached?_modify changed]
  by_cases mine : loader = owner
  · subst mine
    rw [if_pos rfl, present]
    simp only [Option.map_some, Option.bind_some, ModuleLoader.keep, Table.get?_insert, true_and,
      cached?, present]
  · rw [if_neg mine, if_neg fun both => mine both.1]

/-- A new record enters the cache where nothing is kept. -/
theorem tracks_enter (directory : Path) (kind : ModuleKind) (origin : ModuleOrigin)
    (source : String) {state : ModuleLoader} (present : world.loaders.get? loader = some state)
    (absent : cached? world loader path.components = none) :
    Tracks world (enter loader path directory kind origin source world).2 := by
  intro tracked
  have kept := enter_keeps path directory kind origin source present
  refine ⟨?_, ?_⟩
  · constructor
    case loaders =>
        intro owner above
        change (world.loaders.modify loader _).get? owner = none
        rw [Table.get?_modify, tracked.loaders owner above]
        split <;> rfl
    case cache =>
        intro owner key
        change _ = keptBy (world.journal.push _).toList owner key
        rw [kept, Array.toList_push, keptBy_concat, ← tracked.cache owner key]
        rfl
    case records =>
        intro owner key record entry
        change record < (world.records.push _).size
        rw [Array.size_push]
        rw [kept] at entry
        split at entry
        next => exact Nat.lt_succ_of_le (Nat.le_of_eq (Option.some.inj entry).symm)
        next => exact Nat.lt_succ_of_lt (tracked.records owner key record entry)
    case exports =>
        intro record
        change ((world.records.push _)[record]?).map _ = exportsBy (world.journal.push _).toList _
        rw [Array.toList_push, exportsBy_concat, ← tracked.exports record, Array.getElem?_push]
        simp only [exportAfter]
        by_cases new : record = world.records.size
        · subst new
          rw [if_pos rfl, if_pos rfl]
          rfl
        · rw [if_neg new, if_neg (Ne.symm new)]
    case lawful =>
        change Lawful allowed (world.journal.push _).toList
        rw [Array.toList_push]
        refine tracked.lawful.concat ⟨?_, ?_⟩
        · exact (tracked.cache loader path.components).symm.trans absent
        · rw [← tracked.exports, Array.getElem?_size]
          rfl
  · intro owner key record entry
    rw [kept]
    refine (if_neg ?_).trans entry
    rintro ⟨rfl, rfl⟩
    exact absurd (absent.symm.trans entry) (Option.some_ne_none record).symm

/-- The world in which the record of a path has been forgotten. -/
def forgotten (world : World σ) (loader record : Nat) (path : Path) : World σ :=
  { world with
    loaders := world.loaders.modify loader fun state => state.evict path
    journal := world.journal.push (.evaluationFailed loader record path) }

theorem forgotten_keeps (world : World σ) (loader record : Nat) (path : Path) (owner : Nat)
    (key : List Component) :
    cached? (forgotten world loader record path) owner key =
      if loader = owner ∧ path.components = key then none else cached? world owner key := by
  have changed : (forgotten world loader record path).loaders =
      world.loaders.modify loader fun state => state.evict path :=
    rfl
  rw [cached?_modify changed]
  by_cases mine : loader = owner
  · subst mine
    rw [if_pos rfl]
    cases present : world.loaders.get? loader with
    | none => simp only [Option.map_none, Option.bind_none, cached?, present, ite_self]
    | some state =>
        simp only [Option.map_some, Option.bind_some, ModuleLoader.evict, Table.get?_erase,
          true_and, cached?, present]
  · rw [if_neg mine, if_neg fun both => mine both.1]

/-- A failed evaluation forgets its own record. -/
theorem tracked_forgotten {record : Nat} (tracked : Tracked world)
    (kept : cached? world loader path.components = some record) :
    Tracked (forgotten world loader record path) := by
  constructor
  case loaders =>
      intro owner above
      change (world.loaders.modify loader _).get? owner = none
      rw [Table.get?_modify, tracked.loaders owner above]
      split <;> rfl
  case cache =>
      intro owner key
      change _ = keptBy (world.journal.push _).toList owner key
      rw [forgotten_keeps, Array.toList_push, keptBy_concat, ← tracked.cache owner key]
      rfl
  case records =>
      intro owner key other entry
      rw [forgotten_keeps] at entry
      split at entry
      next => exact absurd entry.symm (Option.some_ne_none other)
      next => exact tracked.records owner key other entry
  case exports =>
      intro other
      change _ = exportsBy (world.journal.push _).toList other
      rw [Array.toList_push, exportsBy_concat]
      exact tracked.exports other
  case lawful =>
      change Lawful allowed (world.journal.push _).toList
      rw [Array.toList_push]
      exact tracked.lawful.concat ((tracked.cache loader path.components).symm.trans kept)

variable (ran : ∀ script, Keeps Tracks (run script))

omit run in
theorem tracks_rest_tell (event : Event) (about : event.part = .rest) :
    Keeps Tracks (tell event : Action σ Unit) := by
  intro world
  have told : Keeps (Changes .rest) (tell event : Action σ Unit) := changes_tell event (.inl about)
  exact tracks_of_changes (by decide) _ _ (told world)

include ran

theorem tracks_evaluate (engine : Engine σ) (loader id : Nat) (record : ModuleRecord) :
    Keeps Tracks (evaluate engine run loader id record) :=
  ends_true_iff.mp (ends_evaluate (tracks_of_changes (by decide))
    (fun id => tracks_changeRecord id fun _ => rfl) (fun script => (ran script).ends) loader id
    record)

/-- An evaluation that starts where nothing is kept. -/
theorem tracks_instantiate {state : ModuleLoader}
    (present : world.loaders.get? loader = some state)
    (absent : cached? world loader path.components = none) (directory : Path)
    (kind : ModuleKind) (origin : ModuleOrigin) (source : String) :
    Tracks world (instantiate engine run loader path directory kind origin source world).2 := by
  intro tracked
  have entry := enter_keeps path directory kind origin source present loader
    path.components
  rw [if_pos ⟨rfl, rfl⟩] at entry
  have started := tracks_enter directory kind origin source present absent tracked
  have beginning : enter loader path directory kind origin source world =
      (.ok (world.records.size,
        ⟨path, directory, kind, origin, source, false, world.containers.size⟩),
        (enter loader path directory kind origin source world).2) :=
    rfl
  unfold instantiate
  rw [bind_of_ok beginning]
  generalize (enter loader path directory kind origin source world).2 = middle at *
  generalize (ModuleRecord.mk path directory kind origin source false _) = record at *
  have body := (tracks_evaluate ran engine loader world.records.size record).attempt middle started.1
  dsimp only
  rcases ended : attempt (evaluate engine run loader world.records.size record) middle
    with ⟨outcome, late⟩
  rw [ended] at body
  have kept := body.2 _ _ _ entry
  have remembered : Remembers world late := fun owner key record old =>
    body.2 owner key record (started.2 owner key record old)
  rcases outcome with failure | (error | _)
  · rw [bind_of_error ended]
    exact ⟨body.1, remembered⟩
  · rw [bind_of_ok ended]
    refine ⟨tracked_forgotten body.1 kept, fun owner key record old => ?_⟩
    -- The entry that goes is not one of those that were there at the start.
    have others : ¬(loader = owner ∧ path.components = key) := by
      rintro ⟨rfl, rfl⟩
      exact absurd (old.symm.trans absent) (Option.some_ne_none record)
    exact ((forgotten_keeps late loader world.records.size path owner key).trans
      (if_neg others)).trans (remembered owner key record old)
  · rw [bind_of_ok ended]
    have told := tracks_tell
      (.evaluated loader world.records.size (late.exportsOf world.records.size) path) late
      (fun tracked => ⟨(tracked.cache _ _).symm.trans kept, tracked.exported kept⟩)
      (fun _ _ _ => rfl) (fun _ _ => rfl) body.1
    exact ⟨told.1, fun owner key record old => told.2 _ _ _ (remembered owner key record old)⟩

omit ran in
theorem tracks_answerWith {record : Nat} (loader : Nat) (path : Path)
    (kept : cached? world loader path.components = some record) :
    Tracks world (answerWith loader record path world).2 :=
  tracks_tell (.found loader record (world.exportsOf record) path) world
    (fun tracked => ⟨(tracked.cache _ _).symm.trans kept, tracked.exported kept⟩)
    (fun _ _ _ => rfl) (fun _ _ => rfl)

omit ran in
theorem tracks_searched (loader : Nat) (path : Path)
    (absent : cached? world loader path.components = none) :
    Tracks world (tell (.searched loader path) world).2 :=
  tracks_tell (.searched loader path) world
    (fun tracked => (tracked.cache _ _).symm.trans absent) (fun _ _ _ => rfl) (fun _ _ => rfl)

omit ran in
theorem cached?_eq_lookup? {state : ModuleLoader} (present : world.loaders.get? loader = some state)
    (path : Path) : cached? world loader path.components = state.lookup? path := by
  rw [cached?, present]
  rfl

theorem tracks_instantiated (engine : Engine σ) {state : ModuleLoader}
    (present : world.loaders.get? loader = some state)
    (absent : cached? world loader path.components = none) (directory : Path)
    (kind : ModuleKind) (origin : ModuleOrigin) (source : String) :
    Tracks world
      ((some <$> instantiate engine run loader path directory kind origin source) world).2 := by
  rw [map_world]
  exact tracks_instantiate ran present absent directory kind origin source

theorem tracks_requireNative (engine : Engine σ) (loader : Nat) (name : String) :
    Keeps Tracks (requireNative engine run loader name) := by
  intro world
  refine Keeps.bind_from (refl_of Tracks world) fun _ _ got => ?_
  cases got
  cases present : world.loaders.get? loader with
  | none => exact refl_of Tracks world
  | some state =>
      have looked := cached?_eq_lookup? present ⟨Specifier.nativeEntry name⟩
      dsimp only
      cases found : state.lookup? ⟨Specifier.nativeEntry name⟩ with
      | some record => exact tracks_answerWith loader _ (looked.trans found)
      | none =>
          refine Keeps.bind_from (tracks_searched loader _ (looked.trans found)) fun _ _ told => ?_
          cases told
          have proceed (middle : World σ) (same : middle.loaders = world.loaders) (text : String) :
              Tracks middle ((some <$> instantiate engine run loader ⟨Specifier.nativeEntry name⟩
                state.paths.appRoot .native (.embedded (Specifier.nativeEntry name)) text)
                middle).2 := by
            rw [← same] at present
            exact tracks_instantiated ran engine present
              ((cached?_eq_lookup? present _).trans found) _ _ _ _
          dsimp only
          cases state.resources.get? (Specifier.nativeEntry name) with
          | none => exact refl_of Tracks _
          | some text => apply proceed; rfl

theorem tracks_requireFile (engine : Engine σ) {loader : Nat} {state : ModuleLoader}
    (present : world.loaders.get? loader = some state) (requester : Option Nat)
    (kind : ModuleKind) (specifier : String) :
    Tracks world (requireFile engine run loader state requester kind specifier world).2 := by
  refine Keeps.bind_from (refl_of Tracks world) fun _ _ got => ?_
  cases got
  generalize (baseDirectory world state.paths requester).resolve specifier = path
  have looked := cached?_eq_lookup? present path
  dsimp only
  cases found : state.lookup? path with
  | some record => exact tracks_answerWith loader path (looked.trans found)
  | none =>
      refine Keeps.bind_from (tracks_searched loader path (looked.trans found)) fun _ _ told => ?_
      cases told
      dsimp only
      rcases ModuleSearch.locate world.disk state.resources state.paths path with ⟨answer, report?⟩
      have proceed (middle : World σ) (same : middle.loaders = world.loaders) :
          Tracks middle (answerSearch engine run loader path
            (path.parent?.getD state.paths.appRoot) kind answer middle).2 := by
        rcases answer with cause | _ | ⟨source, origin⟩
        · exact refl_of Tracks middle
        · exact refl_of Tracks middle
        · rw [← same] at present
          have absent : cached? middle loader path.components = none := by
            rw [cached?_eq_lookup? present, found]
          exact tracks_instantiated ran engine present absent _ _ _ _
      cases report? with
      | none => exact proceed _ rfl
      | some report =>
          refine Keeps.bind_from (tracks_rest_tell (.log report) rfl _) fun _ _ logged => ?_
          cases logged
          exact proceed _ rfl

theorem tracks_require (engine : Engine σ) (loader : Nat) (requester : Option Nat)
    (specifier : String) : Keeps Tracks (require engine run loader requester specifier) := by
  intro world
  refine Keeps.bind_from (refl_of Tracks world) fun _ _ got => ?_
  cases got
  cases present : world.loaders.get? loader with
  | none => exact refl_of Tracks world
  | some state =>
      dsimp only
      generalize ModuleKind.ofExtension? _ = kind?
      cases kind? with
      | some kind => exact tracks_requireFile ran engine present requester kind _
      | none => exact tracks_requireNative ran engine loader _ world

end Evaluation

/-! ## Runs -/

theorem tracks_answer (request : Request) (concerns : request.part? = some .modules) :
    Keeps Tracks (Script.answer request : Action σ request.Reply) := by
  cases request <;> cases concerns
  case newLoader resources paths => exact tracks_newLoader resources paths
  case setExports record container => exact tracks_setExports record container

/-- Every run of every script keeps the caches as the history says. -/
theorem tracks_rules (engine : Engine σ) : Rules engine (Tracks : World σ → World σ → Prop) where
  rest := tracks_of_changes (by decide)
  runtimes := .of_changes (tracks_of_changes (by decide))
  request := Script.keeps_answer tracks_of_changes tracks_answer
  require run ran loader requester specifier := tracks_require ran engine loader requester specifier
  requireNative run ran loader name := tracks_requireNative ran engine loader name
  input chunk := (changes_system _).mono (tracks_of_changes (by decide))
  listen := Dispatch.keeps_listenFor (tracks_of_changes (by decide))
  schedule := Dispatch.keeps_schedule (tracks_of_changes (by decide))
  poll run ran := Dispatch.keeps_poll (tracks_of_changes (by decide)) ran
  drive run ran := Dispatch.keeps_drive (tracks_of_changes (by decide)) ran

theorem tracked_start (session : Session σ) (steps : Option Nat) :
    Tracked { session.start with steps } where
  loaders _ _ := rfl
  cache _ _ := rfl
  records _ _ _ kept := nomatch kept
  exports _ := rfl
  lawful := Lawful.nil

/-- The caches follow the history at every moment of every session. -/
theorem tracked_world (session : Session σ) (steps : Nat) : Tracked (session.world steps) :=
  (session.keeps (tracks_rules session.engine) steps (tracked_start session _)).1

end ScriptHost.Modules
