import ScriptHost.Proofs.Modules.Effects

/-!
# What happens to loaders and records

Records are only added, and a record that is there may be compiled or given another
container, but where it came from never changes.  Four things happen to the loaders: one
is created, a record enters a cache with the evaluation that begins, a record is
forgotten, or nothing.  A relation that holds across each of them is kept by every run
of every script.
-/

namespace ScriptHost.Modules

open World

variable {σ : Type} {before after world : World σ} {part : Part} {loader : Nat}

/-- A later state of a record: it may have been compiled, and given another container. -/
def Continues (record later : ModuleRecord) : Prop :=
  later = { record with isCompiled := later.isCompiled, exports := later.exports }

theorem Continues.trans {first second third : ModuleRecord} (early : Continues first second)
    (late : Continues second third) : Continues first third := by
  unfold Continues at *
  rw [late, early]

/-- Loaders stay as they are, records go on, and no evaluation begins. -/
structure Quiet (before after : World σ) : Prop where
  fresh : before.fresh ≤ after.fresh
  loaders : after.loaders = before.loaders
  size : after.records.size = before.records.size
  records : ∀ (id : Nat) record, before.records[id]? = some record →
    ∃ later, after.records[id]? = some later ∧ Continues record later
  journal : ∃ news, after.journal.toList = before.journal.toList ++ news ∧
    ∀ loader id container path, .evaluating loader id container path ∉ news

/-- What a relation has to satisfy to hold across requires. -/
structure Growth (R : World σ → World σ → Prop) : Prop where
  quiet : ∀ before after, Quiet before after → R before after
  created : ∀ resources paths, Keeps R (newLoader resources paths : Action σ Nat)
  /-- A record is kept for the path of a demand, with the source that was found for it. -/
  kept : ∀ (demand : Demand) (world : World σ) {loader : Nat} {state : ModuleLoader}
    {source : Source}, world.loaders.get? loader = some state →
    ((stockOf world state).find (demand.aim world state)).1 = .ok (some source) →
    R world (entered world loader (demand.aim world state).path source)
  evicted : ∀ (world : World σ) loader record path,
    R world (forgotten world loader record path)

/-! ## Entries -/

/-- A loader had the entry before, and has not been changed otherwise. -/
def Old (before : World σ) (owner : Nat) (later : ModuleLoader) (key : List Component)
    (id : Nat) : Prop :=
  ∃ state, before.loaders.get? owner = some state ∧ later.resources = state.resources ∧
    later.paths = state.paths ∧ state.cache.get? key = some id

variable {owner id : Nat} {state later : ModuleLoader} {key : List Component}

/-- A new loader has no entries. -/
theorem old_of_created {resources : Table String String} {paths : ModulePaths}
    (present : (newLoader resources paths world).2.loaders.get? owner = some later)
    (kept : later.cache.get? key = some id) : Old world owner later key id := by
  have view : (world.loaders.insert world.fresh (.start resources paths)).get? owner =
      some later := present
  rw [Table.get?_insert] at view
  split at view
  next =>
      cases view
      cases kept
  next => exact ⟨later, view, rfl, rfl, kept⟩

theorem old_of_forgotten {record : Nat} {path : Path}
    (present : (forgotten world loader record path).loaders.get? owner = some later)
    (kept : later.cache.get? key = some id) : Old world owner later key id := by
  have view : (world.loaders.modify loader fun state => state.evict path).get? owner =
      some later := present
  rw [Table.get?_modify] at view
  split at view
  next mine =>
      rcases Option.map_eq_some_iff.mp view with ⟨state, present', rfl⟩
      rw [ModuleLoader.evict, Table.get?_erase] at kept
      split at kept
      next => cases kept
      next => exact ⟨state, present', rfl, rfl, kept⟩
  next => exact ⟨later, view, rfl, rfl, kept⟩

theorem loaders_entered (world : World σ) (loader : Nat) (path : Path) (source : Source)
    (owner : Nat) :
    (entered world loader path source).loaders.get? owner =
      if loader = owner then (world.loaders.get? owner).map (·.keep path world.records.size)
      else world.loaders.get? owner :=
  Table.get?_modify world.loaders loader owner fun state => state.keep path world.records.size

theorem records_entered (world : World σ) (loader : Nat) (path : Path) (source : Source)
    (id : Nat) :
    (entered world loader path source).records[id]? =
      if id = world.records.size then some (recordOf world path source)
      else world.records[id]? :=
  Array.getElem?_push

theorem records_entered_of_some {id : Nat} {record : ModuleRecord}
    (found : world.records[id]? = some record) (path : Path) (source : Source) :
    (entered world loader path source).records[id]? = some record := by
  rcases Array.getElem?_eq_some_iff.mp found with ⟨bound, -⟩
  rw [records_entered, if_neg (Nat.ne_of_lt bound)]
  exact found

/-- After a record has entered, an entry is the new one or an old one. -/
theorem new_or_old_of_entered {path : Path} {source : Source}
    (there : world.loaders.get? loader = some state)
    (present : (entered world loader path source).loaders.get? owner = some later)
    (kept : later.cache.get? key = some id) :
    (owner = loader ∧ later = state.keep path world.records.size ∧ key = path.components ∧
        id = world.records.size) ∨
      Old world owner later key id := by
  rw [loaders_entered] at present
  split at present
  next mine =>
      subst mine
      rw [there] at present
      cases present
      have entries : (state.cache.insert path.components world.records.size).get? key = some id :=
        kept
      rw [Table.get?_insert] at entries
      split at entries
      next same =>
          cases entries
          exact .inl ⟨rfl, rfl, same.symm, rfl⟩
      next => exact .inr ⟨state, there, rfl, rfl, entries⟩
  next => exact .inr ⟨later, present, rfl, rfl, kept⟩

/-! ## Quiet calls -/

theorem quiet_of_changes (other : part ≠ .modules) (changes : Changes part before after) :
    Quiet before after := by
  rcases changes.modules other with ⟨loaders, records⟩
  rcases changes.journal with ⟨news, grown, about⟩
  constructor
  case fresh => exact changes.fresh
  case loaders => exact loaders
  case size => rw [records]
  case records => exact fun id record found => ⟨record, by rwa [records], rfl⟩
  case journal =>
      refine ⟨news, grown, fun loader id container path member => ?_⟩
      rcases about _ member with same | same
      · exact other same.symm
      · cases same

/-- Events are told. -/
theorem quiet_told {journal : Journal} {news : List Event}
    (grown : journal.toList = world.journal.toList ++ news)
    (silent : ∀ loader id container path, .evaluating loader id container path ∉ news) :
    Quiet world { world with journal } where
  fresh := Nat.le_refl _
  loaders := rfl
  size := rfl
  records _ record found := ⟨record, found, rfl⟩
  journal := ⟨news, grown, silent⟩

theorem quiet_searched (world : World σ) (loader : Nat) (path : Path)
    (report? : Option LogRecord) : Quiet world (searched world loader path report?) := by
  apply quiet_told (journal_searched world loader path report?)
  intro owner id container other member
  cases report? <;> simp [searchEvents] at member

/-- A record may be compiled and given another container. -/
theorem quiet_modify (record : Nat) {f : ModuleRecord → ModuleRecord} {journal : Journal}
    {news : List Event} (continues : ∀ r, Continues r (f r))
    (grown : journal.toList = world.journal.toList ++ news)
    (silent : ∀ loader id container path, .evaluating loader id container path ∉ news) :
    Quiet world { world with records := world.records.modify record f, journal } := by
  constructor
  case fresh => exact Nat.le_refl _
  case loaders => rfl
  case size => exact Array.size_modify
  case journal => exact ⟨news, grown, silent⟩
  case records =>
      intro id found there
      simp only [Array.getElem?_modify]
      by_cases same : record = id
      · simp only [if_pos same, there, Option.map_some]
        exact ⟨f found, rfl, continues found⟩
      · simp only [if_neg same]
        exact ⟨found, there, rfl⟩

/-! ## Requires and scripts -/

namespace Growth

variable {R : World σ → World σ → Prop} [IsPreorder (World σ) R] (growth : Growth R)

include growth

omit [IsPreorder (World σ) R] in
theorem changes (other : part ≠ .modules) (before after : World σ)
    (changes : Changes part before after) : R before after :=
  growth.quiet before after (quiet_of_changes other changes)

omit [IsPreorder (World σ) R] in
theorem answer (request : Request) (concerns : request.part? = some .modules) :
    Keeps R (Script.answer request : Action σ request.Reply) := by
  cases request <;> cases concerns
  case newLoader resources paths => exact growth.created resources paths
  case setExports record container =>
      intro world
      exact growth.quiet _ _ (quiet_modify record (fun _ => rfl) Array.toList_push (by simp))

section Demands

variable (engine : Engine σ) {run : Script σ → Action σ Value} (ran : ∀ script, Keeps R (run script))

include ran

theorem evaluate (loader id : Nat) (record : ModuleRecord) :
    Keeps R (Modules.evaluate engine run loader id record) := by
  refine ends_true_iff.mp (ends_evaluate (growth.changes (by decide)) (fun id world => ?_)
    (fun script => (ran script).ends) loader id record)
  exact growth.quiet _ _
    (quiet_modify id (fun _ => rfl) (List.append_nil _).symm (fun _ _ _ _ => List.not_mem_nil))

/-- What follows a search by which something was found. -/
theorem proceed {path : Path} {source : Source}
    (begun : R world (entered world loader path source)) :
    R world (Modules.proceed engine run loader path (.ok (some source)) world).2 := by
  have body := trans_of R begun (growth.evaluate engine ran loader world.records.size
    (recordOf world path source) (entered world loader path source))
  rcases ended : Modules.evaluate engine run loader world.records.size
    (recordOf world path source) (entered world loader path source) with
    ⟨(error | _) | _, last⟩ <;> rw [ended] at body
  · rw [proceed_of_raised ended]
    exact trans_of R body (growth.evicted last loader world.records.size path)
  · rw [proceed_of_exhausted ended]
    exact body
  · rw [proceed_of_ok ended]
    exact trans_of R body (growth.quiet _ _ (quiet_told Array.toList_push (by simp)))

theorem ask (demand : Demand) (loader : Nat) : Keeps R (demand.ask engine run loader) := by
  intro world
  cases present : world.loaders.get? loader with
  | none =>
      rw [demand.ask_of_gone engine run present]
      exact refl_of R world
  | some state =>
      cases found : state.lookup? (demand.aim world state).path with
      | some record =>
          rw [← demand.target_eq] at found
          rw [demand.ask_of_kept engine run present found]
          exact growth.quiet _ _ (quiet_told Array.toList_push (by simp))
      | none =>
          rw [demand.ask_of_absent engine run present found]
          generalize looked : (stockOf world state).find (demand.aim world state) = answer
          rcases answer with ⟨cause | _ | source, report?⟩
          all_goals
            have begun := growth.quiet _ _
              (quiet_searched world loader (demand.aim world state).path report?)
            apply trans_of R begun
          · exact refl_of R _
          · exact refl_of R _
          · have hit := congrArg Prod.fst looked
            exact growth.proceed engine ran (growth.kept demand (searched world loader
              (demand.aim world state).path report?) present hit)

end Demands

/-- Every run of every script satisfies the relation. -/
theorem rules (engine : Engine σ) : Rules engine R where
  rest := growth.changes (by decide)
  runtimes := .of_changes (growth.changes (by decide))
  request := Script.keeps_answer growth.changes growth.answer
  require _ ran loader requester specifier :=
    growth.ask engine ran (.module requester specifier) loader
  requireNative _ ran loader name := growth.ask engine ran (.native name) loader
  input _ := (changes_system _).mono (growth.changes (by decide))
  listen := Dispatch.keeps_listenFor (growth.changes (by decide))
  schedule := Dispatch.keeps_schedule (growth.changes (by decide))
  poll _ ran := Dispatch.keeps_poll (growth.changes (by decide)) ran
  drive _ ran := Dispatch.keeps_drive (growth.changes (by decide)) ran

end Growth

end ScriptHost.Modules
