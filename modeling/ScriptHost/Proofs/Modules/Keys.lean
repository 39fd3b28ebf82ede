import ScriptHost.Proofs.Modules.Payloads
import ScriptHost.Proofs.Modules.Resolution
import ScriptHost.Proofs.Paths.Lexical

/-!
# What the keys of a cache look like

A record feeds the next require with its directory, so that the keys are well formed is
an induction over the history: as long as every requester lives in an absolute directory,
every file module is found at an absolute path without dots, and lives in the directory
above.  Native modules have relative paths, so the two never meet in a cache.
-/

namespace ScriptHost.Modules

open World

variable {σ : Type} {before after world : World σ} {loader : Nat} {state : ModuleLoader}

/-! ## Places of records -/

/-- A file module of this kind is at an absolute path without dots, and its last name has the
extension. -/
structure IsFile (path : Path) (kind : ModuleKind) (names : List (List Char)) (last : List Char) :
    Prop where
  proper : ∀ name ∈ names ++ [last], Path.IsProper name
  written : path = ⟨String.ofList (Path.rooted (names ++ [last]))⟩
  extension : ModuleKind.ofExtension? (Specifier.extension (String.ofList last)) = some kind

namespace IsFile

variable {path : Path} {kind : ModuleKind} {names : List (List Char)} {last : List Char}

theorem components (file : IsFile path kind names last) :
    path.components = .root :: (names ++ [last]).map .name := by
  rw [file.written, Path.components, String.toList_ofList, Path.componentsOf_rooted file.proper]

theorem parent? (file : IsFile path kind names last) :
    path.parent? = some ⟨String.ofList (Path.rooted names)⟩ := by
  have inside : ∀ name ∈ names, Path.IsProper name := fun name member =>
    file.proper name (List.mem_append_left _ member)
  have ends := file.proper last (List.mem_append_right _ (List.mem_singleton_self last))
  rw [file.written, Path.parent?, String.toList_ofList, Path.parentText?_rooted inside ends]
  rfl

end IsFile

/-- A record is where its kind says. -/
structure WellPlaced (appRoot : Path) (record : ModuleRecord) : Prop where
  file : record.kind ≠ .native → record.path.isAbsolute = true ∧
    (∃ names last, IsFile record.path record.kind names last) ∧
    record.path.parent? = some record.directory
  native : record.kind = .native → record.path.isAbsolute = false ∧
    (∃ name, record.path = ⟨Specifier.nativeEntry name⟩) ∧ record.directory = appRoot

theorem WellPlaced.continues {appRoot : Path} {record later : ModuleRecord}
    (placed : WellPlaced appRoot record) (continues : Continues record later) :
    WellPlaced appRoot later := by
  rw [continues]
  exact ⟨placed.file, placed.native⟩

/-! ## Aims -/

/-- The names at which the specifier of a file module arrives, seen from a requester. -/
def lexicalAt (world : World σ) (paths : ModulePaths) (requester : Option Nat)
    (specifier : String) : List (List Char) :=
  Path.lexical (baseDirectory world paths requester) (expanded paths specifier)

theorem kind?_module {requester : Option Nat} {specifier : String} {kind : ModuleKind}
    (aimed : ((Demand.module requester specifier).aim world state).kind? = some kind) :
    ModuleKind.ofExtension? (Specifier.extension (expanded state.paths specifier)) =
      some kind := by
  unfold expanded
  unfold Demand.aim Aim.ofSpecifier at aimed
  dsimp only at aimed
  cases found : ModuleKind.ofExtension? (Specifier.extension
      ((Specifier.expandAlias? specifier state.paths.appRoot).getD specifier)) with
  | none =>
      rw [found] at aimed
      cases aimed
  | some other =>
      rw [found] at aimed
      exact aimed

/-- What is not aimed at a file is aimed at the entry of a native module. -/
theorem path_of_native {demand : Demand} (aimed : (demand.aim world state).kind? = none) :
    ∃ name, (demand.aim world state).path = ⟨Specifier.nativeEntry name⟩ := by
  cases demand with
  | native name => exact ⟨name, rfl⟩
  | module requester specifier =>
      unfold Demand.aim Aim.ofSpecifier at aimed ⊢
      dsimp only at aimed ⊢
      split
      next found =>
        rw [found] at aimed
        cases aimed
      next => exact ⟨_, rfl⟩

/-- The first component of a native module is a name. -/
theorem components_nativeEntry (name : String) :
    ∃ rest, (Path.mk (Specifier.nativeEntry name)).components = .name ['l', 'i', 'b'] :: rest := by
  have written : (Specifier.nativeEntry name).toList =
      ['l', 'i', 'b'] ++ '/' :: (name ++ ".js").toList := by
    simp [Specifier.nativeEntry, Specifier.libraryDirectory]
  have cut : Text.pieces '/' (Specifier.nativeEntry name).toList =
      ['l', 'i', 'b'] :: Text.pieces '/' (name ++ ".js").toList := by
    rw [written, Text.pieces_append_cons]
    rfl
  refine ⟨(Text.pieces '/' (name ++ ".js").toList).filterMap Component.ofPiece?, ?_⟩
  unfold Path.components Path.componentsOf
  rw [cut, written]
  rfl

theorem isAbsolute_nativeEntry (name : String) :
    (Path.mk (Specifier.nativeEntry name)).isAbsolute = false := by
  simp [Path.isAbsolute, Specifier.nativeEntry, Specifier.libraryDirectory]

section Aims

variable (grounded : ∀ requester, (baseDirectory world state.paths requester).isAbsolute = true)

include grounded

/-- The key of a file module is the root and the names at which its specifier arrives. -/
theorem key_of_file {requester : Option Nat} {specifier : String} {kind : ModuleKind}
    (aimed : ((Demand.module requester specifier).aim world state).kind? = some kind) :
    ((Demand.module requester specifier).aim world state).path.components =
      .root :: (lexicalAt world state.paths requester specifier).map .name := by
  rw [aim_of_file (kind?_module aimed)]
  exact Path.components_resolve (grounded requester)

/-- A file module is aimed at an absolute path without dots. -/
theorem isFile_of_aim {demand : Demand} {kind : ModuleKind}
    (aimed : (demand.aim world state).kind? = some kind) :
    ∃ names last, IsFile (demand.aim world state).path kind names last := by
  cases demand with
  | native name => cases aimed
  | module requester specifier =>
      have file := kind?_module aimed
      have absolute := grounded requester
      rcases Path.lexical_of_file (baseDirectory world state.paths requester) file with
        ⟨names, last, arrives, extended⟩
      rcases Path.resolve_eq_rooted absolute (expanded state.paths specifier) with
        ⟨written, proper⟩
      rw [arrives] at written proper
      refine ⟨names, last, proper, ?_, ?_⟩
      · rw [aim_of_file file]
        exact written
      · rw [extended]
        exact file

end Aims

/-! ## Keys that are well formed -/

/-- The cache of a loader is well formed, and demands are answered from it by what they name. -/
structure WellKeyed (world : World σ) (state : ModuleLoader) : Prop where
  /-- Every record is kept under its own path, and is where its kind says. -/
  own : ∀ key id, state.cache.get? key = some id →
    ∃ record, world.records[id]? = some record ∧ record.path.components = key ∧
      WellPlaced state.paths.appRoot record
  /-- A demand for a file is answered with a record of the kind of the file, any other with one
  of a native module. -/
  kinds : ∀ (demand : Demand) id record,
    state.lookup? (demand.aim world state).path = some id → world.records[id]? = some record →
    record.kind = (demand.aim world state).kind?.getD .native
  /-- Two specifiers of files have the same record exactly if they arrive at the same names. -/
  same : ∀ requester specifier kind requester' specifier' kind' id,
    ((Demand.module requester specifier).aim world state).kind? = some kind →
    ((Demand.module requester' specifier').aim world state).kind? = some kind' →
    state.lookup? ((Demand.module requester specifier).aim world state).path = some id →
    (state.lookup? ((Demand.module requester' specifier').aim world state).path = some id ↔
      lexicalAt world state.paths requester' specifier' =
        lexicalAt world state.paths requester specifier)

theorem map_name_injective {names names' : List (List Char)}
    (same : names.map Component.name = names'.map .name) : names = names' :=
  List.map_injective_iff.mpr (fun _ _ => Component.name.inj) same

/-- A record that is kept under the path of a demand has the kind that the demand is aimed at. -/
theorem kind_of_components
    (grounded : ∀ requester, (baseDirectory world state.paths requester).isAbsolute = true)
    {demand : Demand} {record : ModuleRecord} {appRoot : Path} (placed : WellPlaced appRoot record)
    (same : record.path.components = (demand.aim world state).path.components) :
    record.kind = (demand.aim world state).kind?.getD .native := by
  cases aimed : (demand.aim world state).kind? with
  | none =>
      rcases path_of_native aimed with ⟨name, entry⟩
      rcases components_nativeEntry name with ⟨rest, relative⟩
      apply Classical.byContradiction
      intro other
      rcases (placed.file other).2.1 with ⟨names, last, file⟩
      rw [file.components, entry, relative] at same
      cases same
  | some kind =>
      rcases isFile_of_aim grounded aimed with ⟨names, last, file⟩
      by_cases native : record.kind = .native
      · rcases (placed.native native).2.1 with ⟨name, entry⟩
        rcases components_nativeEntry name with ⟨rest, relative⟩
        rw [file.components, entry, relative] at same
        cases same
      · rcases (placed.file native).2.1 with ⟨names', last', file'⟩
        rw [file.components, file'.components] at same
        have ends := map_name_injective (List.cons.inj same).2
        have last_eq : last' = last := by
          simpa using congrArg List.getLast? ends
        have kinds := file'.extension
        rw [last_eq, file.extension] at kinds
        exact (Option.some.inj kinds).symm

section Own

variable (grounded : ∀ requester, (baseDirectory world state.paths requester).isAbsolute = true)
  (own : ∀ key id, state.cache.get? key = some id →
    ∃ record, world.records[id]? = some record ∧ record.path.components = key ∧
      WellPlaced state.paths.appRoot record)

include grounded own

/-- The record of some names is kept for the specifiers that arrive at them. -/
theorem lookup?_eq_some_iff {names : List (List Char)} {id : Nat}
    (kept : state.cache.get? (.root :: names.map .name) = some id) {requester : Option Nat}
    {specifier : String} {kind : ModuleKind}
    (aimed : ((Demand.module requester specifier).aim world state).kind? = some kind) :
    state.lookup? ((Demand.module requester specifier).aim world state).path = some id ↔
      lexicalAt world state.paths requester specifier = names := by
  rw [ModuleLoader.lookup?, key_of_file grounded aimed]
  constructor
  · intro kept'
    rcases own _ id kept with ⟨record, found, same, -⟩
    rcases own _ id kept' with ⟨record', found', same', -⟩
    cases found.symm.trans found'
    exact map_name_injective (List.cons.inj (same'.symm.trans same)).2
  · rintro rfl
    exact kept

theorem wellKeyed_of_own : WellKeyed world state := by
  constructor
  case own => exact own
  case kinds =>
      intro demand id record kept found
      rcases own _ id kept with ⟨record', found', same, placed⟩
      cases found.symm.trans found'
      exact kind_of_components grounded placed same
  case same =>
      intro requester specifier kind requester' specifier' kind' id aimed aimed' kept
      rw [ModuleLoader.lookup?, key_of_file grounded aimed] at kept
      exact lookup?_eq_some_iff grounded own kept aimed'

end Own

/-! ## Families of loaders -/

/-- A loader has begun to evaluate a record. -/
def Made (world : World σ) (loader id : Nat) : Prop :=
  ∃ container path, .evaluating loader id container path ∈ world.journal.toList

/-- The loaders of a family have absolute app roots.  A module of a loader outside may be given
to them as a requester, so its directory has to be absolute as well. -/
structure Sheltered (family : Nat → Prop) (world : World σ) : Prop where
  absolute : ∀ loader state, family loader → world.loaders.get? loader = some state →
    state.paths.appRoot.isAbsolute = true
  foreign : ∀ loader id record, ¬family loader → Made world loader id →
    world.records[id]? = some record → record.directory.isAbsolute = true

/-- Every record has a maker, those of the family are in absolute directories, and what they
keep is well placed. -/
structure Keyed (family : Nat → Prop) (world : World σ) : Prop where
  made : ∀ (id : Nat) record, world.records[id]? = some record → ∃ loader, Made world loader id
  dated : ∀ loader id, Made world loader id →
    id < world.records.size ∧ ∃ state, world.loaders.get? loader = some state
  based : ∀ loader id record, family loader → Made world loader id →
    world.records[id]? = some record → record.directory.isAbsolute = true
  kept : ∀ loader state key id, family loader → world.loaders.get? loader = some state →
    state.cache.get? key = some id → ∃ record, world.records[id]? = some record ∧
      record.path.components = key ∧ WellPlaced state.paths.appRoot record

/-- What happens to records, loaders and the history. -/
structure Progress (family : Nat → Prop) (before after : World σ) : Prop where
  numbered : ∀ loader, after.fresh ≤ loader → after.loaders.get? loader = none
  loaders : ∀ loader state, before.loaders.get? loader = some state →
    ∃ later, after.loaders.get? loader = some later ∧ later.paths = state.paths
  records : ∀ (id : Nat) record, before.records[id]? = some record →
    ∃ later, after.records[id]? = some later ∧ Continues record later
  journal : ∃ news, after.journal.toList = before.journal.toList ++ news
  keyed : Sheltered family after → Keyed family before → Keyed family after

variable {family : Nat → Prop}

/-- The directories of the requesters of a family are absolute. -/
theorem Keyed.grounded (keyed : Keyed family world) (sheltered : Sheltered family world)
    (member : family loader) (present : world.loaders.get? loader = some state)
    (requester : Option Nat) : (baseDirectory world state.paths requester).isAbsolute = true := by
  unfold baseDirectory
  split
  next record given =>
    rcases Option.bind_eq_some_iff.mp given with ⟨id, -, found⟩
    rcases keyed.made id record found with ⟨owner, made⟩
    by_cases own : family owner
    · exact keyed.based owner id record own made found
    · exact sheltered.foreign owner id record own made found
  next => exact sheltered.absolute loader state member present

/-- What is sheltered later was sheltered before. -/
theorem Sheltered.earlier (sheltered : Sheltered family after)
    (loaders : ∀ loader state, before.loaders.get? loader = some state →
      ∃ later, after.loaders.get? loader = some later ∧ later.paths = state.paths)
    (records : ∀ (id : Nat) record, before.records[id]? = some record →
      ∃ later, after.records[id]? = some later ∧ Continues record later)
    (journal : ∃ news, after.journal.toList = before.journal.toList ++ news) :
    Sheltered family before := by
  constructor
  case absolute =>
      intro loader state member present
      rcases loaders loader state present with ⟨later, present', paths⟩
      rw [← paths]
      exact sheltered.absolute loader later member present'
  case foreign =>
      rintro loader id record outside ⟨container, path, told⟩ found
      rcases records id record found with ⟨later, found', continues⟩
      rcases journal with ⟨news, grown⟩
      have told' := List.mem_append_left news told
      rw [← grown] at told'
      have absolute := sheltered.foreign loader id later outside ⟨container, path, told'⟩ found'
      rw [continues] at absolute
      exact absolute

theorem Progress.sheltered (progress : Progress family before after)
    (sheltered : Sheltered family after) : Sheltered family before :=
  sheltered.earlier progress.loaders progress.records progress.journal

/-- The relation between worlds in which loaders are numbered. -/
def Progresses (family : Nat → Prop) (before after : World σ) : Prop :=
  (∀ loader, before.fresh ≤ loader → before.loaders.get? loader = none) →
    Progress family before after

instance : IsPreorder (World σ) (Progresses family) where
  refl world numbered :=
    ⟨numbered, fun _ state present => ⟨state, present, rfl⟩,
      fun _ record found => ⟨record, found, rfl⟩, ⟨[], (List.append_nil _).symm⟩, fun _ keyed => keyed⟩
  trans _ _ _ first second := by
    intro numbered
    have early := first numbered
    have late := second early.numbered
    constructor
    case numbered => exact late.numbered
    case loaders =>
        intro loader state present
        rcases early.loaders loader state present with ⟨middle, present', paths⟩
        rcases late.loaders loader middle present' with ⟨later, present'', paths'⟩
        exact ⟨later, present'', paths'.trans paths⟩
    case records =>
        intro id record found
        rcases early.records id record found with ⟨middle, found', continues⟩
        rcases late.records id middle found' with ⟨later, found'', continues'⟩
        exact ⟨later, found'', continues.trans continues'⟩
    case journal =>
        rcases early.journal with ⟨news, grown⟩
        rcases late.journal with ⟨news', grown'⟩
        exact ⟨news ++ news', by rw [grown', grown, List.append_assoc]⟩
    case keyed =>
        exact fun sheltered keyed => late.keyed sheltered (early.keyed (late.sheltered sheltered) keyed)

/-! ## One step -/

section Old

variable (size : after.records.size = before.records.size)
  (records : ∀ (id : Nat) record, before.records[id]? = some record →
    ∃ later, after.records[id]? = some later ∧ Continues record later)
  (loaders : ∀ loader state, before.loaders.get? loader = some state →
    ∃ later, after.loaders.get? loader = some later ∧ later.paths = state.paths)
  {news : List Event} (grown : after.journal.toList = before.journal.toList ++ news)
  (silent : ∀ loader id container path, .evaluating loader id container path ∉ news)
  (entries : ∀ loader later key id, after.loaders.get? loader = some later →
    later.cache.get? key = some id → Old before loader later key id)

include size records loaders grown silent entries

/-- The records are those that were there, no evaluation begins and nothing new is kept. -/
theorem keyed_of_old (keyed : Keyed family before) : Keyed family after := by
  have made {loader id : Nat} : Made after loader id ↔ Made before loader id := by
    unfold Made
    simp only [grown, List.mem_append, silent, or_false]
  have back {id : Nat} {later : ModuleRecord} (found : after.records[id]? = some later) :
      ∃ record, before.records[id]? = some record ∧ Continues record later := by
    rcases Array.getElem?_eq_some_iff.mp found with ⟨bound, -⟩
    have there := Array.getElem?_eq_getElem (size ▸ bound : id < before.records.size)
    rcases records id _ there with ⟨later', found', continues⟩
    cases found.symm.trans found'
    exact ⟨_, there, continues⟩
  constructor
  case made =>
      intro id later found
      rcases back found with ⟨record, found', -⟩
      rcases keyed.made id record found' with ⟨loader, maker⟩
      exact ⟨loader, made.mpr maker⟩
  case dated =>
      intro loader id maker
      rcases keyed.dated loader id (made.mp maker) with ⟨bound, state, present⟩
      rcases loaders loader state present with ⟨later, present', -⟩
      exact ⟨size ▸ bound, later, present'⟩
  case based =>
      intro loader id later member maker found
      rcases back found with ⟨record, found', continues⟩
      have absolute := keyed.based loader id record member (made.mp maker) found'
      rw [continues]
      exact absolute
  case kept =>
      intro loader later key id member present kept
      rcases entries loader later key id present kept with ⟨state, present', -, paths, kept'⟩
      rcases keyed.kept loader state key id member present' kept' with ⟨record, found, same, placed⟩
      rcases records id record found with ⟨record', found', continues⟩
      refine ⟨record', found', ?_, ?_⟩
      · rw [continues]
        exact same
      · rw [paths]
        exact placed.continues continues

theorem progress_of_old (numbered : ∀ loader, after.fresh ≤ loader →
    after.loaders.get? loader = none) : Progress family before after where
  numbered := numbered
  loaders := loaders
  records := records
  journal := ⟨news, grown⟩
  keyed _ := keyed_of_old size records loaders grown silent entries

end Old

theorem progresses_of_quiet (quiet : Quiet before after) : Progresses family before after := by
  intro numbered
  rcases quiet.journal with ⟨news, grown, silent⟩
  refine progress_of_old quiet.size quiet.records ?_ grown silent ?_ ?_
  · exact fun loader state present => ⟨state, by rwa [quiet.loaders], rfl⟩
  · exact fun loader later key id present kept => ⟨later, by rwa [← quiet.loaders], rfl, rfl, kept⟩
  · intro loader above
    rw [quiet.loaders]
    exact numbered loader (Nat.le_trans quiet.fresh above)

theorem progresses_newLoader (resources : Table String String) (paths : ModulePaths) :
    Keeps (Progresses family) (newLoader resources paths : Action σ Nat) := by
  intro world numbered
  have view (loader : Nat) : (newLoader resources paths world).2.loaders.get? loader =
      if world.fresh = loader then some (.start resources paths)
      else world.loaders.get? loader :=
    Table.get?_insert ..
  refine progress_of_old rfl (fun _ record found => ⟨record, found, rfl⟩) ?_
    (List.append_nil _).symm (by simp) (fun _ _ _ _ => old_of_created) ?_
  · intro loader state present
    have other : world.fresh ≠ loader := by
      intro new
      rw [numbered loader (Nat.le_of_eq new)] at present
      cases present
    exact ⟨state, by rw [view, if_neg other, present], rfl⟩
  · intro loader above
    have other : world.fresh ≠ loader := Nat.ne_of_lt above
    rw [view, if_neg other]
    exact numbered loader (Nat.le_of_lt above)

theorem progresses_forgotten (world : World σ) (loader record : Nat) (path : Path) :
    Progresses family world (forgotten world loader record path) := by
  intro numbered
  have view (owner : Nat) : (forgotten world loader record path).loaders.get? owner =
      if loader = owner then (world.loaders.get? owner).map (·.evict path)
      else world.loaders.get? owner :=
    Table.get?_modify ..
  refine progress_of_old rfl (fun _ record found => ⟨record, found, rfl⟩) ?_
    Array.toList_push (by simp) (fun _ _ _ _ => old_of_forgotten) ?_
  · intro owner state present
    rw [view, present]
    split
    · exact ⟨_, rfl, rfl⟩
    · exact ⟨_, rfl, rfl⟩
  · intro owner above
    rw [view, numbered owner above]
    split <;> rfl

/-- What a search found for a demand is well placed. -/
theorem wellPlaced_recordOf
    (grounded : ∀ requester, (baseDirectory world state.paths requester).isAbsolute = true)
    {demand : Demand} {source : Source}
    (found : ((stockOf world state).find (demand.aim world state)).1 = .ok (some source)) :
    WellPlaced state.paths.appRoot (recordOf world (demand.aim world state).path source) ∧
      source.directory.isAbsolute = true := by
  have absolute := grounded none
  cases aimed : (demand.aim world state).kind? with
  | none =>
      rcases path_of_native aimed with ⟨name, entry⟩
      rcases embedded_of_find aimed found with ⟨native, home, -⟩
      refine ⟨⟨fun other => absurd native other, fun _ => ⟨?_, ⟨name, entry⟩, home⟩⟩, ?_⟩
      · exact (congrArg Path.isAbsolute entry).trans (isAbsolute_nativeEntry name)
      · rw [home]
        exact absolute
  | some kind =>
      rcases isFile_of_aim grounded aimed with ⟨names, last, file⟩
      rcases located_of_find aimed found with ⟨ofKind, home, -⟩
      rw [file.parent?, Option.getD_some] at home
      have notNative : source.kind ≠ .native := fun native => by
        rw [ofKind] at native
        exact demand.kind?_aim world state (aimed.trans (congrArg some native))
      rw [← ofKind] at file
      refine ⟨⟨fun _ => ⟨?_, ⟨names, last, file⟩, ?_⟩,
        fun native => absurd native notNative⟩, ?_⟩
      · exact (congrArg Path.isAbsolute file.written).trans (Path.isAbsolute_rooted _)
      · exact file.parent?.trans (congrArg some home.symm)
      · rw [home]
        exact Path.isAbsolute_rooted _

section Entered

variable {path : Path} {source : Source}

theorem made_entered {owner id : Nat} :
    Made (entered world loader path source) owner id ↔
      Made world owner id ∨ owner = loader ∧ id = world.records.size := by
  unfold Made
  simp only [journal_entered, List.mem_append, List.mem_singleton, Event.evaluating.injEq]
  constructor
  · rintro ⟨container, path, old | ⟨same, new, -⟩⟩
    · exact .inl ⟨container, path, old⟩
    · exact .inr ⟨same, new⟩
  · rintro (⟨container, path, old⟩ | ⟨same, new⟩)
    · exact ⟨container, path, .inl old⟩
    · exact ⟨_, _, .inr ⟨same, new, rfl, rfl⟩⟩

theorem persists_entered (owner : Nat) (before : ModuleLoader)
    (present : world.loaders.get? owner = some before) :
    ∃ later, (entered world loader path source).loaders.get? owner = some later ∧
      later.paths = before.paths := by
  rw [loaders_entered, present]
  split
  · exact ⟨_, rfl, rfl⟩
  · exact ⟨_, rfl, rfl⟩

/-- A record that enters has a maker, and it is well placed if its maker is of the family. -/
theorem keyed_entered (present : world.loaders.get? loader = some state)
    (placed : family loader → WellPlaced state.paths.appRoot (recordOf world path source) ∧
      source.directory.isAbsolute = true)
    (keyed : Keyed family world) : Keyed family (entered world loader path source) := by
  constructor
  case made =>
      intro id record found
      rw [records_entered] at found
      split at found
      next new => exact ⟨loader, made_entered.mpr (.inr ⟨rfl, new⟩)⟩
      next =>
        rcases keyed.made id record found with ⟨owner, maker⟩
        exact ⟨owner, made_entered.mpr (.inl maker)⟩
  case dated =>
      intro owner id maker
      have size : (entered world loader path source).records.size = world.records.size + 1 :=
        Array.size_push _
      rw [size]
      rcases made_entered.mp maker with old | ⟨rfl, rfl⟩
      · rcases keyed.dated owner id old with ⟨bound, before, there⟩
        rcases persists_entered owner before there with ⟨later, there', -⟩
        exact ⟨Nat.lt_succ_of_lt bound, later, there'⟩
      · rcases persists_entered owner state present with ⟨later, there', -⟩
        exact ⟨Nat.lt_succ_self _, later, there'⟩
  case based =>
      intro owner id record member maker found
      rw [records_entered] at found
      rcases made_entered.mp maker with old | ⟨rfl, rfl⟩
      · rw [if_neg (Nat.ne_of_lt (keyed.dated owner id old).1)] at found
        exact keyed.based owner id record member old found
      · rw [if_pos rfl] at found
        cases found
        exact (placed member).2
  case kept =>
      intro owner later key id member there kept
      rcases new_or_old_of_entered present there kept with
        ⟨rfl, rfl, rfl, rfl⟩ | ⟨before, there', -, paths, kept'⟩
      · exact ⟨_, (records_entered ..).trans (if_pos rfl), rfl, (placed member).1⟩
      · rcases keyed.kept owner before key id member there' kept' with ⟨record, found, same, well⟩
        rw [paths]
        exact ⟨record, records_entered_of_some found path source, same, well⟩

end Entered

theorem progresses_entered (demand : Demand) {source : Source}
    (present : world.loaders.get? loader = some state)
    (found : ((stockOf world state).find (demand.aim world state)).1 = .ok (some source)) :
    Progresses family world (entered world loader (demand.aim world state).path source) := by
  intro numbered
  have records (id : Nat) (record : ModuleRecord) (there : world.records[id]? = some record) :
      ∃ later, (entered world loader (demand.aim world state).path source).records[id]? =
        some later ∧ Continues record later :=
    ⟨record, records_entered_of_some there _ source, rfl⟩
  constructor
  case numbered =>
      intro owner above
      rw [loaders_entered, numbered owner above]
      split <;> rfl
  case loaders => exact persists_entered
  case records => exact records
  case journal => exact ⟨_, journal_entered ..⟩
  case keyed =>
      intro sheltered' keyed
      have sheltered := sheltered'.earlier persists_entered records ⟨_, journal_entered ..⟩
      refine keyed_entered present (fun member => ?_) keyed
      exact wellPlaced_recordOf (keyed.grounded sheltered member present) found

theorem progresses_growth : Growth (Progresses family : World σ → World σ → Prop) where
  quiet _ _ := progresses_of_quiet
  created := progresses_newLoader
  kept demand _ _ _ _ := progresses_entered demand
  evicted := progresses_forgotten

/-! ## Sessions -/

theorem keyed_start (session : Session σ) (steps : Option Nat) :
    Keyed family { session.start with steps } where
  made _ _ found := nomatch found
  dated := by
    rintro loader id ⟨container, path, told⟩
    cases told
  based _ _ _ _ _ found := nomatch found
  kept _ _ _ _ _ present := nomatch present

/-- At every moment of every session in which a family is sheltered, its caches are keyed. -/
theorem keyed_world (session : Session σ) (moment : Nat)
    (sheltered : Sheltered family (session.world moment)) : Keyed family (session.world moment) :=
  have progress := session.keeps (progresses_growth.rules session.engine) moment
    (tracked_start session (some moment)).loaders
  progress.keyed sheltered (keyed_start session (some moment))

theorem Keyed.wellKeyed (keyed : Keyed family world) (sheltered : Sheltered family world)
    (member : family loader) (present : world.loaders.get? loader = some state) :
    WellKeyed world state :=
  wellKeyed_of_own (keyed.grounded sheltered member present) fun key id =>
    keyed.kept loader state key id member present

/-- What was returned to a demand are the exports of a record that is kept for it then, and of
the kind that was asked for.  Specifiers of files have that record if and only if they arrive at
the same names. -/
structure Returned (before after : World σ) (state later : ModuleLoader) (demand : Demand)
    (container id : Nat) (record : ModuleRecord) : Prop where
  wellKeyed : WellKeyed after later
  kept : later.lookup? (demand.aim before state).path = some id
  found : after.records[id]? = some record
  exports : record.exports = container
  kind : record.kind = (demand.aim before state).kind?.getD .native
  same : ∀ requester specifier kind requester' specifier' kind',
    demand = .module requester specifier → (demand.aim before state).kind? = some kind →
    ((Demand.module requester' specifier').aim after later).kind? = some kind' →
    (later.lookup? ((Demand.module requester' specifier').aim after later).path = some id ↔
      lexicalAt after later.paths requester' specifier' =
        lexicalAt before state.paths requester specifier)

theorem returned_of_ended {engine : Engine σ} {fuel : Nat} {demand : Demand} {container : Nat}
    (tracked : Tracked world) (keyed : Keyed family world) (sheltered' : Sheltered family after)
    (member : family loader) (present : world.loaders.get? loader = some state)
    (ended : demand.ask engine (Script.exec engine fuel) loader world =
      (.ok (some container), after)) :
    ∃ later id record, after.loaders.get? loader = some later ∧
      Returned world after state later demand container id record := by
  have ran : Keeps (Progresses family) (demand.ask engine (Script.exec engine fuel) loader) :=
    progresses_growth.ask engine ((progresses_growth.rules engine).exec fuel) demand loader
  have progress := ran world tracked.loaders
  rw [ended] at progress
  have grounded := keyed.grounded (progress.sheltered sheltered') member present
  have keyed' := progress.keyed sheltered' keyed
  rcases progress.loaders loader state present with ⟨later, present', -⟩
  have wellKeyed := keyed'.wellKeyed sheltered' member present'
  rcases demand.kept_of_returned ((tracks_rules engine).exec fuel) tracked present ended with
    ⟨id, cached, exports⟩
  have kept : later.lookup? (demand.aim world state).path = some id :=
    (cached?_eq_lookup? present' _).symm.trans cached
  rcases wellKeyed.own _ id kept with ⟨record, found, same, placed⟩
  refine ⟨later, id, record, present', ?_⟩
  constructor
  case wellKeyed => exact wellKeyed
  case kept => exact kept
  case found => exact found
  case exports => rw [← exports, exportsOf_of_found found]
  case kind => exact kind_of_components grounded placed same
  case same =>
      rintro requester specifier kind requester' specifier' kind' rfl aimed aimed'
      rw [ModuleLoader.lookup?, key_of_file grounded aimed] at kept
      exact lookup?_eq_some_iff (keyed'.grounded sheltered' member present') wellKeyed.own kept
        aimed'

/-- Let some loaders with absolute app roots be given, and modules of other loaders, if any, be
in absolute directories.  Then at every moment their caches are well keyed: a record is kept
under its own path, a file is at an absolute path without dots, of the kind of its extension and
at home in the directory above, and a native module is at its relative entry and at home in
the app root.  Demands are answered with records of the kind that they ask for, and specifiers of
files have the same record exactly if they arrive at the same names.  It is so in the middle of
the bodies of modules, and when a further demand has come back. -/
theorem keys_are_well_formed (session : Session σ) (moment : Nat)
    {family : Nat → Prop} (sheltered : Sheltered family (session.world moment)) {loader : Nat}
    (member : family loader) {state : ModuleLoader}
    (present : (session.world moment).loaders.get? loader = some state) :
    WellKeyed (session.world moment) state ∧
      ∀ (steps : Option Nat) (engine : Engine σ) (fuel : Nat) (demand : Demand) container after,
        attempt (demand.ask engine (Script.exec engine fuel) loader)
            { session.world moment with steps } = (.ok (.ok (some container)), after) →
        Sheltered family after →
        ∃ later id record, after.loaders.get? loader = some later ∧
          Returned { session.world moment with steps } after state later demand container id
            record := by
  have keyed := keyed_world session moment sheltered
  have tracked := tracked_world session moment
  refine ⟨keyed.wellKeyed sheltered member present, ?_⟩
  intro steps engine fuel demand container after returned sheltered'
  have ended := attempt_eq_ok_iff.mp returned
  generalize session.world moment = world at *
  have tracked' : Tracked { world with steps } := { tracked with }
  have keyed' : Keyed family { world with steps } := { keyed with }
  have present' : ({ world with steps } : World σ).loaders.get? loader = some state := present
  exact returned_of_ended tracked' keyed' sheltered' member present' ended

/-- A session that has loaded a file module and a native one.  The file module has a name that no
file can have, so only the embedded texts are looked at. -/
def housed : Session Unit where
  engine := idle
  script :=
    .ask (.newLoader ⟨[("a\x00.js", "embedded"), ("lib/old.js", "")]⟩ ⟨⟨"/app"⟩, ⟨"/installed"⟩⟩)
      fun loader =>
        .require loader none "./a\x00.js" fun _ => .requireNative loader "old" fun _ => .done .null
  fuel := 2
  input := []
  waitLimit := none
  offers := []
  disk := .empty
  environment := .empty
  memory := ()

/-- Another spelling of the name has the record that was made for the first. -/
theorem respelled_file_has_the_record :
    ∃ state, (housed.world 9).loaders.get? 0 = some state ∧ WellKeyed (housed.world 9) state ∧
      state.lookup? ((Demand.module none "b/../a\x00.js").aim (housed.world 9) state).path =
        some 0 := by
  have view : ((housed.world 9).loaders.get? 0).map (fun state => decide (
      ((Demand.module none "./a\x00.js").aim (housed.world 9) state).kind? = some .script ∧
      ((Demand.module none "b/../a\x00.js").aim (housed.world 9) state).kind? = some .script ∧
      state.lookup? ((Demand.module none "./a\x00.js").aim (housed.world 9) state).path = some 0 ∧
      lexicalAt (housed.world 9) state.paths none "b/../a\x00.js" =
        lexicalAt (housed.world 9) state.paths none "./a\x00.js")) = some true := by
    decide +kernel
  rcases Option.map_eq_some_iff.mp view with ⟨state, present, facts⟩
  rcases of_decide_eq_true facts with ⟨aimed, aimed', kept, arrives⟩
  have absolute : ((housed.world 9).loaders.values.all fun state =>
      state.paths.appRoot.isAbsolute) = true := by
    decide +kernel
  have sheltered : Sheltered (fun _ => True) (housed.world 9) :=
    ⟨fun _ other _ there => List.all_eq_true.mp absolute other (Table.mem_values there),
      fun _ _ _ outside => absurd trivial outside⟩
  have well := (keys_are_well_formed housed 9 sheltered trivial present).1
  refine ⟨state, present, well, ?_⟩
  exact (well.same none _ _ none _ _ 0 aimed aimed' kept).mpr arrives

end ScriptHost.Modules
