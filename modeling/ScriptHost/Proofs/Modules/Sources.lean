import ScriptHost.Proofs.Modules.Once

/-!
# What a demand leads to

A demand is aimed at a path before anything is looked up, and with the path it is
settled whether it names a file or a native module.  What an aim finds depends on
nothing but the files, the embedded texts and the paths of the loader.  So every
demand that the cache cannot answer goes one way: the search is told to the journal,
and the source that it finds is kept and evaluated.
-/

namespace ScriptHost.Modules

open World

variable {σ : Type}

/-! ## Aims -/

/-- Where a demand leads: a path, and the kind of a file module unless it is a native one. -/
structure Aim where
  /-- The path. -/
  path : Path
  /-- The kind of a file module. -/
  kind? : Option ModuleKind
deriving DecidableEq, Repr

namespace Aim

/-- The key under which the cache would know the module. -/
def key (aim : Aim) : List Component :=
  aim.path.components

/-- A native module by its name. -/
def ofNative (name : String) : Aim :=
  ⟨⟨Specifier.nativeEntry name⟩, none⟩

/-- A specifier that is seen from a directory. -/
def ofSpecifier (paths : ModulePaths) (directory : Path) (specifier : String) : Aim :=
  let expanded := (Specifier.expandAlias? specifier paths.appRoot).getD specifier
  match ModuleKind.ofExtension? (Specifier.extension expanded) with
  | some kind => ⟨directory.resolve expanded, some kind⟩
  | none => ofNative expanded

end Aim

/-- Where a demand leads. -/
def Demand.aim (demand : Demand) (world : World σ) (state : ModuleLoader) : Aim :=
  match demand with
  | module requester specifier =>
      .ofSpecifier state.paths (baseDirectory world state.paths requester) specifier
  | native name => .ofNative name

theorem Demand.target_eq (demand : Demand) (world : World σ) (state : ModuleLoader) :
    demand.target world state = (demand.aim world state).path := by
  cases demand with
  | native name => rfl
  | module requester specifier =>
      unfold target aim Aim.ofSpecifier
      dsimp only
      cases ModuleKind.ofExtension? (Specifier.extension
        ((Specifier.expandAlias? specifier state.paths.appRoot).getD specifier)) <;> rfl

/-! ## Sources -/

/-- What an evaluation starts from. -/
structure Source where
  /-- The directory that the module's own requires start from. -/
  directory : Path
  /-- The kind of the module. -/
  kind : ModuleKind
  /-- Where the text came from. -/
  origin : ModuleOrigin
  /-- The text. -/
  text : String
deriving DecidableEq, Repr

/-- Where sources come from.  No require changes any of it. -/
structure Stock where
  /-- The files. -/
  disk : Disk
  /-- The embedded texts. -/
  resources : Table String String
  /-- Where modules are looked for. -/
  paths : ModulePaths

/-- The stock of a loader. -/
def stockOf (world : World σ) (state : ModuleLoader) : Stock :=
  ⟨world.disk, state.resources, state.paths⟩

/-- What an aim finds in a stock, and what is to be reported. -/
def Stock.find (stock : Stock) (aim : Aim) :
    Except FileError (Option Source) × Option LogRecord :=
  match aim.kind? with
  | none =>
      (.ok ((stock.resources.get? aim.path.text).map fun text =>
        ⟨stock.paths.appRoot, .native, .embedded aim.path.text, text⟩), none)
  | some kind =>
      let (answer, report?) :=
        ModuleSearch.locate stock.disk stock.resources stock.paths aim.path
      (answer.map fun hit? => hit?.map fun hit =>
        ⟨aim.path.parent?.getD stock.paths.appRoot, kind, hit.2, hit.1⟩, report?)

/-- The events of a search. -/
def searchEvents (loader : Nat) (path : Path) : Option LogRecord → List Event
  | none => [.searched loader path]
  | some report => [.searched loader path, .log report]

/-- The world after a search has been told. -/
def searched (world : World σ) (loader : Nat) (path : Path) (report? : Option LogRecord) :
    World σ :=
  { world with journal := world.journal ++ (searchEvents loader path report?).toArray }

@[simp]
theorem journal_searched (world : World σ) (loader : Nat) (path : Path)
    (report? : Option LogRecord) :
    (searched world loader path report?).journal.toList =
      world.journal.toList ++ searchEvents loader path report? := by
  simp [searched]

/-- What follows a search. -/
def proceed (engine : Engine σ) (run : Script σ → Action σ Value) (loader : Nat) (path : Path) :
    Except FileError (Option Source) → Action σ (Option Nat)
  | .error cause => raise (.file cause)
  | .ok none => pure none
  | .ok (some source) =>
      some <$> instantiate engine run loader path source.directory source.kind source.origin
        source.text

section Demands

variable (engine : Engine σ) (run : Script σ → Action σ Value) {world : World σ} {loader : Nat}
  {state : ModuleLoader}

/-- Without the loader nothing happens. -/
theorem Demand.ask_of_gone (demand : Demand) (gone : world.loaders.get? loader = none) :
    demand.ask engine run loader world = (.ok none, world) := by
  cases demand <;>
    · simp only [ask, require, requireNative]
      rw [get_bind_eq, gone]
      rfl

private theorem requireNative_of_absent {name : String}
    (present : world.loaders.get? loader = some state)
    (absent : state.lookup? (Aim.ofNative name).path = none) :
    requireNative engine run loader name world =
      proceed engine run loader (Aim.ofNative name).path
        ((stockOf world state).find (.ofNative name)).1
        (searched world loader (Aim.ofNative name).path
          ((stockOf world state).find (.ofNative name)).2) := by
  have told : (tell (.searched loader (Aim.ofNative name).path) : Action σ Unit) world =
      (.ok (), searched world loader (Aim.ofNative name).path none) :=
    rfl
  simp only [Aim.ofNative] at absent told ⊢
  unfold requireNative
  rw [get_bind_eq, present]
  dsimp only
  rw [absent]
  dsimp only
  rw [bind_of_ok told]
  simp only [Stock.find, stockOf]
  cases state.resources.get? (Specifier.nativeEntry name) <;> rfl

private theorem requireFile_of_absent {requester : Option Nat} {kind : ModuleKind}
    {specifier : String} {path : Path}
    (aimed : (baseDirectory world state.paths requester).resolve specifier = path)
    (absent : state.lookup? path = none) :
    requireFile engine run loader state requester kind specifier world =
      proceed engine run loader path ((stockOf world state).find ⟨path, some kind⟩).1
        (searched world loader path ((stockOf world state).find ⟨path, some kind⟩).2) := by
  have told : (tell (.searched loader path) : Action σ Unit) world =
      (.ok (), searched world loader path none) :=
    rfl
  unfold requireFile
  rw [get_bind_eq]
  dsimp only
  rw [aimed, absent]
  dsimp only
  rw [bind_of_ok told]
  dsimp only [Stock.find, stockOf]
  rcases ModuleSearch.locate world.disk state.resources state.paths path with ⟨answer, report?⟩
  cases report? with
  | none => rcases answer with _ | _ | ⟨text, origin⟩ <;> rfl
  | some report =>
      have reported : (tell (.log report) : Action σ Unit) (searched world loader path none) =
          (.ok (), searched world loader path (some report)) :=
        rfl
      dsimp only
      rw [bind_of_ok reported]
      rcases answer with _ | _ | ⟨text, origin⟩ <;> rfl

/-- A demand that the cache cannot answer searches and goes on with what it finds. -/
theorem Demand.ask_of_absent (demand : Demand) (present : world.loaders.get? loader = some state)
    (absent : state.lookup? (demand.aim world state).path = none) :
    demand.ask engine run loader world =
      proceed engine run loader (demand.aim world state).path
        ((stockOf world state).find (demand.aim world state)).1
        (searched world loader (demand.aim world state).path
          ((stockOf world state).find (demand.aim world state)).2) := by
  cases demand with
  | native name => exact requireNative_of_absent engine run present absent
  | module requester specifier =>
      unfold ask require
      unfold aim Aim.ofSpecifier at absent ⊢
      dsimp only at absent ⊢
      rw [get_bind_eq, present]
      dsimp only
      cases ofKind : ModuleKind.ofExtension? (Specifier.extension
          ((Specifier.expandAlias? specifier state.paths.appRoot).getD specifier)) with
      | none =>
          rw [ofKind] at absent
          exact requireNative_of_absent engine run present absent
      | some kind =>
          rw [ofKind] at absent
          exact requireFile_of_absent engine run rfl absent

end Demands

/-! ## Evaluations -/

/-- The record that an evaluation starts with. -/
def recordOf (world : World σ) (path : Path) (source : Source) : ModuleRecord :=
  ⟨path, source.directory, source.kind, source.origin, source.text, false, world.containers.size⟩

/-- The world in which an evaluation starts. -/
def entered (world : World σ) (loader : Nat) (path : Path) (source : Source) : World σ :=
  (enter loader path source.directory source.kind source.origin source.text world).2

@[simp]
theorem journal_entered (world : World σ) (loader : Nat) (path : Path) (source : Source) :
    (entered world loader path source).journal.toList = world.journal.toList ++
      [.evaluating loader world.records.size world.containers.size path] :=
  Array.toList_push

/-- The world in which an evaluation has ended well. -/
def finished (world : World σ) (loader record : Nat) (path : Path) : World σ :=
  { world with
    journal := world.journal.push (.evaluated loader record (world.exportsOf record) path) }

section Instantiate

variable {engine : Engine σ} {run : Script σ → Action σ Value} {loader : Nat} {path : Path}
  {source : Source} {world late : World σ}

theorem proceed_of_ok (ended : evaluate engine run loader world.records.size
    (recordOf world path source) (entered world loader path source) = (.ok (), late)) :
    proceed engine run loader path (.ok (some source)) world =
      (.ok (some (late.exportsOf world.records.size)),
        finished late loader world.records.size path) := by
  have begun : enter loader path source.directory source.kind source.origin source.text world =
      (.ok (world.records.size, recordOf world path source), entered world loader path source) :=
    rfl
  have attempted : attempt (evaluate engine run loader world.records.size
      (recordOf world path source)) (entered world loader path source) = (.ok (.ok ()), late) :=
    attempt_eq_ok_iff.mpr ended
  rw [proceed, instantiate, map_eq_pure_bind, bind_assoc, bind_of_ok begun]
  dsimp only
  rw [bind_assoc, bind_of_ok attempted]
  rfl

theorem proceed_of_raised {error : Error} (ended : evaluate engine run loader world.records.size
    (recordOf world path source) (entered world loader path source) =
      (.error (.raised error), late)) :
    proceed engine run loader path (.ok (some source)) world =
      (.error (.raised error), forgotten late loader world.records.size path) := by
  have begun : enter loader path source.directory source.kind source.origin source.text world =
      (.ok (world.records.size, recordOf world path source), entered world loader path source) :=
    rfl
  have attempted : attempt (evaluate engine run loader world.records.size
      (recordOf world path source)) (entered world loader path source) =
        (.ok (.error error), late) :=
    attempt_eq_ok_iff.mpr ended
  rw [proceed, instantiate, map_eq_pure_bind, bind_assoc, bind_of_ok begun]
  dsimp only
  rw [bind_assoc, bind_of_ok attempted]
  rfl

theorem proceed_of_exhausted (ended : evaluate engine run loader world.records.size
    (recordOf world path source) (entered world loader path source) =
      (.error .exhausted, late)) :
    proceed engine run loader path (.ok (some source)) world = (.error .exhausted, late) := by
  have begun : enter loader path source.directory source.kind source.origin source.text world =
      (.ok (world.records.size, recordOf world path source), entered world loader path source) :=
    rfl
  have attempted := attempt_eq_error_iff.mpr ⟨rfl, ended⟩
  rw [proceed, instantiate, map_eq_pure_bind, bind_assoc, bind_of_ok begun]
  dsimp only
  rw [bind_assoc, bind_of_error attempted]

end Instantiate

end ScriptHost.Modules
