import ScriptHost.Proofs.Modules.Sources

/-!
# Where file modules come from

The source of a file module is looked for in three places, one after the other.  They
differ in what counts as nothing: a file at the path itself decides even if it is empty
or cannot be read, while an empty text in the host, and an installed file that is empty
or cannot be read, are passed by.  The first place that has something decides alone: the
module is made of what it has, and no later place has any part in it.
-/

namespace ScriptHost.Modules

open World ModuleSearch

variable {σ : Type} {stock stock' : Stock} {path : Path}

/-- A place that sources of file modules come from. -/
inductive Place where
  /-- The file at the path of the module itself. -/
  | file
  /-- The texts embedded in the host. -/
  | embedded
  /-- The directory of installed modules. -/
  | installed
deriving DecidableEq, Repr

/-- How many places are asked before. -/
def Place.rank : Place → Nat
  | file => 0
  | embedded => 1
  | installed => 2

namespace Stock

/-- The name under which copies of a file module are kept. -/
def nameOf (stock : Stock) (path : Path) : String :=
  Specifier.resourceName path stock.paths.appRoot

/-- Where a copy of a file module would be installed. -/
def installedAt (stock : Stock) (path : Path) : Path :=
  stock.paths.installDirectory.join (stock.nameOf path)

/-- A place has something for a path: a text and its origin, or a failure to read it. -/
inductive Yields (stock : Stock) (path : Path) : Place → Except FileError Hit → Prop where
  /-- A regular file, empty or not. -/
  | file {text : String} (regular : stock.disk.isFile path = true)
      (read : stock.disk.readText path = .ok text) :
      Yields stock path .file (.ok (text, .filesystem path))
  /-- A regular file that cannot be read. -/
  | unreadable {cause : FileError} (regular : stock.disk.isFile path = true)
      (failed : stock.disk.readText path = .error cause) :
      Yields stock path .file (.error cause)
  /-- A text that is not empty. -/
  | embedded {text : String} (stored : stock.resources.get? (stock.nameOf path) = some text)
      (nonempty : text ≠ "") :
      Yields stock path .embedded (.ok (text, .embedded (stock.nameOf path)))
  /-- A regular file that can be read and is not empty. -/
  | installed {text : String} (regular : stock.disk.isFile (stock.installedAt path) = true)
      (read : stock.disk.readText (stock.installedAt path) = .ok text) (nonempty : text ≠ "") :
      Yields stock path .installed (.ok (text, .installed (stock.installedAt path)))

/-- A place is the first that has something for a path. -/
structure Decides (stock : Stock) (path : Path) (place : Place) (answer : Except FileError Hit) :
    Prop where
  yields : stock.Yields path place answer
  first : ∀ earlier other, earlier.rank < place.rank → ¬stock.Yields path earlier other

/-- What is reported of an installed file that is passed by because it cannot be read. -/
def warning? (stock : Stock) (path : Path) : Option LogRecord :=
  if stock.disk.isFile (stock.installedAt path) then
    match stock.disk.readText (stock.installedAt path) with
    | .error cause => some (unreadable (stock.installedAt path) cause)
    | .ok _ => none
  else
    none

/-! ## Places -/

variable {place place' : Place} {answer answer' : Except FileError Hit}

/-- What the search gets from a place. -/
def ask? (stock : Stock) (path : Path) : Place → Option (Except FileError Hit)
  | .file => onDisk? stock.disk path
  | .embedded => (embedded? stock.resources (stock.nameOf path)).map .ok
  | .installed =>
      (installed? stock.disk stock.paths.installDirectory (stock.nameOf path)).1.map .ok

theorem ask?_file_iff :
    stock.ask? path .file = some answer ↔ stock.Yields path .file answer := by
  simp only [ask?, onDisk?]
  constructor
  · intro found
    split at found
    next regular =>
        cases read : stock.disk.readText path with
        | ok text =>
            rw [read] at found
            cases found
            exact .file regular read
        | error cause =>
            rw [read] at found
            cases found
            exact .unreadable regular read
    next => cases found
  · intro yields
    cases yields with
    | file regular read => simp [regular, read, Except.map]
    | unreadable regular failed => simp [regular, failed, Except.map]

theorem ask?_embedded_iff :
    stock.ask? path .embedded = some answer ↔ stock.Yields path .embedded answer := by
  simp only [ask?, embedded?]
  constructor
  · intro found
    cases stored : stock.resources.get? (stock.nameOf path) with
    | none => simp [stored] at found
    | some text =>
        by_cases empty : text = "" <;> simp [stored, empty] at found
        rw [← found]
        exact .embedded stored empty
  · intro yields
    cases yields with
    | embedded stored nonempty => simp [stored, nonempty]

theorem ask?_installed_iff :
    stock.ask? path .installed = some answer ↔ stock.Yields path .installed answer := by
  simp only [ask?, installed?]
  constructor
  · intro found
    -- Where a copy would be installed, as the search writes it.
    generalize at_path : stock.paths.installDirectory.join (stock.nameOf path) = copy at found
    by_cases regular : stock.disk.isFile copy = true
    · cases read : stock.disk.readText copy with
      | error cause => simp [regular, read] at found
      | ok text =>
          by_cases empty : text = "" <;> simp [regular, read, empty] at found
          subst at_path
          rw [← found]
          exact .installed regular read empty
    · simp [regular] at found
  · intro yields
    cases yields with
    | installed regular read nonempty =>
        unfold installedAt at *
        simp [regular, read, nonempty]

/-- The search gets from a place what the place has. -/
theorem ask?_eq_some_iff :
    stock.ask? path place = some answer ↔ stock.Yields path place answer := by
  cases place with
  | file => exact ask?_file_iff
  | embedded => exact ask?_embedded_iff
  | installed => exact ask?_installed_iff

theorem ask?_eq_none_iff :
    stock.ask? path place = none ↔ ∀ answer, ¬stock.Yields path place answer := by
  rw [Option.eq_none_iff_forall_ne_some]
  exact forall_congr' fun answer => not_congr ask?_eq_some_iff

theorem Yields.unique (yields : stock.Yields path place answer)
    (yields' : stock.Yields path place answer') : answer = answer' := by
  apply Option.some.inj
  rw [← ask?_eq_some_iff.mpr yields, ask?_eq_some_iff.mpr yields']

theorem Place.eq_of_rank (same : place.rank = place'.rank) : place = place' := by
  cases place <;> cases place' <;> cases same <;> rfl

/-- Only one place decides. -/
theorem Decides.unique (decides : stock.Decides path place answer)
    (decides' : stock.Decides path place' answer') : place = place' ∧ answer = answer' := by
  rcases Nat.lt_trichotomy place.rank place'.rank with earlier | same | later
  · exact absurd decides.yields (decides'.first place answer earlier)
  · cases Place.eq_of_rank same
    exact ⟨rfl, decides.yields.unique decides'.yields⟩
  · exact absurd decides'.yields (decides.first place' answer' later)

/-- A place decides if the search gets something from it and nothing from those before it. -/
theorem decides_iff :
    stock.Decides path place answer ↔
      stock.ask? path place = some answer ∧
        ∀ earlier, earlier.rank < place.rank → stock.ask? path earlier = none := by
  constructor
  · intro decides
    refine ⟨ask?_eq_some_iff.mpr decides.yields, fun earlier before => ?_⟩
    exact ask?_eq_none_iff.mpr fun other => decides.first earlier other before
  · rintro ⟨found, before⟩
    refine ⟨ask?_eq_some_iff.mp found, fun earlier other sooner => ?_⟩
    exact ask?_eq_none_iff.mp (before earlier sooner) other

/-- If any place has something, one decides. -/
theorem decides_of_yields (yields : stock.Yields path place answer) :
    ∃ place answer, stock.Decides path place answer := by
  cases file : stock.ask? path .file with
  | some answer =>
      exact ⟨.file, answer, decides_iff.mpr ⟨file, fun earlier none => nomatch none⟩⟩
  | none =>
      cases embedded : stock.ask? path .embedded with
      | some answer =>
          refine ⟨.embedded, answer, decides_iff.mpr ⟨embedded, fun earlier before => ?_⟩⟩
          cases earlier with
          | file => exact file
          | embedded => exact absurd before (Nat.lt_irrefl _)
          | installed => exact absurd before (by decide)
      | none =>
          have found := ask?_eq_some_iff.mpr yields
          cases place with
          | file => cases file.symm.trans found
          | embedded => cases embedded.symm.trans found
          | installed =>
              refine ⟨.installed, answer, decides_iff.mpr ⟨found, fun earlier before => ?_⟩⟩
              cases earlier with
              | file => exact file
              | embedded => exact embedded
              | installed => exact absurd before (Nat.lt_irrefl _)

/-! ## The search -/

theorem installed?_report (stock : Stock) (path : Path) :
    (installed? stock.disk stock.paths.installDirectory (stock.nameOf path)).2 =
      stock.warning? path := by
  unfold warning? installed? installedAt
  dsimp only
  split
  · cases stock.disk.readText (stock.paths.installDirectory.join (stock.nameOf path)) <;> rfl
  · rfl

/-- What can be used cannot have been unreadable. -/
theorem warning?_of_yields (yields : stock.Yields path .installed answer) :
    stock.warning? path = none := by
  cases yields with
  | installed regular read nonempty => simp [warning?, regular, read]

/-- If neither the path itself nor the embedded texts have something, the installed file is
all that is left. -/
theorem locate_installed (file : stock.ask? path .file = none)
    (embedded : stock.ask? path .embedded = none) :
    locate stock.disk stock.resources stock.paths path =
      (.ok (installed? stock.disk stock.paths.installDirectory (stock.nameOf path)).1,
        stock.warning? path) := by
  have absent := Option.map_eq_none_iff.mp embedded
  rw [← installed?_report]
  simp only [ask?] at file
  simp only [nameOf] at absent ⊢
  unfold locate
  rw [file]
  dsimp only
  rw [absent]

/-- The search gives what the place has that decides, and reports nothing. -/
theorem locate_of_decides (decides : stock.Decides path place answer) :
    locate stock.disk stock.resources stock.paths path = (answer.map some, none) := by
  rcases decides_iff.mp decides with ⟨found, before⟩
  cases place with
  | file =>
      simp only [ask?] at found
      unfold locate
      rw [found]
      cases answer <;> rfl
  | embedded =>
      have file := before .file (by decide)
      rcases Option.map_eq_some_iff.mp found with ⟨hit, stored, rfl⟩
      simp only [ask?] at file
      simp only [nameOf] at stored
      unfold locate
      rw [file]
      dsimp only
      rw [stored]
      rfl
  | installed =>
      have file := before .file (by decide)
      have embedded := before .embedded (by decide)
      simp only [ask?] at found
      rcases Option.map_eq_some_iff.mp found with ⟨hit, there, rfl⟩
      rw [locate_installed file embedded, warning?_of_yields decides.yields, there]
      rfl

theorem locate_of_nowhere (nowhere : ∀ place answer, ¬stock.Yields path place answer) :
    locate stock.disk stock.resources stock.paths path = (.ok none, stock.warning? path) := by
  have nothing (place : Place) : stock.ask? path place = none := ask?_eq_none_iff.mpr (nowhere place)
  have file := nothing .file
  have embedded := nothing .embedded
  have installed := nothing .installed
  simp only [ask?, Option.map_eq_none_iff] at installed
  rw [locate_installed file embedded, installed]

/-! ## Later places -/

/-- Two stocks have the same in all places up to one, as far as a path is concerned. -/
structure SameUpTo (place : Place) (path : Path) (before after : Stock) : Prop where
  appRoot : after.paths.appRoot = before.paths.appRoot
  regular : after.disk.isFile path = before.disk.isFile path
  read : after.disk.readText path = before.disk.readText path
  embedded : place ≠ .file →
    after.resources.get? (before.nameOf path) = before.resources.get? (before.nameOf path)
  directory : place = .installed → after.paths.installDirectory = before.paths.installDirectory
  installed : place = .installed →
    after.disk.isFile (before.installedAt path) = before.disk.isFile (before.installedAt path) ∧
    after.disk.readText (before.installedAt path) = before.disk.readText (before.installedAt path)

theorem SameUpTo.nameOf (same : SameUpTo place path stock stock') :
    stock'.nameOf path = stock.nameOf path := by
  rw [Stock.nameOf, Stock.nameOf, same.appRoot]

/-- Places up to the last one that is the same have the same. -/
theorem SameUpTo.ask? (same : SameUpTo place path stock stock') {earlier : Place}
    (sooner : earlier.rank ≤ place.rank) : stock'.ask? path earlier = stock.ask? path earlier := by
  cases earlier with
  | file => simp only [Stock.ask?, onDisk?, same.regular, same.read]
  | embedded =>
      have stored := same.embedded fun first => by
        rw [first] at sooner
        exact absurd sooner (by decide)
      simp only [Stock.ask?, embedded?, same.nameOf, stored]
  | installed =>
      have last : place = .installed := by
        cases place
        case installed => rfl
        all_goals exact absurd sooner (by decide)
      rcases same.installed last with ⟨regular, read⟩
      unfold installedAt at regular read
      simp only [Stock.ask?, installed?, same.nameOf, same.directory last, regular, read]

/-- No place after the one that decides has any part in it. -/
theorem Decides.unaffected (decides : stock.Decides path place answer)
    (same : SameUpTo place path stock stock') : stock'.Decides path place answer := by
  rcases decides_iff.mp decides with ⟨found, before⟩
  refine decides_iff.mpr ⟨?_, fun earlier sooner => ?_⟩
  · rw [same.ask? (Nat.le_refl _), found]
  · rw [same.ask? (Nat.le_of_lt sooner), before earlier sooner]

end Stock

/-! ## Requires -/

/-- A specifier, with an alias written out. -/
def expanded (paths : ModulePaths) (specifier : String) : String :=
  (Specifier.expandAlias? specifier paths.appRoot).getD specifier

/-- The path that a specifier of a file module leads a requester to. -/
def fileAt (world : World σ) (paths : ModulePaths) (requester : Option Nat) (specifier : String) :
    Path :=
  (baseDirectory world paths requester).resolve (expanded paths specifier)

/-- Only aliases are written out. -/
theorem expanded_of_plain (paths : ModulePaths) {specifier : String}
    (plain : specifier.toList.head? ≠ some '@') : expanded paths specifier = specifier := by
  unfold expanded Specifier.expandAlias?
  split
  next => rfl
  next first name characters =>
    rw [characters] at plain
    have unmarked : first ≠ Specifier.aliasMarker := fun marked => plain (congrArg some marked)
    rw [if_neg unmarked]
    rfl

/-- What a require does with the answer of the place that decides. -/
def build (engine : Engine σ) (run : Script σ → Action σ Value) (loader : Nat)
    (path directory : Path) (kind : ModuleKind) : Except FileError Hit → Action σ (Option Nat)
  | .error cause => raise (.file cause)
  | .ok (text, origin) => some <$> instantiate engine run loader path directory kind origin text

theorem proceed_eq_build (engine : Engine σ) (run : Script σ → Action σ Value) (loader : Nat)
    (path directory : Path) (kind : ModuleKind) (answer : Except FileError Hit) :
    proceed engine run loader path ((answer.map some).map fun hit? => hit?.map fun hit =>
      ⟨directory, kind, hit.2, hit.1⟩) = build engine run loader path directory kind answer := by
  cases answer <;> rfl

variable {world : World σ} {loader : Nat} {state : ModuleLoader} {requester : Option Nat}
  {specifier : String} {kind : ModuleKind} {place : Place} {answer : Except FileError Hit}

theorem aim_of_file
    (file : ModuleKind.ofExtension? (Specifier.extension (expanded state.paths specifier)) = some kind) :
    (Demand.module requester specifier).aim world state =
      ⟨fileAt world state.paths requester specifier, some kind⟩ := by
  unfold expanded at file
  unfold Demand.aim Aim.ofSpecifier
  dsimp only
  rw [file]
  rfl

section Requires

variable (engine : Engine σ) (run : Script σ → Action σ Value)
  (present : world.loaders.get? loader = some state)
  (file : ModuleKind.ofExtension? (Specifier.extension (expanded state.paths specifier)) = some kind)
  (absent : state.lookup? (fileAt world state.paths requester specifier) = none)

include present file absent

/-- A require makes the module of what the place has that decides. -/
theorem require_of_decides
    (decides : (stockOf world state).Decides (fileAt world state.paths requester specifier) place
      answer) :
    require engine run loader requester specifier world =
      build engine run loader (fileAt world state.paths requester specifier)
        ((fileAt world state.paths requester specifier).parent?.getD state.paths.appRoot) kind answer
        (searched world loader (fileAt world state.paths requester specifier) none) := by
  have aimed : (Demand.module requester specifier).aim world state = _ := aim_of_file file
  have asked := (Demand.module requester specifier).ask_of_absent engine run present
    (by rw [aimed]; exact absent)
  have located := Stock.locate_of_decides decides
  rw [aimed] at asked
  simp only [Stock.find, located] at asked
  rw [proceed_eq_build] at asked
  exact asked

/-- If no place has anything, there is no module. -/
theorem require_of_nowhere
    (nowhere : ∀ place answer, ¬(stockOf world state).Yields
      (fileAt world state.paths requester specifier) place answer) :
    require engine run loader requester specifier world =
      (.ok none, searched world loader (fileAt world state.paths requester specifier)
        ((stockOf world state).warning? (fileAt world state.paths requester specifier))) := by
  have aimed : (Demand.module requester specifier).aim world state = _ := aim_of_file file
  have asked := (Demand.module requester specifier).ask_of_absent engine run present
    (by rw [aimed]; exact absent)
  have located := Stock.locate_of_nowhere nowhere
  rw [aimed] at asked
  simp only [Stock.find, located] at asked
  exact asked

end Requires

/-- A require of a file module that is not kept is made of what the first place has that has
something, in the order of the places, or it fails because that cannot be read.  If no place has
anything, it gives nothing.  Whatever the later places have, it is made of the same. -/
theorem file_modules_resolve_in_order (engine : Engine σ) (run : Script σ → Action σ Value)
    {path : Path} (aimed : fileAt world state.paths requester specifier = path)
    (present : world.loaders.get? loader = some state)
    (file : ModuleKind.ofExtension? (Specifier.extension (expanded state.paths specifier)) =
      some kind)
    (absent : state.lookup? path = none) :
    (∀ place answer, (stockOf world state).Decides path place answer →
      require engine run loader requester specifier world =
        build engine run loader path (path.parent?.getD state.paths.appRoot) kind answer
          (searched world loader path none)) ∧
    ((∀ place answer, ¬(stockOf world state).Yields path place answer) →
      require engine run loader requester specifier world =
        (.ok none, searched world loader path ((stockOf world state).warning? path))) ∧
    (∀ place answer, (stockOf world state).Yields path place answer →
      ∃ first supplied, (stockOf world state).Decides path first supplied ∧
        ∀ other supplied', (stockOf world state).Decides path other supplied' →
          other = first ∧ supplied' = supplied) ∧
    ∀ place answer (world' : World σ) (state' : ModuleLoader),
      (stockOf world state).Decides path place answer →
      world'.loaders.get? loader = some state' → world'.records = world.records →
      state'.cache = state.cache →
      (stockOf world state).SameUpTo place path (stockOf world' state') →
      require engine run loader requester specifier world' =
        build engine run loader path (path.parent?.getD state.paths.appRoot) kind answer
          (searched world' loader path none) := by
  subst aimed
  refine ⟨fun place answer => require_of_decides engine run present file absent,
    require_of_nowhere engine run present file absent, fun place answer yields => ?_, ?_⟩
  · rcases Stock.decides_of_yields yields with ⟨first, supplied, decides⟩
    exact ⟨first, supplied, decides, fun other supplied' decides' => decides'.unique decides⟩
  · intro place answer world' state' decides present' records cache same
    have root : state'.paths.appRoot = state.paths.appRoot := same.appRoot
    have expands : expanded state'.paths specifier = expanded state.paths specifier := by
      rw [expanded, expanded, root]
    have base : baseDirectory world' state'.paths requester =
        baseDirectory world state.paths requester := by
      rw [baseDirectory, baseDirectory, records, root]
    have there : fileAt world' state'.paths requester specifier =
        fileAt world state.paths requester specifier := by
      rw [fileAt, fileAt, base, expands]
    rw [← expands] at file
    rw [ModuleLoader.lookup?, ← cache, ← ModuleLoader.lookup?, ← there] at absent
    have decides' := decides.unaffected same
    rw [← there] at decides'
    have again := require_of_decides engine run present' file absent decides'
    rw [there, root] at again
    exact again

/-- An engine for which every text is a module that does nothing. -/
def idle : Engine Unit where
  compile _ _ := .ok fun _ => .done .null
  runScript _ _ := .done .null
  runModule _ _ := .done .null

/-- A session with a loader for a directory that has an empty file of a name that also has an
embedded text. -/
def layered : Session Unit where
  engine := idle
  script := .ask (.newLoader ⟨[("all.js", "embedded"), ("lib/only.js", "kept")]⟩
    ⟨⟨"/app"⟩, ⟨"/installed"⟩⟩) fun _ => .done .null
  fuel := 1
  input := []
  waitLimit := none
  offers := []
  disk := ⟨⟨[(["app"], .directory), (["app", "all.js"], .file (.bytes []))]⟩, some []⟩
  environment := .empty
  memory := ()

/-- The file is found, and it is empty. -/
theorem find_layered : layered.disk.find ⟨"/app/all.js"⟩ = .ok (.file (.bytes [])) := by
  have app : layered.disk.nodes.get? ["app"] = some .directory := rfl
  have all : layered.disk.nodes.get? ["app", "all.js"] = some (.file (.bytes [])) := rfl
  have fits : ¬Disk.maxName < "app".utf8ByteSize ∧ ¬Disk.maxName < "all.js".utf8ByteSize := by
    decide
  have followed : layered.disk.follow Disk.maxLinks [] ["", "app", "all.js"] =
      .ok (.file (.bytes [])) := by
    simp [Disk.follow, Disk.isSilent, app, all, fits]
  have names : Disk.names "/app/all.js" = ["", "app", "all.js"] := by decide +kernel
  have start : layered.disk.origin? ⟨"/app/all.js"⟩ = some [] := rfl
  unfold Disk.find
  rw [names, start, if_neg (by decide), if_neg (by decide), if_neg (by decide)]
  exact congrArg (Except.mapError FileError.system) followed

/-- A file that is empty is required, though the host has a text of its name. -/
theorem empty_file_is_required :
    ∃ state, (layered.world 9).loaders.get? 0 = some state ∧
      state.resources.get? "all.js" = some "embedded" ∧
      require idle (Script.exec idle 1) 0 none "all.js" (layered.world 9) =
        build idle (Script.exec idle 1) 0 ⟨"/app/all.js"⟩ ⟨"/app"⟩ .script
          (.ok ("", .filesystem ⟨"/app/all.js"⟩))
          (searched (layered.world 9) 0 ⟨"/app/all.js"⟩ none) := by
  have content : layered.disk.content ⟨"/app/all.js"⟩ = .ok (.bytes []) := by
    rw [Disk.content, find_layered]
  have read : layered.disk.readText ⟨"/app/all.js"⟩ = .ok "" := by
    rw [Disk.readText, content]
    decide
  have regular : layered.disk.isFile ⟨"/app/all.js"⟩ = true := by
    rw [Disk.isFile, find_layered]
  refine ⟨_, rfl, by decide +kernel, ?_⟩
  refine (file_modules_resolve_in_order idle (Script.exec idle 1) (by decide +kernel) rfl
    (by decide +kernel) (by decide +kernel)).1 .file _ ⟨.file regular read, ?_⟩
  exact fun earlier other before => absurd before (Nat.not_lt_zero _)

end ScriptHost.Modules
