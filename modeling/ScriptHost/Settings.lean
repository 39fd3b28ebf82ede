import ScriptHost.Disk
import ScriptHost.Toml.Document

/-!
# Settings

The optional settings file says how many events the loop takes at a time and
where modules are installed.  It is looked for in a directory and then in each
directory above it; the nearest one decides, even if it cannot be used.
-/

namespace ScriptHost

/-- The settings of a runtime. -/
structure Settings where
  /-- The number of events the loop takes at a time. -/
  loopCapacity : Nat
  /-- The directory of installed modules, if one is set. -/
  installDirectory : Option Path
deriving DecidableEq, Repr

namespace Settings

/-- The name of the settings file. -/
def fileName : String := "ember.toml"

/-- The settings that hold where nothing is said. -/
def default : Settings := ⟨128, none⟩

instance : Inhabited Settings := ⟨default⟩

/-- The field of a section: by its name in a table, at its place in an array.
A date has no fields.  Nothing else is a section. -/
def field? (section? : Option Toml.Node) (name : String) : Option (Option Toml.Node) :=
  match section? with
  | none => some none
  | some (.table _ entries) => some (Toml.node? name entries)
  | some (.array items) => some items.head?
  | some (.tables elements) => some elements.head?
  | some .dateTime => some none
  | some _ => none

/-- The settings that a document spells; sections and keys of other names are
passed over. -/
def ofToml? (entries : Toml.Entries) : Option Settings := do
  let capacity ←
    match ← field? (Toml.node? "runtime" entries) "loop_capacity" with
    | none => some default.loopCapacity
    | some (.integer n) => if 0 ≤ n then some n.toNat else none
    | some _ => none
  let directory ←
    match ← field? (Toml.node? "modules" entries) "install_dir" with
    | none => some none
    | some (.string text) => some (some (Path.mk text))
    | some _ => none
  some ⟨capacity, directory⟩

/-- The settings in a file. -/
def load (disk : Disk) (path : Path) : Except SettingsError Settings :=
  if !disk.has path then .error (.notFound path.text)
  else
    match disk.readText path with
    | .error cause => .error (.unreadable cause)
    | .ok text =>
        match (Toml.parse? text).bind ofToml? with
        | some settings => .ok settings
        | none => .error .malformed

/-- A path, its parent, the parent of that, and so on. -/
def lineage : Nat → Path → List Path
  | 0, path => [path]
  | fuel + 1, path =>
      match path.parent? with
      | some parent => path :: lineage fuel parent
      | none => [path]

/-- The directories in which the settings file is looked for. -/
def searched (start : Path) : List Path :=
  lineage start.text.length start

/-- The nearest settings file from a directory upwards, if there is any. -/
def nearest? (disk : Disk) (start : Path) : Option Path :=
  ((searched start).map fun directory => directory.join fileName).find? disk.has

/-- The settings that hold in a directory. -/
def find (disk : Disk) (start : Path) : Except SettingsError Settings :=
  match nearest? disk start with
  | some path => load disk path
  | none => .ok default

end Settings

/-- Where modules are looked for. -/
structure ModulePaths where
  /-- The directory that relative specifiers start from. -/
  appRoot : Path
  /-- The directory of installed modules. -/
  installDirectory : Path
deriving DecidableEq, Repr

namespace ModulePaths

/-- The variable that sets the directory of installed modules. -/
def targetVariable : String := "EMBER_TARGET"

/-- The name of the directory of installed modules where none is set. -/
def installName : String := ".ember"

/-- The value of a variable that is set and not empty. -/
def valueOf? (environment : Table String String) (name : String) : Option String :=
  (environment.get? name).filter fun value => value ≠ ""

/-- Installed modules are where a variable says, else where the settings say,
else below the home directory, else below the application. -/
def resolve (appRoot : Path) (environment : Table String String) (settings : Settings) :
    ModulePaths :=
  let directory :=
    match valueOf? environment targetVariable, settings.installDirectory,
        valueOf? environment "HOME" with
    | some target, _, _ => Path.mk target
    | none, some directory, _ => directory
    | none, none, some home => (Path.mk home).join installName
    | none, none, none => appRoot.join installName
  ⟨appRoot, directory⟩

end ModulePaths

end ScriptHost
