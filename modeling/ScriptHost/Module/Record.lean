import ScriptHost.Module.Specifier
import ScriptHost.Settings
import ScriptHost.Text.Quoted

/-!
# Module records

A record is one loaded module: where it came from, its source, and the
container of what it exports.  A loader keeps its records by path, and paths
with the same components are one key.
-/

namespace ScriptHost

/-- Where the source of a module came from. -/
inductive ModuleOrigin where
  /-- A file at the module's own path. -/
  | filesystem (path : Path)
  /-- A text embedded in the host. -/
  | embedded (name : String)
  /-- A file below the directory of installed modules. -/
  | installed (path : Path)
deriving DecidableEq, Repr

/-- A loaded module. -/
structure ModuleRecord where
  /-- The path that identifies it. -/
  path : Path
  /-- The directory that its own requires start from. -/
  directory : Path
  /-- What kind of payload it holds. -/
  kind : ModuleKind
  /-- Where its source came from. -/
  origin : ModuleOrigin
  /-- Its source. -/
  source : String
  /-- Whether its source has been compiled. -/
  isCompiled : Bool
  /-- The container of its exports. -/
  exports : Nat
deriving DecidableEq, Repr

namespace ModuleKind

/-- The name of the kind. -/
def text : ModuleKind → String
  | script => "Script"
  | json => "Json"
  | native => "Native"

end ModuleKind

namespace ModuleOrigin

/-- How an origin is shown to a developer. -/
def debugText : ModuleOrigin → String
  | filesystem path => "Filesystem(" ++ Text.quoted path.text ++ ")"
  | embedded name => "Embedded(" ++ Text.quoted name ++ ")"
  | installed path => "Installed(" ++ Text.quoted path.text ++ ")"

end ModuleOrigin

namespace ModuleRecord

/-- How a record is shown to a developer. -/
def debugText (record : ModuleRecord) : String :=
  "Module \x7b path: " ++ Text.quoted record.path.text
    ++ ", kind: " ++ record.kind.text
    ++ ", origin: " ++ record.origin.debugText
    ++ ", compiled: " ++ toString record.isCompiled ++ " \x7d"

end ModuleRecord

/-- The state of a module loader. -/
structure ModuleLoader where
  /-- The texts embedded in the host, by name. -/
  resources : Table String String
  /-- Where modules are looked for. -/
  paths : ModulePaths
  /-- The records, by the components of their paths. -/
  cache : Table (List Component) Nat

namespace ModuleLoader

/-- A loader that has loaded nothing. -/
def start (resources : Table String String) (paths : ModulePaths) : ModuleLoader :=
  ⟨resources, paths, .empty⟩

/-- The record kept for a path. -/
def lookup? (loader : ModuleLoader) (path : Path) : Option Nat :=
  loader.cache.get? path.components

/-- Keep a record for a path. -/
def keep (loader : ModuleLoader) (path : Path) (record : Nat) : ModuleLoader :=
  { loader with cache := loader.cache.insert path.components record }

/-- Forget the record of a path. -/
def evict (loader : ModuleLoader) (path : Path) : ModuleLoader :=
  { loader with cache := loader.cache.erase path.components }

end ModuleLoader

end ScriptHost
