import ScriptHost.Journal
import ScriptHost.Module.Record

/-!
# Where the source of a file module comes from

The first of three places that has it: the file at the path itself, the
embedded text of its resource name, the file of that name below the directory
of installed modules.  A file at the path itself decides even if it is empty
or unreadable.  In the other two places an empty text counts as none, and an
unreadable installed file is only reported.
-/

namespace ScriptHost.ModuleSearch

/-- A source and where it was found. -/
abbrev Hit := String × ModuleOrigin

/-- The file at the path itself. -/
def onDisk? (disk : Disk) (path : Path) : Option (Except FileError Hit) :=
  if disk.isFile path then
    some ((disk.readText path).map fun text => (text, .filesystem path))
  else
    none

/-- The embedded text of a resource name. -/
def embedded? (resources : Table String String) (name : String) : Option Hit :=
  match resources.get? name with
  | some text => if text = "" then none else some (text, .embedded name)
  | none => none

/-- The log record for an installed file that cannot be read. -/
def unreadable (path : Path) (cause : FileError) : LogRecord :=
  { severity := .warning
    message := "unreadable installed module"
    fields := [("path", path.text), ("error", ((Error.file cause).message?).getD "")] }

/-- The installed file of a resource name, and what is to be reported. -/
def installed? (disk : Disk) (directory : Path) (name : String) :
    Option Hit × Option LogRecord :=
  let path := directory.join name
  if disk.isFile path then
    match disk.readText path with
    | .ok text => (if text = "" then none else some (text, .installed path), none)
    | .error cause => (none, some (unreadable path cause))
  else
    (none, none)

/-- The source for a path, and what is to be reported. -/
def locate (disk : Disk) (resources : Table String String) (paths : ModulePaths)
    (path : Path) : Except FileError (Option Hit) × Option LogRecord :=
  match onDisk? disk path with
  | some (.ok hit) => (.ok (some hit), none)
  | some (.error cause) => (.error cause, none)
  | none =>
      let name := Specifier.resourceName path paths.appRoot
      match embedded? resources name with
      | some hit => (.ok (some hit), none)
      | none =>
          let (hit?, report?) := installed? disk paths.installDirectory name
          (.ok hit?, report?)

end ScriptHost.ModuleSearch
