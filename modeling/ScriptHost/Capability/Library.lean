import ScriptHost.Capability.Basic
import ScriptHost.Disk

/-!
# Libraries

A library offers registration symbols; calling one gives a payload or nothing.
Libraries come from a table that the host supplies, or are opened by the
dynamic linker, or cannot be opened at all.
-/

namespace ScriptHost

/-- The symbols of a library: what each registration returns. -/
abbrev Symbols := Table String (Option Int)

/-- Where a registry looks for libraries. -/
inductive LibraryLoader where
  /-- In a table, by the exact text of the path. -/
  | table (libraries : Table String Symbols)
  /-- Nowhere. -/
  | unsupported
  /-- Through the dynamic linker. -/
  | linker

namespace LibraryLoader

/-- What the symbol of a capability's registration starts with. -/
def registerStem : String := "_register_"

/-- The symbol that registers a capability. -/
def registerSymbol (name : String) : String :=
  registerStem ++ name

/-- The file that is opened for a capability when no path is given. -/
def libraryFileName (name : String) : String :=
  name ++ ".so"

/-- Whether there is any use in opening a library. -/
def isSupported : LibraryLoader → Bool
  | unsupported => false
  | _ => true

/-- Where the loader looks. -/
def source : LibraryLoader → LibrarySource
  | table _ => .table
  | _ => .linker

/-- The symbols of the library that the linker opens at a path.  The empty path
is the program itself, which registers nothing.  A name without a slash is only
looked for in the directories of the system, where there are none. -/
def link? (disk : Disk) (path : Path) : Option Symbols :=
  if path.text = "" then some Table.empty
  else if !path.text.toList.contains '/' then none
  else
    match disk.content path with
    | .ok (.library symbols) => some symbols
    | _ => none

/-- Open a library. -/
def openLibrary (loader : LibraryLoader) (disk : Disk) (path : Path) :
    Except LibraryError Symbols :=
  match loader with
  | table libraries =>
      match libraries.get? path.text with
      | some symbols => .ok symbols
      | none => .error (.load path.text)
  | unsupported => .error (.unsupported path.text)
  | linker =>
      match link? disk path with
      | some symbols => .ok symbols
      | none => .error (.load ("Failed to load library '" ++ path.text ++ "'"))

/-- What the registration behind a symbol returns. -/
def findSymbol (source : LibrarySource) (symbols : Symbols) (symbol : String) :
    Except LibraryError (Option Int) :=
  if source = .linker ∧ symbol.toList.contains (Char.ofNat 0) then
    .error (.invalidSymbol ("Invalid symbol name: " ++ symbol))
  else
    match symbols.get? symbol with
    | some level => .ok level
    | none => .error (.symbolNotFound symbol)

end LibraryLoader

end ScriptHost
