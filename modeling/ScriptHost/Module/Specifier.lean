import ScriptHost.Path

/-!
# Module specifiers

What a require names: the kind read off its extension, the library behind an
`@` alias, and the name under which an embedded or installed copy is kept.
-/

namespace ScriptHost

/-- What kind of payload a module holds. -/
inductive ModuleKind where
  | script
  | json
  | native
deriving DecidableEq, Repr

namespace ModuleKind

/-- The extension decides between scripts and data; native modules have none. -/
def ofExtension? : String → Option ModuleKind
  | "js" => some script
  | "json" => some json
  | _ => none

end ModuleKind

namespace Specifier

/-- The character that marks an alias. -/
def aliasMarker : Char := '@'

/-- The directory of library modules, below the application root. -/
def libraryDirectory : String := "lib"

/-- What follows the last dot; the whole specifier when it has none. -/
def extension (specifier : String) : String :=
  Text.lastPiece '.' specifier

/-- What follows the last slash; the whole specifier when it has none. -/
def baseName (specifier : String) : String :=
  Text.lastPiece '/' specifier

/-- `@name` stands for the script of that name in its own library directory. -/
def expandAlias? (specifier : String) (appRoot : Path) : Option String :=
  match specifier.toList with
  | [] => none
  | first :: name =>
      if first = aliasMarker then
        let name := String.ofList name
        some ((appRoot.join libraryDirectory).join name |>.join (baseName name ++ ".js")).text
      else none

/-- The proper names of a path below the application root, joined by slashes.
A path elsewhere keeps all its names. -/
def resourceName (path appRoot : Path) : String :=
  let below := (path.componentsBelow? appRoot).getD path.components
  String.ofList (Text.joined '/' (below.filterMap Component.name?))

/-- The entry under which the payload of a native module is embedded. -/
def nativeEntry (name : String) : String :=
  libraryDirectory ++ "/" ++ name ++ ".js"

end Specifier

end ScriptHost
