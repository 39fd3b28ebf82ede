import ScriptHost.Text.Pieces

/-!
# Paths

A path is a text; what it names is decided by its components.  Repeated
slashes, a trailing slash and every `.` except a leading one of a relative
path say nothing, so two texts with the same components are the same path
(`Path.same`), and a path starts with another when its components do.

Joining and taking the parent work on the text.  `Path.normalize` removes the
dots lexically, without asking any file system.
-/

namespace ScriptHost

/-- One component of a path. -/
inductive Component where
  /-- The leading slash of an absolute path. -/
  | root
  /-- The leading `.` of a relative path. -/
  | here
  /-- A `..`. -/
  | up
  /-- Any other name. -/
  | name (text : List Char)
deriving DecidableEq, Repr

namespace Component

/-- The component as it is written. -/
def written : Component → List Char
  | root => ['/']
  | here => ['.']
  | up => ['.', '.']
  | name text => text

/-- A run between slashes names a component unless it is empty or a dot. -/
def ofPiece? : List Char → Option Component
  | [] => none
  | ['.'] => none
  | ['.', '.'] => some up
  | text => some (name text)

/-- The name of a proper name, and nothing for the other components. -/
def name? : Component → Option (List Char)
  | name text => some text
  | _ => none

/-- Root comes first, then `.`, then `..`, then the names. -/
def rank : Component → Nat
  | root => 0
  | here => 1
  | up => 2
  | name _ => 3

/-- Components are ordered by kind; names by their characters. -/
def compare (first second : Component) : Ordering :=
  match first, second with
  | name a, name b =>
      if a < b then .lt else if b < a then .gt else .eq
  | _, _ => Ord.compare first.rank second.rank

end Component

/-- A path, as written. -/
structure Path where
  /-- The characters of the path. -/
  text : String
deriving DecidableEq, Repr, Inhabited

namespace Path

/-- A path starts at the root when its first character is a slash. -/
def isAbsolute (path : Path) : Bool :=
  path.text.toList.head? = some '/'

/-- The components of a text. -/
def componentsOf (text : List Char) : List Component :=
  match text with
  | '/' :: rest => .root :: (Text.pieces '/' rest).filterMap Component.ofPiece?
  | _ =>
      match Text.pieces '/' text with
      | ['.'] :: rest => .here :: rest.filterMap Component.ofPiece?
      | all => all.filterMap Component.ofPiece?

/-- The components that decide what the path names. -/
def components (path : Path) : List Component :=
  componentsOf path.text.toList

/-- Two paths are the same when their components are. -/
def same (first second : Path) : Bool :=
  first.components = second.components

/-- Compare component lists like words in a dictionary. -/
def compareComponents : List Component → List Component → Ordering
  | [], [] => .eq
  | [], _ :: _ => .lt
  | _ :: _, [] => .gt
  | first :: restFirst, second :: restSecond =>
      (first.compare second).then (compareComponents restFirst restSecond)

/-- The order of paths is the order of their components. -/
def compare (first second : Path) : Ordering :=
  compareComponents first.components second.components

/-- Paths in order. -/
def sorted (paths : List Path) : List Path :=
  paths.mergeSort fun first second => first.compare second != .gt

/-- An absolute right side replaces the left; any other is appended after a
slash, which is left out where the left side is empty or already ends in one. -/
def joinText (base right : List Char) : List Char :=
  if right.head? = some '/' then
    right
  else if base = [] ∨ base.getLast? = some '/' then
    base ++ right
  else
    base ++ '/' :: right

/-- `base` followed by `right`. -/
def join (base : Path) (right : String) : Path :=
  ⟨String.ofList (joinText base.text.toList right.toList)⟩

/-- Drop what names no component from the front of a reversed body.  Below the
root a lone dot is such a part too; in a relative path it is the leading one. -/
def dropSilent (rooted : Bool) : List Char → List Char
  | '/' :: rest => dropSilent rooted rest
  | ['.'] => if rooted then [] else ['.']
  | '.' :: '/' :: rest => dropSilent rooted rest
  | body => body

/-- The reversed body without its last component, if it has one. -/
def dropLast? (rooted : Bool) (reversed : List Char) : Option (List Char) :=
  match dropSilent rooted reversed with
  | [] => none
  | body => some (dropSilent rooted (body.dropWhile (· ≠ '/')))

/-- The text without its last component; nothing for the root and the empty path. -/
def parentText? (text : List Char) : Option (List Char) :=
  match text with
  | '/' :: rest => (dropLast? true rest.reverse).map fun body => '/' :: body.reverse
  | _ => (dropLast? false text.reverse).map List.reverse

/-- The path without its last component; nothing for the root and the empty path. -/
def parent? (path : Path) : Option Path :=
  (parentText? path.text.toList).map fun text => ⟨String.ofList text⟩

/-- Apply one component to a path that is already free of dots.  `..` takes back
a name, stays where only `..` precede it, and is lost at the root. -/
def settle (text : List Char) : Component → List Char
  | .here => text
  | .up =>
      match (componentsOf text).getLast? with
      | some (.name _) => (parentText? text).getD text
      | some .root => text
      | _ => joinText text ['.', '.']
  | component => joinText text component.written

/-- The path with `.` and `..` resolved lexically. -/
def normalize (path : Path) : Path :=
  ⟨String.ofList (path.components.foldl settle [])⟩

/-- `specifier` seen from `base`, without dots. -/
def resolve (base : Path) (specifier : String) : Path :=
  (base.join specifier).normalize

/-- The components left after those of `base`, if `path` starts with them. -/
def componentsBelow? (path base : Path) : Option (List Component) :=
  if base.components.isPrefixOf path.components then
    some (path.components.drop base.components.length)
  else
    none

end Path

end ScriptHost
