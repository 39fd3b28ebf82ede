import ScriptHost.Error
import ScriptHost.Path
import ScriptHost.Table
import ScriptHost.Text.Utf8
import ScriptHost.Kernel.Basic

/-!
# Files

A file system that is kept in memory: directories, regular files and symbolic
links, each at the list of names that leads to it from the root.  A look-up goes
through a path name by name and follows links, at most forty of them.
-/

namespace ScriptHost

/-- What a regular file holds. -/
inductive FileContent where
  /-- Bytes. -/
  | bytes (content : Bytes)
  /-- A shared library: its symbols, each a registration that returns a payload
  with a level or nothing. -/
  | library (symbols : Table String (Option Int))

namespace Disk

/-- What is kept under a name. -/
inductive Node where
  | directory
  | file (content : FileContent)
  | link (target : String)

/-- What a look-up ends at. -/
inductive Found where
  /-- A directory, at the names that lead to it. -/
  | directory (place : List String)
  /-- A regular file. -/
  | file (content : FileContent)

end Disk

/-- A file system and the current directory of its user. -/
structure Disk where
  /-- The nodes below the root. -/
  nodes : Table (List String) Disk.Node
  /-- The names that lead to the current directory, unless that was removed.  A
  directory made later in its place is another one. -/
  current : Option (List String)

namespace Disk

/-- The empty file system, seen from its root. -/
def empty : Disk := ⟨Table.empty, some []⟩

instance : Inhabited Disk := ⟨empty⟩

/-- The runs between the slashes of a path. -/
def names (text : String) : List String :=
  (Text.pieces '/' text.toList).map String.ofList

/-- Names that lead nowhere. -/
def isSilent (name : String) : Bool :=
  name = "" || name = "."

/-- A name has at most this many bytes. -/
def maxName : Nat := 255

/-- A path has fewer bytes than this. -/
def maxPath : Nat := 4096

/-- A look-up follows at most this many links. -/
def maxLinks : Nat := 40

/-- Follow names from a directory. -/
def follow (disk : Disk) (links : Nat) (place : List String) : List String → Except Int Found
  | [] => .ok (.directory place)
  | name :: rest =>
      if isSilent name then disk.follow links place rest
      else if name = ".." then disk.follow links place.dropLast rest
      else if maxName < name.utf8ByteSize then .error Errno.nameTooLong
      else
        match disk.nodes.get? (place ++ [name]) with
        | none => .error Errno.noEntry
        | some .directory => disk.follow links (place ++ [name]) rest
        | some (.file content) =>
            if rest.isEmpty then .ok (.file content) else .error Errno.notDirectory
        | some (.link target) =>
            match links with
            | 0 => .error Errno.tooManyLinks
            | links + 1 =>
                if target = "" then .error Errno.noEntry
                else
                  disk.follow links (if (Path.mk target).isAbsolute then [] else place)
                    (names target ++ rest)
termination_by rest => (links, rest.length)

/-- Where a path starts: at the root, or in the current directory if that is
still there. -/
def origin? (disk : Disk) (path : Path) : Option (List String) :=
  if path.isAbsolute then some [] else disk.current

/-- What a path names. -/
def find (disk : Disk) (path : Path) : Except FileError Found :=
  if path.text.toList.contains (Char.ofNat 0) then .error .nulInPath
  else if path.text = "" then .error (.system Errno.noEntry)
  else if maxPath ≤ path.text.utf8ByteSize then .error (.system Errno.nameTooLong)
  else
    match disk.origin? path with
    | some place => (disk.follow maxLinks place (names path.text)).mapError .system
    | none => .error (.system Errno.noEntry)

/-- Whether a path names anything. -/
def has (disk : Disk) (path : Path) : Bool :=
  match disk.find path with
  | .ok _ => true
  | .error _ => false

/-- Whether a path names a regular file. -/
def isFile (disk : Disk) (path : Path) : Bool :=
  match disk.find path with
  | .ok (.file _) => true
  | _ => false

/-- The content of a regular file. -/
def content (disk : Disk) (path : Path) : Except FileError FileContent :=
  match disk.find path with
  | .ok (.file content) => .ok content
  | .ok (.directory _) => .error (.system Errno.isDirectory)
  | .error cause => .error cause

/-- The text of a regular file. -/
def readText (disk : Disk) (path : Path) : Except FileError String :=
  match disk.content path with
  | .ok (.bytes bytes) =>
      match String.fromUTF8? ⟨bytes.toArray⟩ with
      | some text => .ok text
      | none => .error .notText
  | .ok (.library _) => .error .notText
  | .error cause => .error cause

/-- The path of the current directory. -/
def currentPath (disk : Disk) : Except FileError Path :=
  match disk.current with
  | some place => .ok ⟨"/" ++ "/".intercalate place⟩
  | none => .error (.system Errno.noEntry)

/-! ## Changes -/

/-- Remove a place with everything below it. -/
def clear (disk : Disk) (gone : List String) : Disk :=
  { nodes := ⟨disk.nodes.entries.filter fun entry => !gone.isPrefixOf entry.1⟩
    current := disk.current.filter fun place => !gone.isPrefixOf place }

/-- Put a node at a place.  What was below a directory at that place is gone. -/
def place (disk : Disk) (place : List String) (node : Node) : Disk :=
  let disk :=
    match disk.nodes.get? place with
    | some .directory => disk.clear place
    | _ => disk
  { disk with nodes := disk.nodes.insert place node }

/-- Make a place a directory, if it is not one. -/
def ensureDirectory (disk : Disk) (place : List String) : Disk :=
  match place, disk.nodes.get? place with
  | [], _ | _, some .directory => disk
  | _, _ => { disk with nodes := disk.nodes.insert place .directory }

/-- The place that names lead to from a directory, when the directories on the
way are made and links are followed, also those that lead nowhere yet. -/
def reach (disk : Disk) (links : Nat) (place : List String) :
    List String → Option (List String × Disk)
  | [] => some (place, disk)
  | name :: rest =>
      if isSilent name then disk.reach links place rest
      else if name = ".." then disk.reach links place.dropLast rest
      else
        let here := place ++ [name]
        match disk.nodes.get? here with
        | some (.link target) =>
            match links with
            | 0 => none
            | links + 1 =>
                disk.reach links (if (Path.mk target).isAbsolute then [] else place)
                  (names target ++ rest)
        | _ =>
            if rest.all isSilent then some (here, disk)
            else (disk.ensureDirectory here).reach links here rest
termination_by rest => (links, rest.length)

/-- The last name of a list that is not silent, and the names before it. -/
def splitLast? (names : List String) : Option (List String × String) :=
  match (names.filter fun name => !isSilent name).reverse with
  | [] => none
  | last :: leading => some (leading.reverse, last)

/-- Put a link at a path and make the directories that lead to it. -/
def putLink (disk : Disk) (start : List String) (path : Path) (target : String) : Disk :=
  match splitLast? (names path.text) with
  | none => disk
  | some (leading, last) =>
      match disk.reach maxLinks start leading with
      | some (directory, disk) =>
          (disk.ensureDirectory directory).place (directory ++ [last]) (.link target)
      | none => disk

/-- Put a node at a path and make the directories that lead to it.  Files and
directories are put where links at the path lead to. -/
def put (disk : Disk) (path : Path) (node : Node) : Disk :=
  match disk.origin? path with
  | none => disk
  | some start =>
      match node with
      | .link target => disk.putLink start path target
      | .directory =>
          match disk.reach maxLinks start (names path.text) with
          | some (place, disk) => disk.ensureDirectory place
          | none => disk
      | .file _ =>
          match disk.reach maxLinks start (names path.text) with
          | some ([], disk) => disk
          | some (place, disk) => disk.place place node
          | none => disk

/-- The place of what a path names, not following a final link.  A path that ends
in a slash or a dot names a directory. -/
def locate? (disk : Disk) (path : Path) : Option (List String) := do
  let start ← disk.origin? path
  let names := names path.text
  let (leading, last) ← splitLast? names
  if last = ".." || (names.getLast?.any isSilent) then
    match disk.follow maxLinks start names with
    | .ok (.directory place) => some place
    | _ => none
  else
    match disk.follow maxLinks start leading with
    | .ok (.directory place) =>
        let place := place ++ [last]
        if disk.nodes.contains place then some place else none
    | _ => none

/-- Remove what is at a path with everything below it, not following a final
link; whether there was anything.  The root stays. -/
def remove (disk : Disk) (path : Path) : Bool × Disk :=
  match disk.locate? path with
  | none | some [] => (false, disk)
  | some gone => (true, disk.clear gone)

/-- Make a directory the current one; whether the path names one. -/
def enterDirectory (disk : Disk) (path : Path) : Bool × Disk :=
  match disk.find path with
  | .ok (.directory place) => (true, { disk with current := some place })
  | _ => (false, disk)

end Disk

end ScriptHost
