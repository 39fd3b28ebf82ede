import Mathlib.Data.FinEnum
import Mathlib.Data.Set.Finite.List
import ScriptHost.Proofs.Modules.Bodies
import ScriptHost.Proofs.Modules.Traversal
import ScriptHost.Proofs.Paths.Normal

/-!
# The graph of a program

A program is a stock of sources with their bodies.  Its modules form a graph: an aim at
which there is a source leads to what the body of that source requires, seen from the
directory of the source.

Files are named by finitely many paths and there are finitely many embedded texts.  A
module that is found by its resource name says its names, but not where they start, so
`..` must not have been left in its path: seen from an absolute root, the graph has
finitely many keys.
-/

namespace ScriptHost

/-! ## Finitely many names -/

theorem finite_utf8ByteSize_lt (bound : Nat) :
    {text : String | text.utf8ByteSize < bound}.Finite := by
  refine Set.Finite.of_injOn (f := fun text => text.toByteArray.data.toList) ?_ ?_
    (List.finite_length_lt UInt8 bound)
  · intro text short
    exact short
  · intro first _ second _ same
    exact String.toByteArray_inj.mp (ByteArray.ext (Array.toList_inj.mp same))

namespace Disk

variable (disk : Disk)

theorem utf8ByteSize_lt_of_isFile {path : Path} (file : disk.isFile path = true) :
    path.text.utf8ByteSize < maxPath := by
  by_contra long
  unfold isFile find at file
  split at file
  next content found =>
    split at found
    · cases found
    · split at found
      · cases found
      · rw [if_pos (Nat.le_of_not_lt long)] at found
        cases found
  next => cases file

/-- Finitely many paths name regular files. -/
theorem finite_isFile : {path : Path | disk.isFile path = true}.Finite :=
  Set.Finite.of_injOn (f := Path.text) (fun _ file => disk.utf8ByteSize_lt_of_isFile file)
    (fun _ _ _ _ same => Path.mk.injEq _ _ ▸ same) (finite_utf8ByteSize_lt maxPath)

/-- Finitely many names name regular files below a directory. -/
theorem finite_isFile_join (directory : Path) :
    {name : String | disk.isFile (directory.join name) = true}.Finite := by
  refine (finite_utf8ByteSize_lt maxPath).subset fun name file => ?_
  refine Nat.lt_of_le_of_lt ?_ (disk.utf8ByteSize_lt_of_isFile file)
  obtain ⟨front, joined⟩ : ∃ front, (directory.join name).text =
      String.ofList front ++ name := by
    unfold Path.join Path.joinText
    split
    · exact ⟨[], by simp⟩
    · split
      · exact ⟨directory.text.toList, by simp [String.ofList_append]⟩
      · refine ⟨directory.text.toList ++ ['/'], ?_⟩
        rw [← String.ofList_toList (s := name), ← String.ofList_append]
        simp
  rw [joined, String.utf8ByteSize_append]
  exact Nat.le_add_left _ _

end Disk

/-! ## Resource names -/

namespace Specifier

open ScriptHost.Path in
/-- A resource name says the names of the path, or those below the application root. -/
theorem names_of_resourceName {names : List (List Char)} (proper : ∀ name ∈ names, IsProper name)
    {path : Path} (rooted : path.components = .root :: names.map .name) (appRoot : Path) :
    ∃ below, (∀ name ∈ below, IsProper name) ∧
      resourceName path appRoot = String.ofList (Text.joined '/' below) ∧
      (path.components = appRoot.components ++ below.map .name ∨
        path.components = .root :: below.map .name) := by
  have read (names : List (List Char)) :
      (names.map Component.name).filterMap Component.name? = names := by
    rw [List.filterMap_map]
    exact List.filterMap_some
  have whole : (path.components).filterMap Component.name? = names := by
    rw [rooted]
    exact read names
  unfold resourceName componentsBelow?
  dsimp only
  by_cases below : appRoot.components.isPrefixOf path.components = true
  · obtain ⟨rest, split⟩ := List.isPrefixOf_iff_prefix.mp below
    rw [if_pos below, Option.getD_some, ← split, List.drop_left]
    cases root : appRoot.components with
    | nil =>
        rw [root, List.nil_append] at split
        rw [split, whole]
        exact ⟨names, proper, rfl, .inr rooted⟩
    | cons first more =>
        rw [root, rooted, List.cons_append, List.cons.injEq] at split
        obtain ⟨front, back, rfl, rfl, rfl⟩ := List.map_eq_append_iff.mp split.2.symm
        rw [read]
        exact ⟨back, fun name member => proper name (List.mem_append_right _ member), rfl, .inl rfl⟩
  · rw [if_neg below, Option.getD_none, whole]
    exact ⟨names, proper, rfl, .inr rooted⟩

end Specifier

namespace ModuleSearch

/-- A source is a file, an embedded text or an installed file. -/
theorem places_of_locate {disk : Disk} {resources : Table String String} {paths : ModulePaths}
    {path : Path} {hit : Hit}
    (found : (locate disk resources paths path).1 = .ok (some hit)) :
    disk.isFile path = true ∨
      Specifier.resourceName path paths.appRoot ∈ resources.keys ∨
      disk.isFile (paths.installDirectory.join (Specifier.resourceName path paths.appRoot)) =
        true := by
  by_cases file : disk.isFile path = true
  · exact .inl file
  · by_cases installed : disk.isFile
        (paths.installDirectory.join (Specifier.resourceName path paths.appRoot)) = true
    · exact .inr (.inr installed)
    · refine .inr (.inl ((Table.mem_keys_iff _ _).mpr ?_))
      cases kept : resources.get? (Specifier.resourceName path paths.appRoot) with
      | some text => exact ⟨text, rfl⟩
      | none => simp [locate, onDisk?, embedded?, installed?, file, installed, kept] at found

end ModuleSearch

namespace Modules

/-- The keys of modules that are found by a name: native ones, and those below the
application root or the root. -/
def keysNamed (appRoot : Path) (name : String) : List (List Component) :=
  let names := (Text.pieces '/' name.toList).map Component.name
  [(Path.mk name).components, appRoot.components, [.root], appRoot.components ++ names,
    .root :: names]

theorem key_mem_keysNamed {names : List (List Char)}
    (proper : ∀ name ∈ names, Path.IsProper name) {path : Path}
    (rooted : path.components = .root :: names.map .name) (appRoot : Path) :
    path.components ∈ keysNamed appRoot (Specifier.resourceName path appRoot) := by
  obtain ⟨below, belowProper, named, starts⟩ :=
    Specifier.names_of_resourceName proper rooted appRoot
  rw [named, keysNamed, String.toList_ofList]
  by_cases none : below = []
  · rw [none] at starts
    rcases starts with starts | starts <;> simp [starts]
  · rw [Text.pieces_joined none fun name member => (belowProper name member).noSlash]
    rcases starts with starts | starts <;> simp [starts]

variable {σ : Type}

/-! ## Programs -/

/-- Sources, with the bodies that the engine makes of them. -/
structure Program where
  /-- Where sources come from. -/
  stock : Stock
  /-- Their bodies. -/
  bodies : Bodies

namespace Program

variable (program : Program)

/-- The body of the module that a source makes at a path.  Data has none, and neither has
what cannot be compiled. -/
def bodyOf (path : Path) (source : Source) : Body :=
  match source.kind with
  | .json => []
  | .script | .native => (program.bodies source.text path.text).toOption.getD []

/-- The aims of the module at an aim, if there is one. -/
def next? (aim : Aim) : Option (List Aim) :=
  match (program.stock.find aim).1 with
  | .ok (some source) =>
      some ((program.bodyOf aim.path source).aims program.stock.paths source.directory)
  | .ok none | .error _ => none

/-- The keys of the modules that there are among those to which an aim leads. -/
def resolvable (root : Aim) : Set (List Component) :=
  {key | ∃ aim children, Relation.ReflTransGen (Leads Aim.key program.next? ∅) root aim ∧
    aim.key = key ∧ program.next? aim = some children}

/-- The engine that runs the program, and other scripts as another engine does. -/
def engine (others : Engine σ) : Engine σ :=
  program.bodies.engine others

variable {program}

theorem next?_of_found {aim : Aim} {source : Source}
    (found : (program.stock.find aim).1 = .ok (some source)) :
    program.next? aim =
      some ((program.bodyOf aim.path source).aims program.stock.paths source.directory) := by
  rw [next?, found]

theorem resolvable_self {aim : Aim} {children : List Aim}
    (leads : program.next? aim = some children) : aim.key ∈ program.resolvable aim :=
  ⟨aim, children, .refl, rfl, leads⟩

theorem resolvable_child {aim child : Aim} {children : List Aim}
    (leads : program.next? aim = some children) (among : child ∈ children) :
    program.resolvable child ⊆ program.resolvable aim := by
  rintro key ⟨last, leaves, path, same, goes⟩
  exact ⟨last, leaves, .head ⟨Set.notMem_empty _, children, leads, among⟩ path, same, goes⟩

end Program

/-! ## Finitely many keys -/

/-- Whether an aim names its module by an absolute path, if it is a file. -/
def Aim.IsAbsolute (aim : Aim) : Prop :=
  aim.kind?.isSome = true → aim.path.isAbsolute = true

/-- An aim at a file has an absolute path without dots. -/
def Aim.IsRooted (aim : Aim) : Prop :=
  aim.kind?.isSome = true → ∃ names, (∀ name ∈ names, Path.IsProper name) ∧
    aim.path = ⟨String.ofList (Path.rooted names)⟩

theorem Aim.IsRooted.isAbsolute {aim : Aim} (rooted : aim.IsRooted) : aim.IsAbsolute := by
  intro file
  obtain ⟨names, -, same⟩ := rooted file
  rw [same]
  exact Path.isAbsolute_rooted names

/-- What is required from an absolute directory. -/
theorem Want.isRooted_aim {directory : Path} (absolute : directory.isAbsolute = true)
    (paths : ModulePaths) (want : Want) : (want.aim paths directory).IsRooted := by
  cases want with
  | native name => exact fun impossible => nomatch impossible
  | module specifier =>
      unfold Want.aim Aim.ofSpecifier Aim.IsRooted
      dsimp only
      split
      next kind _ => exact fun _ => Path.resolve_of_isAbsolute absolute _
      next => exact fun impossible => nomatch impossible

namespace Stock

variable {stock : Stock} {aim : Aim} {source : Source}

private theorem found_of_map {α : Type} {answer : Except FileError (Option α)} {f : α → Source}
    (found : (answer.map fun hit? => hit?.map f) = .ok (some source)) :
    ∃ hit, answer = .ok (some hit) ∧ f hit = source := by
  rcases answer with cause | _ | hit
  · cases found
  · cases found
  · exact ⟨hit, rfl, Option.some.inj (Except.ok.inj found)⟩

/-- A module that is found at an absolute path starts its own requires from one. -/
theorem isAbsolute_directory (root : stock.paths.appRoot.isAbsolute = true)
    (absolute : aim.IsAbsolute) (found : (stock.find aim).1 = .ok (some source)) :
    source.directory.isAbsolute = true := by
  unfold find at found
  split at found
  next =>
    obtain ⟨text, -, rfl⟩ := Option.map_eq_some_iff.mp (Except.ok.inj found)
    exact root
  next kind ofKind =>
    have path := absolute (ofKind ▸ rfl)
    obtain ⟨hit, -, rfl⟩ := found_of_map found
    change (aim.path.parent?.getD stock.paths.appRoot).isAbsolute = true
    cases parent : aim.path.parent? with
    | none => exact root
    | some parent' => exact Path.isAbsolute_parent? path parent

/-- The keys under which files or embedded texts may be found. -/
def keys (stock : Stock) : Set (List Component) :=
  Path.components '' {path | stock.disk.isFile path = true} ∪
    ⋃ name ∈ {name | name ∈ stock.resources.keys} ∪
      {name | stock.disk.isFile (stock.paths.installDirectory.join name) = true},
      {key | key ∈ keysNamed stock.paths.appRoot name}

theorem finite_keys (stock : Stock) : stock.keys.Finite := by
  refine (stock.disk.finite_isFile.image _).union (Set.Finite.biUnion ?_ ?_)
  · exact stock.resources.keys.finite_toSet.union (stock.disk.finite_isFile_join _)
  · exact fun name _ => (keysNamed stock.paths.appRoot name).finite_toSet

/-- Where there is a module, its key is among them. -/
theorem key_mem_keys (rooted : aim.IsRooted) (found : (stock.find aim).1 = .ok (some source)) :
    aim.key ∈ stock.keys := by
  unfold find at found
  split at found
  next =>
    obtain ⟨text, kept, -⟩ := Option.map_eq_some_iff.mp (Except.ok.inj found)
    refine .inr (Set.mem_biUnion (.inl ((Table.mem_keys_iff _ _).mpr ⟨text, kept⟩)) ?_)
    exact List.mem_cons_self
  next kind ofKind =>
    obtain ⟨names, proper, same⟩ := rooted (ofKind ▸ rfl)
    have components : aim.path.components = .root :: names.map .name := by
      rw [same, Path.components, String.toList_ofList]
      exact Path.componentsOf_rooted proper
    have named := key_mem_keysNamed proper components stock.paths.appRoot
    obtain ⟨hit, located, -⟩ := found_of_map found
    rcases ModuleSearch.places_of_locate located with file | embedded | installed
    · exact .inl ⟨aim.path, file, rfl⟩
    · exact .inr (Set.mem_biUnion (.inl embedded) named)
    · exact .inr (Set.mem_biUnion (.inr installed) named)

end Stock

namespace Program

variable {program : Program}

/-- What leads on is a source. -/
theorem found_of_next? {aim : Aim} {children : List Aim}
    (leads : program.next? aim = some children) : ∃ source,
      (program.stock.find aim).1 = .ok (some source) ∧
        (program.bodyOf aim.path source).aims program.stock.paths source.directory = children := by
  unfold next? at leads
  split at leads
  next source found => exact ⟨source, found, Option.some.inj leads⟩
  next => cases leads
  next => cases leads

/-- A module at an absolute path leads to absolute paths without dots. -/
theorem isRooted_of_leads (root : program.stock.paths.appRoot.isAbsolute = true)
    {aim child : Aim} {children : List Aim} (absolute : aim.IsAbsolute)
    (leads : program.next? aim = some children) (among : child ∈ children) : child.IsRooted := by
  obtain ⟨source, found, rfl⟩ := found_of_next? leads
  have directory := Stock.isAbsolute_directory root absolute found
  obtain ⟨step, -, aimed⟩ := List.mem_filterMap.mp among
  cases step with
  | require want ignores =>
      rw [← Option.some.inj aimed]
      exact want.isRooted_aim directory program.stock.paths
  | write member value => cases aimed
  | throw error => cases aimed

/-- Seen from an absolute path below an absolute root, the modules of a program have
finitely many keys. -/
theorem finite_resolvable (root : program.stock.paths.appRoot.isAbsolute = true) {aim : Aim}
    (absolute : aim.IsAbsolute) : (program.resolvable aim).Finite := by
  refine (program.stock.finite_keys.insert aim.key).subset ?_
  rintro key ⟨last, children, path, rfl, leads⟩
  -- On the way, all aims but the first are at paths without dots.
  have settled : last = aim ∨ last.IsRooted := by
    clear leads
    induction path with
    | refl => exact .inl rfl
    | tail _ step ih =>
        obtain ⟨-, children, leads, among⟩ := step
        have known : Aim.IsAbsolute _ := ih.elim (fun same => same ▸ absolute) Aim.IsRooted.isAbsolute
        exact .inr (isRooted_of_leads root known leads among)
  rcases settled with rfl | rooted
  · exact Set.mem_insert _ _
  · obtain ⟨source, found, -⟩ := found_of_next? leads
    exact Set.mem_insert_of_mem _ (Stock.key_mem_keys rooted found)

end Program

end Modules

end ScriptHost
