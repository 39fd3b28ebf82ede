import ScriptHost.Module.Search
import ScriptHost.Proofs.Paths.Resolving

/-!
# Resource names

The name of a resource says the proper names of its path below the application root, with
slashes between them.  What is below the root is found again by its name, so no two modules
there share one.  Whatever the path, a name leads nowhere but down: joined to a directory, it
adds proper names to the components of that directory.
-/

namespace ScriptHost

namespace Path

/-! ## Joining below any directory -/

variable {text right : List Char} {names : List (List Char)}

/-- The components of a relative text are its parts, after the dot that it may start with. -/
theorem componentsOf_relative (relative : text.head? ≠ some '/') :
    componentsOf text =
      (if (Text.pieces '/' text).head? = some ['.'] then [.here] else []) ++ parts text := by
  unfold componentsOf parts
  split
  next => exact absurd rfl relative
  next =>
    split
    next rest cut =>
      rw [cut]
      rfl
    next other =>
      have dotless : (Text.pieces '/' text).head? ≠ some ['.'] := by
        intro dot
        rcases List.head?_eq_some_iff.mp dot with ⟨rest, cut⟩
        exact other rest cut
      rw [if_neg dotless, List.nil_append]

/-- Text that is appended after a slash brings its parts. -/
theorem componentsOf_append_parts (nonempty : text ≠ []) (right : List Char) :
    componentsOf (text ++ '/' :: right) = componentsOf text ++ parts right := by
  by_cases absolute : text.head? = some '/'
  · rcases List.head?_eq_some_iff.mp absolute with ⟨rest, rfl⟩
    exact componentsOf_append_slash rest right
  · have starts : (text ++ '/' :: right).head? = text.head? := List.head?_append_of_ne_nil _ nonempty
    have first : (Text.pieces '/' (text ++ '/' :: right)).head? = (Text.pieces '/' text).head? := by
      rw [Text.pieces_append_cons]
      exact List.head?_append_of_ne_nil _ (Text.pieces_ne_nil '/' text)
    rw [componentsOf_relative (starts ▸ absolute), componentsOf_relative absolute, first,
      parts_append_slash, List.append_assoc]

/-- Relative text that is joined brings its parts. -/
theorem componentsOf_joinText_parts (nonempty : text ≠ []) (relative : right.head? ≠ some '/') :
    componentsOf (joinText text right) = componentsOf text ++ parts right := by
  unfold joinText
  rw [if_neg relative]
  split
  next ends =>
    rcases List.getLast?_eq_some_iff.mp (ends.resolve_left nonempty) with ⟨init, rfl⟩
    by_cases alone : init = []
    · rw [alone]
      rfl
    · have silent : componentsOf (init ++ ['/']) = componentsOf init :=
        (componentsOf_append_parts alone []).trans (List.append_nil _)
      rw [silent, List.append_assoc, List.singleton_append, componentsOf_append_parts alone]
  next => exact componentsOf_append_parts nonempty right

theorem isSolid_of_proper (proper : ∀ name ∈ names, IsProper name) :
    ∀ name ∈ names, IsSolid name :=
  fun name member => (proper name member).isSolid

theorem filterMap_ofPiece? (proper : ∀ name ∈ names, IsProper name) :
    names.filterMap Component.ofPiece? = names.map .name := by
  rw [← List.filterMap_eq_map]
  exact List.filterMap_congr fun name member => (proper name member).ofPiece?

theorem head?_joined (proper : ∀ name ∈ names, IsProper name) :
    (Text.joined '/' names).head? ≠ some '/' := by
  intro slash
  have read := componentsOf_joined (isSolid_of_proper proper)
  rcases List.head?_eq_some_iff.mp slash with ⟨rest, starts⟩
  rw [filterMap_ofPiece? proper, starts, componentsOf_slash] at read
  have among : Component.root ∈ names.map Component.name := read ▸ List.mem_cons_self
  simp at among

/-- Proper names that are joined go behind the components of the directory. -/
theorem componentsOf_joinText_names (proper : ∀ name ∈ names, IsProper name) (text : List Char) :
    componentsOf (joinText text (Text.joined '/' names)) =
      componentsOf text ++ names.map .name := by
  have solid := isSolid_of_proper proper
  have relative := head?_joined proper
  by_cases empty : text = []
  · rw [empty, joinText, if_neg relative, if_pos (.inl rfl), List.nil_append,
      componentsOf_joined solid, filterMap_ofPiece? proper]
    rfl
  · rw [componentsOf_joinText_parts empty relative]
    by_cases none : names = []
    · rw [none]
      rfl
    · rw [parts, Text.pieces_joined none fun name member => (proper name member).noSlash,
        filterMap_ofPiece? proper]

/-! ## Normal paths -/

/-- A path that is the same without its dots. -/
def IsNormal (path : Path) : Prop :=
  path.normalize.same path = true

/-- A path whose components start with those of another. -/
def IsWithin (path base : Path) : Prop :=
  base.components <+: path.components

variable {path base root : Path}

theorem IsNormal.components (normal : path.IsNormal) :
    path.normalize.components = path.components :=
  of_decide_eq_true normal

/-- Paths with the same components are the same without their dots. -/
theorem normalize_congr {other : Path} (same : path.components = other.components) :
    path.normalize = other.normalize := by
  rw [normalize, normalize, same]

/-- The components of a normal absolute path are the root and proper names. -/
theorem IsNormal.exists_names (normal : path.IsNormal) (absolute : path.isAbsolute = true) :
    ∃ names : List (List Char), path.components = .root :: names.map .name ∧
      ∀ name ∈ names, IsProper name := by
  rcases normalize_of_isAbsolute absolute with ⟨written, proper⟩
  refine ⟨_, normal.components.symm.trans ?_, proper⟩
  rw [Path.components, written, String.toList_ofList, componentsOf_rooted proper]

end Path

/-! ## Names below a root -/

namespace Specifier

open ScriptHost.Path

variable {path root directory : Path}

/-- The names that a resource name says. -/
def namesBelow (path root : Path) : List (List Char) :=
  ((path.componentsBelow? root).getD path.components).filterMap Component.name?

/-- The runs of a name between its slashes.  The empty name has none. -/
def segments (name : String) : List (List Char) :=
  if name = "" then [] else Text.pieces '/' name.toList

theorem isProper_of_mem_namesBelow {name : List Char} (member : name ∈ namesBelow path root) :
    IsProper name := by
  rcases List.mem_filterMap.mp member with ⟨component, among, named⟩
  have here : component ∈ path.components := by
    unfold componentsBelow? at among
    split at among
    · exact List.mem_of_mem_drop among
    · exact among
  cases component with
  | name text =>
      cases named
      exact isProper_of_mem here
  | root | here | up => cases named

theorem resourceName_eq (path root : Path) :
    resourceName path root = String.ofList (Text.joined '/' (namesBelow path root)) :=
  rfl

/-- The segments of a resource name are the names that it says. -/
theorem segments_resourceName (path root : Path) :
    segments (resourceName path root) = namesBelow path root := by
  have proper : ∀ name ∈ namesBelow path root, IsProper name :=
    fun _ => isProper_of_mem_namesBelow
  rw [segments, resourceName_eq]
  by_cases none : namesBelow path root = []
  · rw [none]
    rfl
  · have filled : String.ofList (Text.joined '/' (namesBelow path root)) ≠ "" := by
      intro empty
      have nothing := congrArg String.toList empty
      rw [String.toList_ofList] at nothing
      exact none (joined_eq_nil (isSolid_of_proper proper) nothing)
    rw [if_neg filled, String.toList_ofList,
      Text.pieces_joined none fun name member => (proper name member).noSlash]

/-- Joined to any directory, a resource name adds what it says to the components. -/
theorem components_join_resourceName (directory path root : Path) :
    (directory.join (resourceName path root)).components =
      directory.components ++ (namesBelow path root).map .name := by
  rw [resourceName_eq, join, components, String.toList_ofList, String.toList_ofList]
  exact componentsOf_joinText_names (fun _ => isProper_of_mem_namesBelow) _

theorem namesBelow_of_append {rest : List Component}
    (split : root.components ++ rest = path.components) :
    namesBelow path root = rest.filterMap Component.name? := by
  have starts : root.components.isPrefixOf path.components = true :=
    List.isPrefixOf_iff_prefix.mpr ⟨rest, split⟩
  rw [namesBelow, componentsBelow?, if_pos starts, Option.getD_some, ← split, List.drop_left]

/-- Joined to the root, the name of a module below it leads to the module. -/
theorem components_join_of_isWithin (absolute : root.isAbsolute = true) (normal : path.IsNormal)
    (within : path.IsWithin root) :
    (root.join (resourceName path root)).components = path.components := by
  rcases within with ⟨rest, split⟩
  rcases components_of_isAbsolute absolute with ⟨above, starts⟩
  have rooted : Component.root ∈ path.resolved := by
    rw [← components_normalize, normal.components, ← split, starts]
    exact List.mem_cons_self
  rcases normal.exists_names ((root_mem_resolved_iff path).mp rooted) with ⟨names, whole, -⟩
  -- what is behind the root is made of names, so the name leaves none of it out
  have behind : above ++ rest = names.map .name := by
    rw [starts, whole, List.cons_append] at split
    exact (List.cons.inj split).2
  rcases List.map_eq_append_iff.mp behind.symm with ⟨-, below, -, -, rfl⟩
  have read : (below.map Component.name).filterMap Component.name? = below := by
    rw [List.filterMap_map]
    exact List.filterMap_some
  rw [components_join_resourceName, namesBelow_of_append split, read, split]

theorem resolve_of_isWithin (absolute : root.isAbsolute = true) (normal : path.IsNormal)
    (within : path.IsWithin root) : root.resolve (resourceName path root) = path.normalize :=
  normalize_congr (components_join_of_isWithin absolute normal within)

end Specifier

namespace ModuleSearch

open ScriptHost.Path

/-- What is located depends on the file at the path itself and on those below the directory of
installed modules. -/
theorem locate_congr {disk other : Disk} {paths : ModulePaths} {path : Path}
    (resources : Table String String)
    (agree : ∀ file : Path, file = path ∨ file.IsWithin paths.installDirectory →
      disk.isFile file = other.isFile file ∧ disk.readText file = other.readText file) :
    locate disk resources paths path = locate other resources paths path := by
  have within : (paths.installDirectory.join
      (Specifier.resourceName path paths.appRoot)).IsWithin paths.installDirectory :=
    ⟨_, (Specifier.components_join_resourceName paths.installDirectory path paths.appRoot).symm⟩
  rcases agree path (.inl rfl) with ⟨isFile, readText⟩
  rcases agree _ (.inr within) with ⟨isFile', readText'⟩
  unfold locate onDisk? installed?
  dsimp only
  rw [isFile, readText, isFile', readText']

end ModuleSearch

namespace Specifier

open ScriptHost.Path

/-- Resource names are faithful and contained.  Below an absolute root, a normal path is found
again by its name, so no two modules there have the same.  The name of any path does not start
with a slash, and its segments are proper names.  Joined to any directory, it leads to a path
within the directory.  So what is located for a path depends on no file but the one at the path
itself and those within the directory of installed modules. -/
theorem resource_names_are_contained :
    (∀ root path : Path, root.isAbsolute = true → path.IsNormal → path.IsWithin root →
      root.resolve (resourceName path root) = path.normalize ∧
      ∀ other : Path, other.IsNormal → other.IsWithin root →
        resourceName other root = resourceName path root → other.same path = true) ∧
    (∀ root path : Path, (resourceName path root).toList.head? ≠ some '/' ∧
      (∀ segment ∈ segments (resourceName path root), IsProper segment) ∧
      ∀ directory : Path, (directory.join (resourceName path root)).IsWithin directory) ∧
    ∀ (disk other : Disk) (resources : Table String String) (paths : ModulePaths) (path : Path),
      (∀ file : Path, file = path ∨ file.IsWithin paths.installDirectory →
        disk.isFile file = other.isFile file ∧ disk.readText file = other.readText file) →
      ModuleSearch.locate disk resources paths path =
        ModuleSearch.locate other resources paths path := by
  refine ⟨?_, ?_, fun disk other resources paths path => ModuleSearch.locate_congr resources⟩
  · intro root path absolute normal within
    refine ⟨resolve_of_isWithin absolute normal within, fun other normal' within' same => ?_⟩
    refine decide_eq_true ?_
    rw [← components_join_of_isWithin absolute normal' within', same,
      components_join_of_isWithin absolute normal within]
  · intro root path
    have proper : ∀ name ∈ namesBelow path root, IsProper name := fun _ => isProper_of_mem_namesBelow
    refine ⟨?_, ?_, fun directory => ?_⟩
    · rw [resourceName_eq, String.toList_ofList]
      exact head?_joined proper
    · rw [segments_resourceName]
      exact proper
    · exact ⟨_, (components_join_resourceName directory path root).symm⟩

/-- A module of the library is found by its name.  What climbs out of the root is looked for within
the installed modules all the same. -/
theorem climbing_name_stays_within :
    Path.resolve ⟨"/app"⟩ (resourceName ⟨"/app/lib/x.js"⟩ ⟨"/app"⟩) = ⟨"/app/lib/x.js"⟩ ∧
      resourceName ⟨"/app/lib/x.js"⟩ ⟨"/app"⟩ = "lib/x.js" ∧
      (Path.join ⟨"/mods"⟩ (resourceName ⟨"/app/../../etc//./x.js"⟩ ⟨"/app"⟩)).IsWithin ⟨"/mods"⟩ ∧
      resourceName ⟨"/app/../../etc//./x.js"⟩ ⟨"/app"⟩ = "etc/x.js" := by
  have still : (⟨"/app/lib/x.js"⟩ : Path).normalize = ⟨"/app/lib/x.js"⟩ := by decide +kernel
  have normal : Path.IsNormal ⟨"/app/lib/x.js"⟩ := by
    rw [Path.IsNormal, still]
    decide
  have within : Path.IsWithin ⟨"/app/lib/x.js"⟩ ⟨"/app"⟩ :=
    List.isPrefixOf_iff_prefix.mp (by decide +kernel)
  have found := (resource_names_are_contained.1 ⟨"/app"⟩ ⟨"/app/lib/x.js"⟩ (by decide +kernel) normal
    within).1
  exact ⟨found.trans still, by decide +kernel,
    (resource_names_are_contained.2.1 ⟨"/app"⟩ ⟨"/app/../../etc//./x.js"⟩).2.2 ⟨"/mods"⟩,
    by decide +kernel⟩

end Specifier

end ScriptHost
