import ScriptHost.Proofs.Modules.Resolution
import ScriptHost.Proofs.Paths.Naming

/-!
# Library modules by their alias

An alias is written out as the path of a script in the library of the application root.  That
path is absolute, so it does not matter who requires it, and it ends in `.js`, so it is a script
whatever dots the name has.
-/

namespace ScriptHost

namespace Path

/-- Joined text ends in what was joined. -/
theorem exists_front_joinText (text right : List Char) :
    ∃ front, joinText text right = front ++ right := by
  unfold joinText
  split
  · exact ⟨[], rfl⟩
  · split
    · exact ⟨text, rfl⟩
    · exact ⟨text ++ ['/'], by rw [List.append_assoc, List.singleton_append]⟩

/-- Proper names that are joined to an absolute path go behind its components. -/
theorem components_join_names (base : Path) {right : String}
    (proper : ∀ piece ∈ Text.pieces '/' right.toList, IsProper piece) :
    (base.join right).components =
      base.components ++ (Text.pieces '/' right.toList).map .name := by
  have whole := componentsOf_joinText_names proper base.text.toList
  rw [Text.joined_pieces] at whole
  rw [join, components, String.toList_ofList, whole]
  rfl

/-- Absolute text takes the place of the path that it is joined to. -/
theorem resolve_of_absolute (base : Path) {specifier : String}
    (absolute : (Path.mk specifier).isAbsolute = true) :
    base.resolve specifier = (Path.mk specifier).normalize := by
  have slash : specifier.toList.head? = some '/' := of_decide_eq_true absolute
  rw [resolve, join, joinText, if_pos slash, String.ofList_toList]

/-- A path is absolute if the root is among its components. -/
theorem isAbsolute_of_root_mem {path : Path} (rooted : .root ∈ path.components) :
    path.isAbsolute = true := by
  refine decide_eq_true (Decidable.byContradiction fun relative => ?_)
  rw [components, componentsOf_relative relative] at rooted
  rcases List.mem_append.mp rooted with dot | part
  · split at dot
    · cases List.mem_singleton.mp dot
    · cases dot
  · exact root_not_mem_parts _ part

end Path

namespace Specifier

open ScriptHost.Path

variable {root : Path} {name : String}

/-- Proper names with slashes between them. -/
def IsLibraryName (name : String) : Prop :=
  ∀ segment ∈ Text.pieces '/' name.toList, IsProper segment

/-- The file name of the script of a library module: its last segment with an extension. -/
def scriptName (name : String) : List Char :=
  (Text.pieces '/' name.toList).getLastD [] ++ ".js".toList

/-- The names of the script of a library module, below the application root. -/
def libraryNames (name : String) : List (List Char) :=
  libraryDirectory.toList :: Text.pieces '/' name.toList ++ [scriptName name]

/-- The path for which the alias of a library module stands. -/
def libraryScript (root : Path) (name : String) : Path :=
  ((root.join libraryDirectory).join name).join (baseName name ++ ".js")

theorem expandAlias?_marked (root : Path) (name : String) :
    expandAlias? ("@" ++ name) root = some (libraryScript root name).text := by
  have marked : ("@" ++ name).toList = '@' :: name.toList := by simp
  unfold expandAlias?
  rw [marked]
  simp only [String.ofList_toList]
  rfl

/-- What ends in `.js` is a script, whatever comes before. -/
theorem extension_of_js (front : List Char) :
    extension (String.ofList (front ++ ".js".toList)) = "js" :=
  Text.lastPiece_append_cons front (by decide)

theorem toList_scriptFile (name : String) : (baseName name ++ ".js").toList = scriptName name := by
  rw [String.toList_append, baseName, Text.lastPiece, String.toList_ofList]
  rfl

theorem extension_libraryScript (root : Path) (name : String) :
    extension (libraryScript root name).text = "js" := by
  rcases exists_front_joinText ((root.join libraryDirectory).join name).text.toList
    (baseName name ++ ".js").toList with ⟨front, ends⟩
  rw [libraryScript, join, ends, toList_scriptFile, scriptName, ← List.append_assoc]
  exact extension_of_js _

theorem isProper_scriptName (proper : IsLibraryName name) : IsProper (scriptName name) := by
  have last : (Text.pieces '/' name.toList).getLastD [] ∈ Text.pieces '/' name.toList := by
    rw [List.getLastD_eq_getLast?, List.getLast?_eq_some_getLast (Text.pieces_ne_nil '/' name.toList)]
    exact List.getLast_mem _
  have noSlash := (proper _ last).noSlash
  have short {dots : List Char} (few : dots.length < 3) : scriptName name ≠ dots := by
    rintro rfl
    rw [scriptName, List.length_append] at few
    exact absurd few (by simp)
  refine ⟨short (by decide), short (by decide), short (by decide), fun slash => ?_⟩
  rcases List.mem_append.mp slash with before | after
  · exact noSlash before
  · exact absurd after (by decide)

theorem pieces_scriptName (proper : IsLibraryName name) :
    Text.pieces '/' (baseName name ++ ".js").toList = [scriptName name] := by
  rw [toList_scriptFile, Text.pieces_of_not_mem (isProper_scriptName proper).noSlash]

theorem isProper_libraryNames (proper : IsLibraryName name) :
    ∀ segment ∈ libraryNames name, IsProper segment := by
  have library : IsProper libraryDirectory.toList := by
    constructor <;> decide
  intro segment member
  rcases List.mem_append.mp member with before | last
  · rcases List.mem_cons.mp before with rfl | inside
    · exact library
    · exact proper segment inside
  · rw [List.mem_singleton.mp last]
    exact isProper_scriptName proper

/-- The script of a library module is below the library of the application root. -/
theorem components_libraryScript (root : Path) (proper : IsLibraryName name) :
    (libraryScript root name).components = root.components ++ (libraryNames name).map .name := by
  have single : Text.pieces '/' libraryDirectory.toList = [libraryDirectory.toList] := by decide
  have library : ∀ piece ∈ Text.pieces '/' libraryDirectory.toList, IsProper piece := by
    rw [single]
    exact fun piece member => isProper_libraryNames proper piece
      (List.mem_append_left _ (List.mem_singleton.mp member ▸ List.mem_cons_self))
  have script : ∀ piece ∈ Text.pieces '/' (baseName name ++ ".js").toList, IsProper piece := by
    rw [pieces_scriptName proper]
    exact fun piece member => List.mem_singleton.mp member ▸ isProper_scriptName proper
  rw [libraryScript, components_join_names _ script, components_join_names _ proper,
    components_join_names _ library, single, pieces_scriptName proper, libraryNames]
  simp

theorem libraryNames_injective {other : String} (same : libraryNames other = libraryNames name) :
    other = name := by
  rcases List.append_inj' same rfl with ⟨before, -⟩
  have whole := congrArg (Text.joined '/') (List.cons.inj before).2
  rw [Text.joined_pieces, Text.joined_pieces] at whole
  exact String.toList_injective whole

end Specifier

/-! ## Keys -/

namespace Path

variable {root : Path} {below : List (List Char)}

/-- What is below a normal absolute path by proper names is normal. -/
theorem normalize_below (absolute : root.isAbsolute = true) (normal : root.IsNormal)
    (proper : ∀ name ∈ below, IsProper name) {path : Path}
    (split : path.components = root.components ++ below.map .name) :
    path.normalize = ⟨String.ofList (rooted (path.components.filterMap Component.name?))⟩ ∧
      path.normalize.components = path.components := by
  rcases normal.exists_names absolute with ⟨above, whole, proper'⟩
  have all : ∀ name ∈ above ++ below, IsProper name := by
    intro name member
    rcases List.mem_append.mp member with here | there
    · exact proper' name here
    · exact proper name there
  have names : path.components = .root :: (above ++ below).map .name := by
    rw [split, whole, List.cons_append, List.map_append]
  have read : (path.components).filterMap Component.name? = above ++ below := by
    rw [names, List.filterMap_cons_none rfl, List.filterMap_map]
    exact List.filterMap_some
  have stays : path.resolved = path.components := by
    rw [resolved, names]
    exact foldl_push_of_isStack (.rooted all)
  refine ⟨?_, (components_normalize path).trans stays⟩
  rw [normalize_eq, stays, read, names, written_rooted]

end Path

namespace Modules

open World Specifier

variable {σ : Type} {world : World σ} {loader : Nat} {state : ModuleLoader}
  {requester requester' : Option Nat} {specifier specifier' name : String} {kind : ModuleKind}

/-- A specifier that has the extension of a file module is one of a file. -/
theorem require_of_file (engine : Engine σ) (run : Script σ → Action σ Value)
    (present : world.loaders.get? loader = some state)
    (file : ModuleKind.ofExtension? (extension (expanded state.paths specifier)) = some kind) :
    require engine run loader requester specifier world =
      requireFile engine run loader state requester kind (expanded state.paths specifier) world := by
  unfold expanded at file ⊢
  unfold require
  rw [get_bind_eq, present]
  dsimp only
  rw [file]

/-- Of the requester and the specifier it only matters where they lead. -/
theorem requireFile_congr (engine : Engine σ) (run : Script σ → Action σ Value)
    (same : (baseDirectory world state.paths requester).resolve specifier =
      (baseDirectory world state.paths requester').resolve specifier') :
    requireFile engine run loader state requester kind specifier world =
      requireFile engine run loader state requester' kind specifier' world := by
  unfold requireFile
  rw [get_bind_eq, get_bind_eq, same]

/-- The key of a library module below an application root. -/
def libraryKey (root : Path) (name : String) : Path :=
  (libraryScript root name).normalize

section Keys

variable {root : Path} (absolute : root.isAbsolute = true) (normal : root.IsNormal)
  (proper : IsLibraryName name)

include absolute normal proper

theorem components_libraryKey :
    (libraryKey root name).components = root.components ++ (libraryNames name).map .name := by
  have script := components_libraryScript root proper
  exact (Path.normalize_below absolute normal (isProper_libraryNames proper) script).2.trans script

theorem extension_libraryKey : extension (libraryKey root name).text = "js" := by
  have script := components_libraryScript root proper
  rcases Path.normalize_below absolute normal (isProper_libraryNames proper) script with ⟨written, -⟩
  have ends : (libraryScript root name).components.filterMap Component.name? =
      (root.components.filterMap Component.name? ++
        libraryDirectory.toList :: Text.pieces '/' name.toList) ++ [scriptName name] := by
    have read : ((libraryNames name).map Component.name).filterMap Component.name? =
        libraryNames name := by
      rw [List.filterMap_map]
      exact List.filterMap_some
    rw [script, List.filterMap_append, read, libraryNames, List.append_assoc]
  rw [libraryKey, written, ends, Path.rooted, Text.joined_concat (by simp), scriptName,
    ← List.cons_append, ← List.cons_append, ← List.append_assoc]
  exact extension_of_js _

/-- A path with the components of the key is absolute. -/
theorem isAbsolute_of_libraryKey {direct : Path}
    (same : direct.components = (libraryKey root name).components) : direct.isAbsolute = true := by
  rcases Path.components_of_isAbsolute absolute with ⟨rest, starts⟩
  refine Path.isAbsolute_of_root_mem ?_
  rw [same, components_libraryKey absolute normal proper, starts]
  exact List.mem_cons_self

/-- So it leads to the key from everywhere. -/
theorem resolve_libraryKey {direct : String}
    (same : (Path.mk direct).components = (libraryKey root name).components) (base : Path) :
    base.resolve direct = libraryKey root name := by
  have script := components_libraryScript root proper
  rw [Path.resolve_of_absolute base (isAbsolute_of_libraryKey absolute normal proper same)]
  exact Path.normalize_congr
    (same.trans ((components_libraryKey absolute normal proper).trans script.symm))

end Keys

/-- Aliases lead into the library from everywhere.  Let the application root be absolute and normal,
and a name be made of proper names with slashes between them.  Then its alias leads every
requester in every world to the same key: below the root the library directory, the segments of
the name, and the last of them with the extension of a script.  It is required as a script, and
just as it would be by the absolute path of the key in any spelling that ends in the extension.
Other names have other keys. -/
theorem aliases_lead_into_the_library (engine : Engine σ) (run : Script σ → Action σ Value)
    {root : Path} (absolute : root.isAbsolute = true) (normal : root.IsNormal) {name : String}
    (proper : IsLibraryName name) :
    (libraryKey root name).components = root.components ++ .name libraryDirectory.toList ::
        (Text.pieces '/' name.toList).map .name ++ [.name (scriptName name)] ∧
      extension (libraryKey root name).text = "js" ∧
      (∀ (world : World σ) loader state requester, world.loaders.get? loader = some state →
        state.paths.appRoot = root →
        (Demand.module requester ("@" ++ name)).aim world state =
          ⟨libraryKey root name, some .script⟩ ∧
        require engine run loader requester ("@" ++ name) world =
          requireFile engine run loader state requester .script (libraryKey root name).text world ∧
        ∀ requester' direct, (Path.mk direct).components = (libraryKey root name).components →
          extension direct = "js" →
          require engine run loader requester' direct world =
            require engine run loader requester ("@" ++ name) world) ∧
      ∀ other, IsLibraryName other →
        (libraryKey root other).components = (libraryKey root name).components → other = name := by
  have whole := components_libraryKey absolute normal proper
  refine ⟨?_, extension_libraryKey absolute normal proper, ?_, fun other proper' same => ?_⟩
  · rw [whole, libraryNames]
    simp
  · rintro world loader state requester present rfl
    have script := components_libraryScript state.paths.appRoot proper
    have expands : expanded state.paths ("@" ++ name) =
        (libraryScript state.paths.appRoot name).text := by
      rw [expanded, expandAlias?_marked]
      rfl
    have file : ModuleKind.ofExtension? (extension (expanded state.paths ("@" ++ name))) =
        some .script := by
      rw [expands, extension_libraryScript]
      rfl
    have arrives : fileAt world state.paths requester ("@" ++ name) =
        libraryKey state.paths.appRoot name := by
      rw [fileAt, expands]
      exact resolve_libraryKey absolute normal proper (script.trans whole.symm) _
    have required : require engine run loader requester ("@" ++ name) world =
        requireFile engine run loader state requester .script
          (expanded state.paths ("@" ++ name)) world := require_of_file engine run present file
    refine ⟨?_, ?_, fun requester' direct same js => ?_⟩
    · rw [aim_of_file file, arrives]
    · have there := resolve_libraryKey absolute normal proper rfl
        (baseDirectory world state.paths requester)
      rw [required]
      exact requireFile_congr engine run (arrives.trans there.symm)
    · have plain : expanded state.paths direct = direct := expanded_of_plain _ fun marked => by
        have slash := of_decide_eq_true (isAbsolute_of_libraryKey absolute normal proper same)
        cases slash.symm.trans marked
      have file' : ModuleKind.ofExtension? (extension (expanded state.paths direct)) =
          some .script := by
        rw [plain, js]
        rfl
      have there := resolve_libraryKey absolute normal proper same
        (baseDirectory world state.paths requester')
      rw [required, require_of_file engine run present file', plain]
      exact requireFile_congr engine run (there.trans arrives.symm)
  · rw [components_libraryKey absolute normal proper', whole, List.append_cancel_left_eq] at same
    exact libraryNames_injective (List.map_injective_iff.mpr (fun _ _ => Component.name.inj) same)

theorem isLibraryName_dotted : IsLibraryName "net.v1/@tcp" := by
  have segments : Text.pieces '/' "net.v1/@tcp".toList = ["net.v1".toList, "@tcp".toList] := by decide
  intro segment member
  rw [segments] at member
  rcases List.mem_cons.mp member with rfl | rest
  · constructor <;> decide
  · rw [List.mem_singleton.mp rest]
    constructor <;> decide

/-- A name with a dot and another mark is that of a script, and the path of the script may be spelled
with a dot. -/
theorem dotted_alias_is_a_script :
    (libraryKey ⟨"/app"⟩ "net.v1/@tcp").text = "/app/lib/net.v1/@tcp/@tcp.js" ∧
      ∃ state, (layered.world 9).loaders.get? 0 = some state ∧
        (Demand.module (some 5) "@net.v1/@tcp").aim (layered.world 9) state =
          ⟨libraryKey ⟨"/app"⟩ "net.v1/@tcp", some .script⟩ ∧
        require idle (Script.exec idle 1) 0 none "/app/./lib/net.v1/@tcp/@tcp.js" (layered.world 9) =
          require idle (Script.exec idle 1) 0 (some 5) "@net.v1/@tcp" (layered.world 9) := by
  have still : (⟨"/app"⟩ : Path).normalize = ⟨"/app"⟩ := by decide +kernel
  have normal : Path.IsNormal ⟨"/app"⟩ := by
    rw [Path.IsNormal, still]
    decide
  have leads := (aliases_lead_into_the_library idle (Script.exec idle 1) (by decide +kernel) normal
    isLibraryName_dotted).2.2.1 (layered.world 9) 0 _ (some 5) rfl rfl
  exact ⟨by decide +kernel, _, rfl, leads.1,
    leads.2.2 none "/app/./lib/net.v1/@tcp/@tcp.js" (by decide +kernel) (by decide +kernel)⟩

end Modules

end ScriptHost
