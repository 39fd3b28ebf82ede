import Mathlib.Data.List.Infix
import ScriptHost.Proofs.Paths.Ancestors
import ScriptHost.Proofs.Paths.LookUps
import ScriptHost.Proofs.Text.Decoding
import ScriptHost.Settings

/-!
# The nearest settings file decides

From an absolute directory, the settings file is looked for in that directory and in each one
above it, up to the root.  The first that is there decides, even if it cannot be read or does not
spell settings, and where there is none the settings are those that hold where nothing is said.
The directories farther up have no part in it: the settings depend only on what the look-ups ask
about that come up to the nearest file.  Such a look-up can still be led farther up, by a link or
by a directory of the chain that has the name of the file.
-/

namespace ScriptHost

namespace Settings

variable {disk other : Disk} {start path directory : Path} {nearer farther : List Path} {fuel : Nat}

/-! ## The chain of directories -/

theorem lineage_of_parent? {parent : Path} (fuel : Nat) (found : path.parent? = some parent) :
    lineage (fuel + 1) path = path :: lineage fuel parent := by
  rw [lineage, found]

theorem lineage_of_root (fuel : Nat) (top : path.parent? = none) : lineage fuel path = [path] := by
  cases fuel with
  | zero => rfl
  | succ fuel => rw [lineage, top]

theorem head?_lineage (fuel : Nat) (path : Path) : (lineage fuel path).head? = some path := by
  cases fuel with
  | zero => rfl
  | succ fuel =>
      rw [lineage]
      split <;> rfl

theorem isAbsolute_of_mem_lineage (absolute : path.isAbsolute = true) :
    ∀ directory ∈ lineage fuel path, directory.isAbsolute = true := by
  induction fuel generalizing path with
  | zero =>
      intro directory member
      rw [List.mem_singleton.mp member]
      exact absolute
  | succ fuel ih =>
      cases above : path.parent? with
      | none =>
          rw [lineage_of_root _ above]
          simpa using absolute
      | some parent =>
          rw [lineage_of_parent? fuel above]
          exact List.forall_mem_cons.mpr ⟨absolute, ih (Path.isAbsolute_parent? absolute above)⟩

theorem reverse_tail_inits_concat (components : List Component) (last : Component) :
    (components ++ [last]).inits.tail.reverse =
      (components ++ [last]) :: components.inits.tail.reverse := by
  rw [List.inits_append]
  cases components <;> simp

/-- The chain goes from an absolute directory to the root: its members have the first components of
the directory, one less each time. -/
theorem components_lineage (absolute : path.isAbsolute = true) (enough : path.text.length ≤ fuel) :
    (lineage fuel path).map Path.components = path.components.inits.tail.reverse := by
  induction fuel generalizing path with
  | zero =>
      have empty : path.text = "" := by simpa using enough
      rw [Path.isAbsolute, empty] at absolute
      cases absolute
  | succ fuel ih =>
      rcases Path.parent?_cases absolute with ⟨top, root⟩ | ⟨parent, component, above, less, split⟩
      · rw [lineage_of_root _ top, List.map_singleton, root]
        rfl
      · have rest := ih (Path.isAbsolute_parent? absolute above) (by omega)
        rw [lineage_of_parent? fuel above, List.map_cons, rest, split, reverse_tail_inits_concat]

theorem components_searched (absolute : start.isAbsolute = true) :
    (searched start).map Path.components = start.components.inits.tail.reverse :=
  components_lineage absolute (Nat.le_of_eq String.length_toList.symm)

theorem isPrefix_of_mem_searched (absolute : start.isAbsolute = true) :
    ∀ directory ∈ searched start, directory.components <+: start.components := by
  intro directory member
  have among := List.mem_map_of_mem (f := Path.components) member
  rw [components_searched absolute, List.mem_reverse] at among
  exact (List.mem_inits _ _).mp (List.mem_of_mem_tail among)

theorem pairwise_reverse_tail_inits (components : List Component) :
    components.inits.tail.reverse.Pairwise fun longer shorter => shorter.length < longer.length := by
  induction components using List.reverseRecOn with
  | nil => exact List.Pairwise.nil
  | append_singleton init last ih =>
      rw [reverse_tail_inits_concat]
      refine List.pairwise_cons.mpr ⟨fun shorter member => ?_, ih⟩
      have starts := (List.mem_inits _ _).mp (List.mem_of_mem_tail (List.mem_reverse.mp member))
      rw [List.length_append]
      exact Nat.lt_succ_of_le starts.length_le

/-- A directory farther up has fewer components. -/
theorem length_components_lt (absolute : start.isAbsolute = true)
    (split : searched start = nearer ++ farther) :
    ∀ near ∈ nearer, ∀ far ∈ farther, far.components.length < near.components.length := by
  have falling := pairwise_reverse_tail_inits start.components
  rw [← components_searched absolute, List.pairwise_map, split] at falling
  exact (List.pairwise_append.mp falling).2.2

/-! ## The nearest file -/

/-- What the settings file at a path decides. -/
inductive Decides (disk : Disk) (file : Path) : Except SettingsError Settings → Prop where
  | unreadable {cause : FileError} :
      disk.readText file = .error cause → Decides disk file (.error (.unreadable cause))
  | malformed {text : String} :
      disk.readText file = .ok text → (Toml.parse? text).bind ofToml? = none →
      Decides disk file (.error .malformed)
  | spelled {text : String} {settings : Settings} :
      disk.readText file = .ok text → (Toml.parse? text).bind ofToml? = some settings →
      Decides disk file (.ok settings)

/-- A file decides one thing. -/
theorem Decides.unique {file : Path} {outcome outcome' : Except SettingsError Settings}
    (first : Decides disk file outcome) (second : Decides disk file outcome') :
    outcome = outcome' := by
  cases first <;> cases second <;> grind

/-- A directory of the chain is the nearest one that has a settings file. -/
structure IsNearest (disk : Disk) (start : Path) (nearer : List Path) (directory : Path)
    (farther : List Path) : Prop where
  chain : searched start = nearer ++ directory :: farther
  absent : ∀ lower ∈ nearer, disk.has (lower.join fileName) = false
  present : disk.has (directory.join fileName) = true

theorem load_decides {file : Path} (present : disk.has file = true) :
    Decides disk file (load disk file) := by
  rw [load, present]
  rcases read : disk.readText file with cause | text
  · exact .unreadable read
  · rcases spelled : (Toml.parse? text).bind ofToml? with _ | settings
    · simpa [spelled] using Decides.malformed read spelled
    · simpa [spelled] using Decides.spelled read spelled

theorem find_of_isNearest (nearest : IsNearest disk start nearer directory farther) :
    find disk start = load disk (directory.join fileName) := by
  have first : nearest? disk start = some (directory.join fileName) := by
    rw [nearest?, nearest.chain, List.map_append, List.find?_append, List.map_cons,
      List.find?_cons_of_pos nearest.present, List.find?_eq_none.mpr, Option.none_or]
    simpa using nearest.absent
  rw [find, first]

theorem find_of_forall_absent
    (absent : ∀ lower ∈ searched start, disk.has (lower.join fileName) = false) :
    find disk start = .ok default := by
  have none : nearest? disk start = none := by
    rw [nearest?, List.find?_eq_none]
    simpa using absent
  rw [find, none]

/-- Either no directory of the chain has a settings file, or one of them is the nearest. -/
theorem absent_or_exists_isNearest (disk : Disk) (start : Path) :
    (∀ lower ∈ searched start, disk.has (lower.join fileName) = false) ∨
      ∃ nearer directory farther, IsNearest disk start nearer directory farther := by
  rcases first : (searched start).find? (fun directory => disk.has (directory.join fileName)) with
    _ | directory
  · exact .inl (by simpa using first)
  · rcases List.find?_eq_some_iff_append.mp first with ⟨present, nearer, farther, chain, absent⟩
    exact .inr ⟨nearer, directory, farther, chain, by simpa using absent, present⟩

/-! ## What it depends on -/

theorem fileName_relative : fileName.toList.head? ≠ some '/' := by
  decide

/-- The settings are the same on every disk on which the look-ups up to the nearest file end at the
same. -/
theorem find_congr (nearest : IsNearest disk start nearer directory farther)
    (same : ∀ near ∈ nearer ++ [directory],
      other.find (near.join fileName) = disk.find (near.join fileName)) :
    find other start = find disk start := by
  have here := same directory (List.mem_append_right _ (List.mem_singleton_self _))
  have nearest' : IsNearest other start nearer directory farther :=
    { chain := nearest.chain
      absent := fun lower member =>
        (Disk.has_congr (same lower (List.mem_append_left _ member))).trans
          (nearest.absent lower member)
      present := (Disk.has_congr here).trans nearest.present }
  rw [find_of_isNearest nearest, find_of_isNearest nearest', load, load, Disk.has_congr here,
    Disk.readText_congr here]

theorem mem_searched (nearest : IsNearest disk start nearer directory farther) {near : Path}
    (member : near ∈ nearer ++ [directory]) : near ∈ searched start := by
  rw [nearest.chain, List.append_cons]
  exact List.mem_append_left _ member

/-- The settings depend on nothing that the look-ups up to the nearest file do not ask about. -/
theorem find_of_agree (absolute : start.isAbsolute = true)
    (nearest : IsNearest disk start nearer directory farther)
    (agree : ∀ near ∈ nearer ++ [directory], ∀ place, disk.LooksAt (near.join fileName) place →
      other.nodes.get? place = disk.nodes.get? place) :
    find other start = find disk start :=
  find_congr nearest fun near member =>
    Disk.find_congr
      (Path.isAbsolute_join (isAbsolute_of_mem_lineage absolute near (mem_searched nearest member)) _)
      (agree near member)

/-- What is kept at a place that the look-ups do not pass, and below it, has no part. -/
theorem find_of_sameBeside {place : List String} (absolute : start.isAbsolute = true)
    (nearest : IsNearest disk start nearer directory farther) (nonempty : place ≠ [])
    (aside : ∀ near ∈ nearer ++ [directory], ¬ disk.LooksAt (near.join fileName) place)
    (same : disk.SameBeside other place) : find other start = find disk start := by
  refine find_of_agree absolute nearest fun near member below looks => same below fun inside => ?_
  have rooted := Path.isAbsolute_join
    (isAbsolute_of_mem_lineage absolute near (mem_searched nearest member)) fileName
  exact aside near member (looks.of_below rooted nonempty inside)

/-! ## Chains without links -/

/-- The names lead from the root through directories that are not links, none has the name of the
settings file, and no settings file of them is a link. -/
structure IsPlain (disk : Disk) (names : List String) : Prop where
  notNamed : fileName ∉ names
  straight : disk.Straight names
  unlinked : ∀ first, first <+: names →
    ∀ target, disk.nodes.get? (first ++ [fileName]) ≠ some (.link target)

theorem IsPlain.straight_of_isPrefix {names first : List String} (plain : IsPlain disk names)
    (starts : first <+: names) : disk.Straight first :=
  fun _ before => plain.straight _ (before.trans starts)

theorem IsPlain.straight_file {names first : List String} (plain : IsPlain disk names)
    (starts : first <+: names) : disk.Straight (first ++ [fileName]) := by
  intro place before
  rcases List.prefix_concat_iff.mp before with rfl | within
  · exact plain.unlinked first starts
  · exact plain.straight place (within.trans starts)

theorem components_join_fileName (absolute : path.isAbsolute = true) {names : List String}
    (read : path.components = Disk.trail names) :
    (path.join fileName).components = Disk.trail (names ++ [fileName]) := by
  have starts : path.text.toList.head? = some '/' := of_decide_eq_true absolute
  have piece : (Text.pieces '/' fileName.toList).filterMap Component.ofPiece? =
      [.name fileName.toList] := by decide
  rw [Path.join, Path.components, String.toList_ofList,
    Path.componentsOf_joinText starts fileName_relative, piece]
  rw [Path.components] at read
  simp [read, Disk.trail]

theorem exists_trail {names : List String} (absolute : start.isAbsolute = true)
    (read : start.components = Disk.trail names) (member : path ∈ searched start) :
    ∃ first, first <+: names ∧ path.components = Disk.trail first := by
  rcases Path.components_of_isAbsolute (isAbsolute_of_mem_lineage absolute path member) with
    ⟨rest, rooted⟩
  have within := isPrefix_of_mem_searched absolute path member
  rw [rooted, read, Disk.trail, List.cons_prefix_cons] at within
  rcases List.prefix_map_iff.mp within.2 with ⟨first, starts, same⟩
  exact ⟨first, starts, by rw [rooted, same, Disk.trail]⟩

/-- On a plain chain, no look-up passes the settings file of a directory farther up. -/
theorem not_looksAt_of_isPlain {names place : List String} {near far : Path}
    (absolute : start.isAbsolute = true)
    (nearest : IsNearest disk start nearer directory farther)
    (read : start.components = Disk.trail names) (plain : IsPlain disk names)
    (member : near ∈ nearer ++ [directory]) (above : far ∈ farther)
    (found : disk.find far = .ok (.directory place)) :
    ¬ disk.LooksAt (near.join fileName) (place ++ [fileName]) := by
  intro looks
  have among : far ∈ searched start := by
    rw [nearest.chain]
    exact List.mem_append_right _ (List.mem_cons_of_mem _ above)
  have rooted := isAbsolute_of_mem_lineage absolute near (mem_searched nearest member)
  rcases exists_trail absolute read (mem_searched nearest member) with ⟨first, starts, spelled⟩
  rcases exists_trail absolute read among with ⟨upper, starts', spelled'⟩
  have longer : far.components.length < near.components.length :=
    length_components_lt absolute (by rw [nearest.chain, List.append_cons]) near member far above
  have reached : place = upper :=
    Disk.place_of_find found (isAbsolute_of_mem_lineage absolute far among) spelled'
      (plain.straight_of_isPrefix starts')
  have passed : place ++ [fileName] <+: first ++ [fileName] :=
    looks.isPrefix (Path.isAbsolute_join rooted fileName) (components_join_fileName rooted spelled)
      (plain.straight_file starts)
  rcases List.prefix_concat_iff.mp passed with same | before
  · have equal : place = first := List.append_cancel_right same
    rw [spelled, spelled', ← reached, equal] at longer
    exact Nat.lt_irrefl _ longer
  · have named : fileName ∈ names :=
      (before.trans starts).subset (List.mem_append_right _ (List.mem_singleton_self _))
    exact plain.notNamed named

/-! ## Two directories -/

/-- A text file. -/
def written (text : String) : Disk.Node :=
  .file (.bytes text.toUTF8.toList)

/-- A directory and another one in it, each with something under the name of the settings file. -/
def nested (outer inner : Disk.Node) : Disk :=
  { nodes :=
      ⟨[(["app"], .directory), (["app", fileName], outer),
        (["app", "a"], .directory), (["app", "a", fileName], inner)]⟩
    current := some [] }

theorem sameBeside_nested (outer outer' inner : Disk.Node) :
    (nested outer inner).SameBeside (nested outer' inner) ["app", fileName] := by
  intro place beside
  have elsewhere : ["app", fileName] ≠ place := by
    rintro rfl
    exact beside List.prefix_rfl
  simp [nested, Table.get?, Table.lookup, elsewhere]

/-- Below the inner directory nothing is found. -/
theorem has_below_nested (outer inner : Disk.Node) :
    (nested outer inner).has ⟨"/app/a/b/ember.toml"⟩ = false := by
  have cut : Disk.names "/app/a/b/ember.toml" = ["", "app", "a", "b", fileName] := by decide +kernel
  rw [Disk.has, Disk.find_eq_follow _ (by decide +kernel) (by decide +kernel), cut,
    Disk.follow_silent (by decide), Disk.follow_directory (by decide +kernel) rfl,
    Disk.follow_directory (by decide +kernel) rfl, Disk.follow_none (by decide +kernel) rfl]
  rfl

theorem find_directory_nested (outer inner : Disk.Node) :
    (nested outer inner).find ⟨"/app"⟩ = .ok (.directory ["app"]) := by
  have cut : Disk.names "/app" = ["", "app"] := by decide +kernel
  rw [Disk.find_eq_follow _ (by decide +kernel) (by decide +kernel), cut,
    Disk.follow_silent (by decide), Disk.follow_directory (by decide +kernel) rfl, Disk.follow]
  rfl

/-- The look-up of the inner file, after the directories that lead to it. -/
theorem find_inner_nested (outer inner : Disk.Node) :
    (nested outer inner).find ⟨"/app/a/ember.toml"⟩ =
      ((nested outer inner).follow Disk.maxLinks ["app", "a"] [fileName]).mapError .system := by
  have cut : Disk.names "/app/a/ember.toml" = ["", "app", "a", fileName] := by decide +kernel
  rw [Disk.find_eq_follow _ (by decide +kernel) (by decide +kernel), cut,
    Disk.follow_silent (by decide), Disk.follow_directory (by decide +kernel) rfl,
    Disk.follow_directory (by decide +kernel) rfl]
  rfl

theorem find_written_nested (outer : Disk.Node) (text : String) :
    (nested outer (written text)).find ⟨"/app/a/ember.toml"⟩ =
      .ok (.file (.bytes text.toUTF8.toList)) := by
  rw [find_inner_nested, Disk.follow_file (by decide +kernel) rfl]
  rfl

theorem find_link_nested (text : String) :
    (nested (written text) (.link "../ember.toml")).find ⟨"/app/a/ember.toml"⟩ =
      .ok (.file (.bytes text.toUTF8.toList)) := by
  have cut : Disk.names "../ember.toml" = ["..", fileName] := by decide +kernel
  rw [find_inner_nested, Disk.maxLinks, Disk.follow_link (by decide +kernel) rfl (by decide),
    if_neg (by decide), cut, List.cons_append, Disk.follow_up, List.append_nil,
    Disk.follow_file (by decide +kernel) rfl]
  rfl

theorem isNearest_nested {outer inner : Disk.Node} {content : FileContent}
    (there : (nested outer inner).find ⟨"/app/a/ember.toml"⟩ = .ok (.file content)) :
    IsNearest (nested outer inner) ⟨"/app/a/b"⟩ [⟨"/app/a/b"⟩] ⟨"/app/a"⟩ [⟨"/app"⟩, ⟨"/"⟩] where
  chain := by decide +kernel
  absent := List.forall_mem_singleton.mpr (has_below_nested outer inner)
  present := Disk.has_of_find there

theorem isPlain_nested (outer inner : String) :
    IsPlain (nested (written outer) (written inner)) ["app", "a", "b"] := by
  have unlinked (place : List String) (target : String) :
      (nested (written outer) (written inner)).nodes.get? place ≠ some (.link target) := by
    intro kept
    have among := Table.mem_values kept
    simp [nested, written, Table.values] at among
  exact ⟨by decide, fun place _ target => unlinked place target,
    fun first _ target => unlinked (first ++ [fileName]) target⟩

theorem Decides.eq_of_written {file : Path} {outcome : Except SettingsError Settings}
    {text : String} {settings : Settings} (decided : Decides disk file outcome)
    (there : disk.find file = .ok (.file (.bytes text.toUTF8.toList)))
    (spelled : (Toml.parse? text).bind ofToml? = some settings) : outcome = .ok settings := by
  have read : disk.readText file = .ok text := by
    rw [Disk.readText, Disk.content, there]
    dsimp only
    rw [Text.Utf8.fromUTF8?_toUTF8]
  exact decided.unique (.spelled read spelled)

/-! ## The law -/

/-- From an absolute directory, the settings file is looked for in the directory itself and in each
one above it, up to the root.  If none of them has it, then the settings are those that hold where
nothing is said.  Otherwise the nearest one that is there decides, also if it cannot be read or does
not spell settings.  The settings depend on nothing that the look-ups up to the nearest file do not
ask about.  So the settings file of a directory farther up may come, go and change, unless one of
these look-ups is led to it, which takes a link, a `..` or a directory that has the name of the
file. -/
theorem nearest_file_decides (start : Path) (absolute : start.isAbsolute = true) :
    (searched start).head? = some start ∧
      (searched start).map Path.components = start.components.inits.tail.reverse ∧
      ∀ disk : Disk,
        ((∀ lower ∈ searched start, disk.has (lower.join fileName) = false) ∧
            find disk start = .ok default ∨
          ∃ nearer directory farther, IsNearest disk start nearer directory farther) ∧
        ∀ nearer directory farther, IsNearest disk start nearer directory farther →
          Decides disk (directory.join fileName) (find disk start) ∧
          (∀ other : Disk,
            (∀ near ∈ nearer ++ [directory], ∀ place, disk.LooksAt (near.join fileName) place →
              other.nodes.get? place = disk.nodes.get? place) →
            find other start = find disk start) ∧
          ∀ far ∈ farther, ∀ place, disk.find far = .ok (.directory place) →
            ((∀ near ∈ nearer ++ [directory],
                ¬ disk.LooksAt (near.join fileName) (place ++ [fileName])) ∨
              ∃ names, start.components = Disk.trail names ∧ IsPlain disk names) →
            ∀ other : Disk, disk.SameBeside other (place ++ [fileName]) →
              find other start = find disk start := by
  refine ⟨head?_lineage _ start, components_searched absolute, fun disk => ⟨?_, ?_⟩⟩
  · rcases absent_or_exists_isNearest disk start with absent | nearest
    · exact .inl ⟨absent, find_of_forall_absent absent⟩
    · exact .inr nearest
  · intro nearer directory farther nearest
    refine ⟨?_, fun other agree => find_of_agree absolute nearest agree, ?_⟩
    · rw [find_of_isNearest nearest]
      exact load_decides nearest.present
    · intro far above place found sealed other same
      have nonempty : place ++ [fileName] ≠ [] := List.concat_ne_nil _ _
      refine find_of_sameBeside absolute nearest nonempty ?_ same
      rcases sealed with aside | ⟨names, read, plain⟩
      · exact aside
      · exact fun near member => not_looksAt_of_isPlain absolute nearest read plain member above found

/-- The inner file decides below it, and goes on to when the outer one becomes a link to nowhere. -/
theorem inner_settings_decide :
    Path.isAbsolute ⟨"/app/a/b"⟩ = true ∧
      IsNearest (nested (written "runtime.loop_capacity = 16") (written "runtime.loop_capacity = 32"))
        ⟨"/app/a/b"⟩ [⟨"/app/a/b"⟩] ⟨"/app/a"⟩ [⟨"/app"⟩, ⟨"/"⟩] ∧
      IsPlain (nested (written "runtime.loop_capacity = 16") (written "runtime.loop_capacity = 32"))
        ["app", "a", "b"] ∧
      find (nested (written "runtime.loop_capacity = 16") (written "runtime.loop_capacity = 32"))
        ⟨"/app/a/b"⟩ = .ok ⟨32, none⟩ ∧
      find (nested (.link "nowhere") (written "runtime.loop_capacity = 32")) ⟨"/app/a/b"⟩ =
        .ok ⟨32, none⟩ := by
  have absolute : Path.isAbsolute ⟨"/app/a/b"⟩ = true := by decide
  have there (outer : Disk.Node) := find_written_nested outer "runtime.loop_capacity = 32"
  have nearest := isNearest_nested (there (written "runtime.loop_capacity = 16"))
  have plain := isPlain_nested "runtime.loop_capacity = 16" "runtime.loop_capacity = 32"
  rcases nearest_file_decides ⟨"/app/a/b"⟩ absolute with ⟨-, -, decides⟩
  rcases (decides _).2 _ _ _ nearest with ⟨decided, -, sealed⟩
  have spelled : (Toml.parse? "runtime.loop_capacity = 32").bind ofToml? = some ⟨32, none⟩ := by
    decide +kernel
  have holds := decided.eq_of_written (there _) spelled
  have kept := sealed ⟨"/app"⟩ List.mem_cons_self ["app"] (find_directory_nested _ _)
    (.inr ⟨["app", "a", "b"], by decide +kernel, plain⟩)
    _ (sameBeside_nested _ (.link "nowhere") _)
  exact ⟨absolute, nearest, plain, holds, kept.trans holds⟩

/-- The inner file may be a link to the outer one.  Then what is written there is what holds, and a
change there is a change of the settings. -/
theorem linked_settings_change_farther_up :
    Path.isAbsolute ⟨"/app/a/b"⟩ = true ∧
      IsNearest (nested (written "runtime.loop_capacity = 16") (.link "../ember.toml"))
        ⟨"/app/a/b"⟩ [⟨"/app/a/b"⟩] ⟨"/app/a"⟩ [⟨"/app"⟩, ⟨"/"⟩] ∧
      (nested (written "runtime.loop_capacity = 16") (.link "../ember.toml")).find ⟨"/app"⟩ =
        .ok (.directory ["app"]) ∧
      (nested (written "runtime.loop_capacity = 16") (.link "../ember.toml")).SameBeside
        (nested (written "runtime.loop_capacity = 32") (.link "../ember.toml")) ["app", fileName] ∧
      find (nested (written "runtime.loop_capacity = 16") (.link "../ember.toml")) ⟨"/app/a/b"⟩ =
        .ok ⟨16, none⟩ ∧
      find (nested (written "runtime.loop_capacity = 32") (.link "../ember.toml")) ⟨"/app/a/b"⟩ =
        .ok ⟨32, none⟩ := by
  have holds (text : String) {settings : Settings}
      (spelled : (Toml.parse? text).bind ofToml? = some settings) :
      find (nested (written text) (.link "../ember.toml")) ⟨"/app/a/b"⟩ = .ok settings := by
    have nearest := isNearest_nested (find_link_nested text)
    rw [find_of_isNearest nearest]
    exact (load_decides nearest.present).eq_of_written (find_link_nested text) spelled
  exact ⟨by decide, isNearest_nested (find_link_nested _), find_directory_nested _ _,
    sameBeside_nested _ _ _, holds _ (by decide +kernel), holds _ (by decide +kernel)⟩

end Settings

end ScriptHost
