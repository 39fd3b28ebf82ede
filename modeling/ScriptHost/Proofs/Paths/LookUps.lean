import Mathlib.Data.String.Basic
import ScriptHost.Disk
import ScriptHost.Proofs.Paths.Resolving

/-!
# What a look-up depends on

A look-up goes from name to name, and at each name it asks what is kept at one place.  It depends
on nothing that is kept at a place it does not ask about, and it asks nothing below a place that
it does not pass.  Where links are kept, a look-up may pass any place.  Where none is kept on the
way, it passes the places of the first names of the path and no other.
-/

namespace ScriptHost

namespace Disk

/-- A name that is looked for in a directory. -/
structure IsEntry (name : String) : Prop where
  loud : isSilent name = false
  down : name ≠ ".."
  short : name.utf8ByteSize ≤ maxName

instance (name : String) : Decidable (IsEntry name) :=
  decidable_of_iff (isSilent name = false ∧ name ≠ ".." ∧ name.utf8ByteSize ≤ maxName)
    ⟨fun entry => ⟨entry.1, entry.2.1, entry.2.2⟩,
      fun entry => ⟨entry.loud, entry.down, entry.short⟩⟩

variable {disk other : Disk} {links : Nat} {place here below : List String} {name target : String}
  {rest : List String}

/-! ## One name -/

theorem isEntry_of_not (loud : ¬ isSilent name = true) (down : name ≠ "..")
    (short : ¬ maxName < name.utf8ByteSize) : IsEntry name :=
  ⟨Bool.eq_false_iff.mpr loud, down, Nat.le_of_not_lt short⟩

/-- How a look-up goes on with what is kept under a name. -/
def meet (disk : Disk) (links : Nat) (place : List String) (name : String) (rest : List String) :
    Option Node → Except Int Found
  | none => .error Errno.noEntry
  | some .directory => disk.follow links (place ++ [name]) rest
  | some (.file content) =>
      if rest.isEmpty then .ok (.file content) else .error Errno.notDirectory
  | some (.link target) =>
      match links with
      | 0 => .error Errno.tooManyLinks
      | links + 1 =>
          if target = "" then .error Errno.noEntry
          else
            disk.follow links (if (Path.mk target).isAbsolute then [] else place)
              (names target ++ rest)

theorem follow_entry (entry : IsEntry name) :
    disk.follow links place (name :: rest) =
      disk.meet links place name rest (disk.nodes.get? (place ++ [name])) := by
  rw [follow, if_neg (by simp [entry.loud]), if_neg entry.down, if_neg (by simp [entry.short])]
  rcases disk.nodes.get? (place ++ [name]) with _ | _ | content | target
  · rfl
  · rfl
  · rfl
  · cases links <;> rfl

theorem follow_none (entry : IsEntry name) (kept : disk.nodes.get? (place ++ [name]) = none) :
    disk.follow links place (name :: rest) = .error Errno.noEntry := by
  rw [follow_entry entry, kept]
  rfl

theorem follow_directory (entry : IsEntry name)
    (kept : disk.nodes.get? (place ++ [name]) = some .directory) :
    disk.follow links place (name :: rest) = disk.follow links (place ++ [name]) rest := by
  rw [follow_entry entry, kept]
  rfl

theorem follow_file {content : FileContent} (entry : IsEntry name)
    (kept : disk.nodes.get? (place ++ [name]) = some (.file content)) :
    disk.follow links place [name] = .ok (.file content) := by
  rw [follow_entry entry, kept]
  rfl

theorem follow_link (entry : IsEntry name)
    (kept : disk.nodes.get? (place ++ [name]) = some (.link target)) (nonempty : target ≠ "") :
    disk.follow (links + 1) place (name :: rest) =
      disk.follow links (if (Path.mk target).isAbsolute then [] else place)
        (names target ++ rest) := by
  rw [follow_entry entry, kept]
  exact if_neg nonempty

theorem follow_silent (silent : isSilent name = true) :
    disk.follow links place (name :: rest) = disk.follow links place rest := by
  rw [follow, if_pos silent]

theorem follow_up :
    disk.follow links place (".." :: rest) = disk.follow links place.dropLast rest := by
  rw [follow, if_neg (by decide), if_pos rfl]

/-! ## Places that are passed -/

/-- Following names from a directory asks what is kept at a place. -/
inductive Passes (disk : Disk) (here : List String) : Nat → List String → List String → Prop where
  | here {links : Nat} {place : List String} {name : String} {rest : List String} :
      IsEntry name → place ++ [name] = here → Passes disk here links place (name :: rest)
  | silent {links : Nat} {place : List String} {name : String} {rest : List String} :
      isSilent name = true → Passes disk here links place rest →
      Passes disk here links place (name :: rest)
  | up {links : Nat} {place rest : List String} :
      Passes disk here links place.dropLast rest → Passes disk here links place (".." :: rest)
  | directory {links : Nat} {place : List String} {name : String} {rest : List String} :
      IsEntry name → disk.nodes.get? (place ++ [name]) = some .directory →
      Passes disk here links (place ++ [name]) rest → Passes disk here links place (name :: rest)
  | link {links : Nat} {place : List String} {name target : String} {rest : List String} :
      IsEntry name → disk.nodes.get? (place ++ [name]) = some (.link target) → target ≠ "" →
      Passes disk here links (if (Path.mk target).isAbsolute then [] else place)
        (names target ++ rest) →
      Passes disk here (links + 1) place (name :: rest)

/-- Following names depends on what is kept at the places that are passed. -/
theorem follow_congr (links : Nat) (place names : List String)
    (agree : ∀ here, Passes disk here links place names →
      other.nodes.get? here = disk.nodes.get? here) :
    other.follow links place names = disk.follow links place names := by
  fun_induction disk.follow links place names with
  | case1 => rw [follow]
  | case2 links place name rest silent ih =>
      rw [follow_silent silent]
      exact ih fun here passes => agree here (.silent silent passes)
  | case3 links place rest _ ih =>
      rw [follow_up]
      exact ih fun here passes => agree here (.up passes)
  | case4 links place name rest loud down long =>
      rw [follow, if_neg loud, if_neg down, if_pos long]
  | case5 links place name rest loud down short kept =>
      have entry := isEntry_of_not loud down short
      rw [follow_entry entry, agree _ (.here entry rfl), kept]
      rfl
  | case6 links place name rest loud down short kept ih =>
      have entry := isEntry_of_not loud down short
      rw [follow_entry entry, agree _ (.here entry rfl), kept]
      exact ih fun here passes => agree here (.directory entry kept passes)
  | case7 links place name rest loud down short content kept alone =>
      have entry := isEntry_of_not loud down short
      rw [follow_entry entry, agree _ (.here entry rfl), kept]
      exact if_pos alone
  | case8 links place name rest loud down short content kept more =>
      have entry := isEntry_of_not loud down short
      rw [follow_entry entry, agree _ (.here entry rfl), kept]
      exact if_neg more
  | case9 place name rest loud down short target kept =>
      have entry := isEntry_of_not loud down short
      rw [follow_entry entry, agree _ (.here entry rfl), kept]
      rfl
  | case10 place name rest loud down short links kept =>
      have entry := isEntry_of_not loud down short
      rw [follow_entry entry, agree _ (.here entry rfl), kept]
      rfl
  | case11 place name rest loud down short target kept links nonempty ih =>
      have entry := isEntry_of_not loud down short
      rw [follow_entry entry, agree _ (.here entry rfl), kept]
      refine (if_neg nonempty).trans (ih fun here passes => ?_)
      exact agree here (.link entry kept nonempty passes)

/-- A place below another one is passed only after that one. -/
theorem Passes.of_below {names : List String} (passes : Passes disk below links place names)
    (inside : here <+: below) (outside : ¬ here <+: place) :
    Passes disk here links place names := by
  induction passes with
  | here entry same =>
      subst same
      rcases List.prefix_concat_iff.mp inside with same | above
      · exact .here entry same.symm
      · exact absurd above outside
  | silent silent _ ih => exact .silent silent (ih outside)
  | up _ ih => exact .up (ih fun starts => outside (starts.trans (List.dropLast_prefix _)))
  | @directory links place name rest entry kept _ ih =>
      by_cases starts : here <+: place ++ [name]
      · rcases List.prefix_concat_iff.mp starts with same | above
        · exact .here entry same.symm
        · exact absurd above outside
      · exact .directory entry kept (ih starts)
  | link entry kept nonempty _ ih =>
      refine .link entry kept nonempty (ih fun starts => outside ?_)
      split at starts
      · rw [List.prefix_nil.mp starts]
        exact List.nil_prefix
      · exact starts

/-! ## Ways without links -/

/-- The names that say something. -/
def loud (names : List String) : List String :=
  names.filter fun name => !isSilent name

/-- No link is kept at the places to which the first of these names lead. -/
def Straight (disk : Disk) (names : List String) : Prop :=
  ∀ place, place <+: names → ∀ target, disk.nodes.get? place ≠ some (.link target)

theorem loud_silent (silent : isSilent name = true) : loud (name :: rest) = loud rest := by
  rw [loud, List.filter_cons_of_neg (by simp [silent])]
  rfl

theorem loud_cons (heard : isSilent name = false) : loud (name :: rest) = name :: loud rest := by
  rw [loud, List.filter_cons_of_pos (by simp [heard])]
  rfl

/-- Without links, only the places of the first names are passed. -/
theorem Passes.isPrefix {names : List String} (passes : Passes disk here links place names)
    (down : ".." ∉ names) (straight : Straight disk (place ++ loud names)) :
    here <+: place ++ loud names := by
  induction passes with
  | here entry same =>
      rw [← same, loud_cons entry.loud, List.append_cons _ _ (loud _)]
      exact List.prefix_append _ _
  | silent silent _ ih =>
      rw [loud_silent silent] at straight ⊢
      exact ih (List.not_mem_of_not_mem_cons down) straight
  | up => exact absurd List.mem_cons_self down
  | directory entry _ _ ih =>
      rw [loud_cons entry.loud, List.append_cons] at straight ⊢
      exact ih (List.not_mem_of_not_mem_cons down) straight
  | link entry kept =>
      rw [loud_cons entry.loud, List.append_cons] at straight
      exact absurd kept (straight _ (List.prefix_append _ _) _)

/-- Without links, a directory is found at the place of the names. -/
theorem place_of_follow {names reached : List String}
    (found : disk.follow links place names = .ok (.directory reached))
    (down : ".." ∉ names) (straight : Straight disk (place ++ loud names)) :
    reached = place ++ loud names := by
  induction names generalizing place with
  | nil =>
      rw [follow] at found
      cases found
      exact (List.append_nil _).symm
  | cons name rest ih =>
      have later := List.not_mem_of_not_mem_cons down
      by_cases silent : isSilent name = true
      · rw [follow_silent silent] at found
        rw [loud_silent silent] at straight ⊢
        exact ih found later straight
      · have notUp : name ≠ ".." := Ne.symm (List.ne_of_not_mem_cons down)
        by_cases long : maxName < name.utf8ByteSize
        · rw [follow, if_neg silent, if_neg notUp, if_pos long] at found
          cases found
        · have entry := isEntry_of_not silent notUp long
          rw [loud_cons entry.loud, List.append_cons] at straight ⊢
          rw [follow_entry entry] at found
          rcases kept : disk.nodes.get? (place ++ [name]) with _ | _ | content | target
          · rw [kept] at found
            cases found
          · rw [kept] at found
            exact ih found later straight
          · rw [kept, meet] at found
            split at found <;> cases found
          · exact absurd kept (straight _ (List.prefix_append _ _) _)

/-! ## Paths -/

variable {path : Path}

/-- A path that can be handed to a system. -/
structure IsLegal (path : Path) : Prop where
  noNul : Char.ofNat 0 ∉ path.text.toList
  short : path.text.utf8ByteSize < maxPath

instance (path : Path) : Decidable (IsLegal path) :=
  decidable_of_iff (Char.ofNat 0 ∉ path.text.toList ∧ path.text.utf8ByteSize < maxPath)
    ⟨fun legal => ⟨legal.1, legal.2⟩, fun legal => ⟨legal.noNul, legal.short⟩⟩

/-- The look-up of a path asks what is kept at a place. -/
structure LooksAt (disk : Disk) (path : Path) (here : List String) : Prop where
  legal : IsLegal path
  passes : ∃ place, disk.origin? path = some place ∧
    Passes disk here maxLinks place (names path.text)

/-- The same is kept on two disks except at a place and below it. -/
def SameBeside (disk other : Disk) (here : List String) : Prop :=
  ∀ place, ¬ here <+: place → other.nodes.get? place = disk.nodes.get? place

theorem origin?_of_isAbsolute (disk : Disk) (absolute : path.isAbsolute = true) :
    disk.origin? path = some [] :=
  if_pos absolute

/-- An absolute path names what its names lead to from the root. -/
theorem find_eq_follow (disk : Disk) (absolute : path.isAbsolute = true) (legal : IsLegal path) :
    disk.find path = (disk.follow maxLinks [] (names path.text)).mapError .system := by
  have nonempty : path.text ≠ "" := by
    intro empty
    rw [Path.isAbsolute, empty] at absolute
    cases absolute
  rw [find, if_neg (by simpa using legal.noNul), if_neg nonempty,
    if_neg (Nat.not_le_of_lt legal.short), origin?_of_isAbsolute disk absolute]

/-- A path that is not legal names nothing, whatever is kept. -/
theorem find_of_not_isLegal (illegal : ¬ IsLegal path) :
    ∃ cause, ∀ disk : Disk, disk.find path = .error cause := by
  by_cases noNul : Char.ofNat 0 ∈ path.text.toList
  · exact ⟨.nulInPath, fun disk => if_pos (by simpa using noNul)⟩
  · by_cases empty : path.text = ""
    · exact ⟨.system Errno.noEntry, fun disk => by
        rw [find, if_neg (by simpa using noNul), if_pos empty]⟩
    · have long : maxPath ≤ path.text.utf8ByteSize :=
        Nat.le_of_not_lt fun short => illegal ⟨noNul, short⟩
      exact ⟨.system Errno.nameTooLong, fun disk => by
        rw [find, if_neg (by simpa using noNul), if_neg empty, if_pos long]⟩

/-- What an absolute path names depends on what is kept at the places that are asked about. -/
theorem find_congr (absolute : path.isAbsolute = true)
    (agree : ∀ here, disk.LooksAt path here → other.nodes.get? here = disk.nodes.get? here) :
    other.find path = disk.find path := by
  by_cases legal : IsLegal path
  · rw [find_eq_follow other absolute legal, find_eq_follow disk absolute legal,
      follow_congr _ _ _ fun here passes =>
        agree here ⟨legal, [], origin?_of_isAbsolute disk absolute, passes⟩]
  · rcases find_of_not_isLegal legal with ⟨cause, fails⟩
    rw [fails, fails]

theorem has_congr (same : other.find path = disk.find path) : other.has path = disk.has path := by
  rw [has, same]
  rfl

theorem has_of_find {found : Found} (there : disk.find path = .ok found) : disk.has path = true := by
  rw [has, there]

theorem readText_congr (same : other.find path = disk.find path) :
    other.readText path = disk.readText path := by
  unfold readText content
  rw [same]

/-- A look-up that asks about something below a place asks about the place. -/
theorem LooksAt.of_below (looks : disk.LooksAt path below) (absolute : path.isAbsolute = true)
    (nonempty : here ≠ []) (inside : here <+: below) : disk.LooksAt path here := by
  rcases looks with ⟨legal, place, starts, passes⟩
  rw [origin?_of_isAbsolute disk absolute] at starts
  cases starts
  exact ⟨legal, [], origin?_of_isAbsolute disk absolute,
    passes.of_below inside fun before => nonempty (List.prefix_nil.mp before)⟩

/-! ## Places of paths -/

/-- The components of the absolute path with these names. -/
def trail (names : List String) : List Component :=
  .root :: names.map fun name => .name name.toList

/-- Pieces that are read as names say these names. -/
theorem loud_pieces {pieces : List (List Char)} {found : List String}
    (read : pieces.filterMap Component.ofPiece? = found.map fun name => .name name.toList) :
    loud (pieces.map String.ofList) = found ∧ ".." ∉ pieces.map String.ofList := by
  induction pieces generalizing found with
  | nil => exact ⟨(List.map_eq_nil_iff.mp read.symm).symm, List.not_mem_nil⟩
  | cons piece pieces ih =>
      rw [List.map_cons]
      by_cases silent : piece = [] ∨ piece = ['.']
      · have none : Component.ofPiece? piece = none := by
          rcases silent with rfl | rfl <;> rfl
        rw [List.filterMap_cons_none none] at read
        rcases ih read with ⟨same, down⟩
        have mute : isSilent (String.ofList piece) = true := by
          rcases silent with rfl | rfl <;> decide
        refine ⟨by rw [loud_silent mute, same], List.not_mem_cons_of_ne_of_not_mem ?_ down⟩
        intro up
        rw [← up] at mute
        cases mute
      · by_cases up : piece = ['.', '.']
        · have climbs : Component.ofPiece? ['.', '.'] = some .up := rfl
          rw [up, List.filterMap_cons_some climbs] at read
          cases found <;> simp at read
        · have named : Component.ofPiece? piece = some (.name piece) :=
            Path.ofPiece?_of_ne (fun same => silent (.inl same)) (fun same => silent (.inr same)) up
          rw [List.filterMap_cons_some named] at read
          cases found with
          | nil => cases read
          | cons name found =>
              injection read with first later
              injection first with same
              have spelled : String.ofList piece = name := String.ofList_eq.mpr same
              have heard : isSilent name = false := by
                simpa [isSilent, ← spelled, String.ofList_eq, not_or] using silent
              rcases ih later with ⟨said, down⟩
              rw [spelled, loud_cons heard, said]
              refine ⟨rfl, List.not_mem_cons_of_ne_of_not_mem ?_ down⟩
              rintro rfl
              exact up same

/-- The names of an absolute path without `..`. -/
theorem loud_names {found : List String} (absolute : path.isAbsolute = true)
    (read : path.components = trail found) :
    loud (names path.text) = found ∧ ".." ∉ names path.text := by
  rcases List.head?_eq_some_iff.mp (of_decide_eq_true absolute) with ⟨rest, starts⟩
  rw [Path.components, starts] at read
  have said := loud_pieces (List.cons.inj read).2
  have cut : names path.text = "" :: (Text.pieces '/' rest).map String.ofList := by
    rw [names, starts, Text.pieces, if_pos rfl]
    rfl
  rw [cut, loud_silent (by decide)]
  exact ⟨said.1, List.not_mem_cons_of_ne_of_not_mem (by decide) said.2⟩

/-- Without links on the way, the look-up of an absolute path asks about no place but those of its
first names. -/
theorem LooksAt.isPrefix {found : List String} (looks : disk.LooksAt path here)
    (absolute : path.isAbsolute = true) (read : path.components = trail found)
    (straight : disk.Straight found) : here <+: found := by
  rcases loud_names absolute read with ⟨said, down⟩
  rcases looks.passes with ⟨place, starts, passes⟩
  rw [origin?_of_isAbsolute disk absolute] at starts
  cases starts
  rw [← said] at straight ⊢
  exact passes.isPrefix down straight

/-- Without links on the way, an absolute path names the directory at the place of its names. -/
theorem place_of_find {found : List String} (reached : disk.find path = .ok (.directory place))
    (absolute : path.isAbsolute = true) (read : path.components = trail found)
    (straight : disk.Straight found) : place = found := by
  rcases loud_names absolute read with ⟨said, down⟩
  by_cases legal : IsLegal path
  · rw [find_eq_follow disk absolute legal] at reached
    rcases followed : disk.follow maxLinks [] (names path.text) with errno | ended
    · rw [followed] at reached
      cases reached
    · rw [followed] at reached
      cases reached
      rw [← said] at straight ⊢
      exact place_of_follow followed down straight
  · rcases find_of_not_isLegal legal with ⟨cause, fails⟩
    rw [fails] at reached
    cases reached

end Disk

end ScriptHost
