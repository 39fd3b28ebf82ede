import Mathlib.Data.List.Basic
import Mathlib.Data.List.TakeWhile
import ScriptHost.Module.Specifier

/-!
# Absolute paths without dots

An absolute path whose dots have been resolved is a slash and proper names with slashes
between them.  On such a path the operations on texts do what they do on lists of names:
joining a name appends it, taking the parent drops the last name.  So resolving the dots
of an absolute path is a walk over its components that keeps a list of names.
-/

namespace ScriptHost

namespace Text

/-- No piece contains the separator. -/
theorem not_mem_of_mem_pieces {sep : Char} {text piece : List Char}
    (member : piece ∈ pieces sep text) : sep ∉ piece := by
  induction text generalizing piece with
  | nil =>
      rw [List.mem_singleton.mp member]
      exact List.not_mem_nil
  | cons c rest ih =>
      unfold pieces at member
      split at member
      next same =>
        rcases List.mem_cons.mp member with rfl | member
        · exact List.not_mem_nil
        · exact ih member
      next different =>
        split at member
        next cut => exact absurd cut (pieces_ne_nil sep rest)
        next first others cut =>
          rw [cut] at ih
          rcases List.mem_cons.mp member with rfl | member
          · exact List.not_mem_cons_of_ne_of_not_mem (Ne.symm different) (ih List.mem_cons_self)
          · exact ih (List.mem_cons_of_mem _ member)

theorem pieces_of_not_mem {sep : Char} {text : List Char} (free : sep ∉ text) :
    pieces sep text = [text] := by
  induction text with
  | nil => rfl
  | cons c rest ih =>
      rw [pieces, if_neg (Ne.symm (List.ne_of_not_mem_cons free)),
        ih (List.not_mem_of_not_mem_cons free)]

/-- The pieces of two texts with a separator between them. -/
theorem pieces_append_cons (sep : Char) (text rest : List Char) :
    pieces sep (text ++ sep :: rest) = pieces sep text ++ pieces sep rest := by
  induction text with
  | nil => simp [pieces]
  | cons c text ih =>
      rw [List.cons_append, pieces, pieces]
      split
      · rw [ih, List.cons_append]
      · rw [ih]
        cases cut : pieces sep text with
        | nil => exact absurd cut (pieces_ne_nil sep text)
        | cons piece others => rfl

/-- Pieces are found again after they were joined. -/
theorem pieces_joined {sep : Char} {texts : List (List Char)} (nonempty : texts ≠ [])
    (free : ∀ text ∈ texts, sep ∉ text) : pieces sep (joined sep texts) = texts := by
  induction texts with
  | nil => exact absurd rfl nonempty
  | cons text others ih =>
      have first : sep ∉ text := free text List.mem_cons_self
      cases others with
      | nil => exact pieces_of_not_mem first
      | cons other others =>
          have rest := ih (List.cons_ne_nil other others) fun text member =>
            free text (List.mem_cons_of_mem _ member)
          rw [joined, pieces_append_cons, pieces_of_not_mem first, rest]
          · rfl
          · exact List.cons_ne_nil other others

theorem joined_concat {sep : Char} {texts : List (List Char)} (nonempty : texts ≠ [])
    (last : List Char) : joined sep (texts ++ [last]) = joined sep texts ++ sep :: last := by
  induction texts with
  | nil => exact absurd rfl nonempty
  | cons text others ih =>
      cases others with
      | nil => rfl
      | cons other others =>
          have rest := ih (List.cons_ne_nil other others)
          simp only [List.cons_append, joined, List.append_assoc] at rest ⊢
          rw [rest]

end Text

namespace Path

/-- A name that is neither empty nor made of one or two dots, and has no slash. -/
structure IsProper (name : List Char) : Prop where
  nonempty : name ≠ []
  notHere : name ≠ ['.']
  notUp : name ≠ ['.', '.']
  noSlash : '/' ∉ name

/-- The text of the absolute path with these names. -/
def rooted (names : List (List Char)) : List Char :=
  '/' :: Text.joined '/' names

/-- What a component does to the names of an absolute path. -/
def walk (names : List (List Char)) : Component → List (List Char)
  | .root => []
  | .here => names
  | .up => names.dropLast
  | .name text => names ++ [text]

theorem ofPiece?_of_ne {piece : List Char} (nonempty : piece ≠ []) (notHere : piece ≠ ['.'])
    (notUp : piece ≠ ['.', '.']) : Component.ofPiece? piece = some (.name piece) := by
  unfold Component.ofPiece?
  split
  next => exact absurd rfl nonempty
  next => exact absurd rfl notHere
  next => exact absurd rfl notUp
  next => rfl

theorem IsProper.ofPiece? {name : List Char} (proper : IsProper name) :
    Component.ofPiece? name = some (.name name) :=
  ofPiece?_of_ne proper.nonempty proper.notHere proper.notUp

/-- A piece that is read as a name is a proper one. -/
theorem isProper_of_ofPiece? {piece name : List Char} (free : '/' ∉ piece)
    (read : Component.ofPiece? piece = some (.name name)) : IsProper name := by
  unfold Component.ofPiece? at read
  split at read
  next => cases read
  next => cases read
  next => cases read
  next =>
    cases read
    constructor <;> assumption

/-- The names in a path are proper. -/
theorem isProper_of_mem {path : Path} {name : List Char}
    (member : Component.name name ∈ path.components) : IsProper name := by
  have ofPieces {text : List Char} {pieces : List (List Char)}
      (among : ∀ piece ∈ pieces, piece ∈ Text.pieces '/' text)
      (found : Component.name name ∈ pieces.filterMap Component.ofPiece?) : IsProper name := by
    obtain ⟨piece, inside, read⟩ := List.mem_filterMap.mp found
    exact isProper_of_ofPiece? (Text.not_mem_of_mem_pieces (among piece inside)) read
  unfold components componentsOf at member
  split at member
  next rest =>
    rcases List.mem_cons.mp member with impossible | found
    · cases impossible
    · exact ofPieces (fun _ inside => inside) found
  next =>
    split at member
    next rest cut =>
      rcases List.mem_cons.mp member with impossible | found
      · cases impossible
      · exact ofPieces (fun piece inside => cut ▸ List.mem_cons_of_mem _ inside) found
    next => exact ofPieces (fun _ inside => inside) member

variable {names : List (List Char)}

/-- The components of an absolute path without dots. -/
theorem componentsOf_rooted (proper : ∀ name ∈ names, IsProper name) :
    componentsOf (rooted names) = .root :: names.map .name := by
  have pieces : (Text.pieces '/' (Text.joined '/' names)).filterMap Component.ofPiece? =
      names.map .name := by
    by_cases none : names = []
    · rw [none]
      rfl
    · rw [Text.pieces_joined none fun name member => (proper name member).noSlash,
        ← List.filterMap_eq_map]
      exact List.filterMap_congr fun name member => (proper name member).ofPiece?
  exact congrArg (Component.root :: ·) pieces

/-- Joining a name appends it. -/
theorem joinText_rooted (proper : ∀ name ∈ names, IsProper name) {name : List Char}
    (next : IsProper name) : joinText (rooted names) name = rooted (names ++ [name]) := by
  have first : name.head? ≠ some '/' := fun starts =>
    next.noSlash (List.mem_of_mem_head? starts)
  unfold joinText
  rw [if_neg first]
  rcases List.eq_nil_or_concat' names with rfl | ⟨init, last, rfl⟩
  · rfl
  · -- A path that has names does not end in a slash.
    have open' : ¬(rooted (init ++ [last]) = [] ∨
        (rooted (init ++ [last])).getLast? = some '/') := by
      have lastProper := proper last (List.mem_append_right _ (List.mem_singleton_self last))
      obtain ⟨front, split⟩ : ∃ front, rooted (init ++ [last]) = front ++ last := by
        by_cases none : init = []
        · exact ⟨['/'], by rw [none]; rfl⟩
        · exact ⟨'/' :: Text.joined '/' init ++ ['/'], by
            rw [rooted, Text.joined_concat none]; simp⟩
      rw [split, List.getLast?_append_of_ne_nil _ lastProper.nonempty]
      rintro (empty | slash)
      · exact lastProper.nonempty (List.append_eq_nil_iff.mp empty).2
      · exact lastProper.noSlash (List.mem_of_getLast? slash)
    have nonempty : init ++ [last] ≠ [] := List.concat_ne_nil last init
    rw [if_neg open', rooted, rooted, Text.joined_concat nonempty]
    rfl

/-- A text that ends in a proper name has nothing silent at its end. -/
theorem dropSilent_reverse {name : List Char} (proper : IsProper name) (rest : List Char) :
    dropSilent true (name.reverse ++ rest) = name.reverse ++ rest := by
  have free : '/' ∉ name.reverse := fun member => proper.noSlash (List.mem_reverse.mp member)
  have notHere : name.reverse ≠ ['.'] := fun same => proper.notHere (List.reverse_eq_iff.mp same)
  have nonempty : name.reverse ≠ [] := fun none => proper.nonempty (List.reverse_eq_nil_iff.mp none)
  generalize name.reverse = body at free notHere nonempty ⊢
  rcases body with _ | ⟨first, _ | ⟨second, more⟩⟩
  · exact absurd rfl nonempty
  · simp only [List.mem_singleton, List.cons.injEq, and_true, ne_eq] at free notHere
    simp [dropSilent, Ne.symm free, notHere]
  · simp only [List.mem_cons, not_or] at free
    simp [dropSilent, Ne.symm free.1, Ne.symm free.2.1]

/-- Taking the parent drops the last name. -/
theorem parentText?_rooted {last : List Char} (proper : ∀ name ∈ names, IsProper name)
    (lastProper : IsProper last) : parentText? (rooted (names ++ [last])) = some (rooted names) := by
  have free : ∀ c ∈ last.reverse, decide (c ≠ '/') = true := by
    rintro c member
    refine decide_eq_true ?_
    rintro rfl
    exact lastProper.noSlash (List.mem_reverse.mp member)
  by_cases none : names = []
  · have silent := dropSilent_reverse lastProper []
    rw [List.append_nil] at silent
    have rest : last.reverse.dropWhile (· ≠ '/') = [] := List.dropWhile_eq_nil_iff.mpr free
    have nonempty : last.reverse ≠ [] := List.reverse_ne_nil_iff.mpr lastProper.nonempty
    simp only [none, rooted, List.nil_append, Text.joined, parentText?, dropLast?, silent, rest]
    cases reversed : last.reverse with
    | nil => exact absurd reversed nonempty
    | cons => rfl
  · have silent := dropSilent_reverse lastProper ('/' :: (Text.joined '/' names).reverse)
    have rest : (last.reverse ++ '/' :: (Text.joined '/' names).reverse).dropWhile (· ≠ '/') =
        '/' :: (Text.joined '/' names).reverse := by
      rw [List.dropWhile_append_of_pos free]
      exact List.dropWhile_cons_of_neg (by simp)
    have still : dropSilent true (Text.joined '/' names).reverse =
        (Text.joined '/' names).reverse := by
      obtain ⟨init, before, rfl⟩ := (List.eq_nil_or_concat' names).resolve_left none
      have beforeProper := proper before (List.mem_append_right _ (List.mem_singleton_self before))
      by_cases alone : init = []
      · have := dropSilent_reverse beforeProper []
        simpa [alone, Text.joined] using this
      · have := dropSilent_reverse beforeProper ('/' :: (Text.joined '/' init).reverse)
        simpa [Text.joined_concat alone] using this
    have reversed : (Text.joined '/' (names ++ [last])).reverse =
        last.reverse ++ '/' :: (Text.joined '/' names).reverse := by
      rw [Text.joined_concat none]
      simp
    simp only [rooted, parentText?, dropLast?, reversed, silent]
    split
    next body => exact absurd body (by simp)
    next =>
      rw [rest]
      simp [dropSilent, still]

/-- Resolving one component walks one step. -/
theorem settle_rooted (proper : ∀ name ∈ names, IsProper name) {component : Component}
    (known : ∀ name, component = .name name → IsProper name) :
    settle (rooted names) component = rooted (walk names component) := by
  cases component with
  | root => rfl
  | here => rfl
  | name text => exact joinText_rooted proper (known text rfl)
  | up =>
      rw [settle, componentsOf_rooted proper]
      rcases List.eq_nil_or_concat' names with rfl | ⟨init, last, rfl⟩
      · rfl
      · have inside : ∀ name ∈ init, IsProper name := fun name member =>
          proper name (List.mem_append_left _ member)
        have ends := proper last (List.mem_append_right _ (List.mem_singleton_self last))
        rw [List.map_append, ← List.cons_append, List.map_singleton, List.getLast?_concat]
        simp only [parentText?_rooted inside ends, Option.getD_some, walk, List.dropLast_concat]

theorem isProper_walk (proper : ∀ name ∈ names, IsProper name) {component : Component}
    (known : ∀ name, component = .name name → IsProper name) :
    ∀ name ∈ walk names component, IsProper name := by
  cases component with
  | root => simp [walk]
  | here => exact proper
  | up => exact fun name member => proper name (List.dropLast_subset _ member)
  | name text =>
      intro name member
      rcases List.mem_append.mp member with member | same
      · exact proper name member
      · rw [List.mem_singleton.mp same]
        exact known text rfl

/-- Resolving components is a walk. -/
theorem foldl_settle {parts : List Component} (proper : ∀ name ∈ names, IsProper name)
    (known : ∀ name, Component.name name ∈ parts → IsProper name) :
    parts.foldl settle (rooted names) = rooted (parts.foldl walk names) ∧
      ∀ name ∈ parts.foldl walk names, IsProper name := by
  induction parts generalizing names with
  | nil => exact ⟨rfl, proper⟩
  | cons component rest ih =>
      have here (name : List Char) (same : component = .name name) : IsProper name :=
        known name (same ▸ List.mem_cons_self)
      rw [List.foldl_cons, List.foldl_cons, settle_rooted proper here]
      exact ih (isProper_walk proper here) fun name member =>
        known name (List.mem_cons_of_mem _ member)

theorem components_of_isAbsolute {path : Path} (absolute : path.isAbsolute = true) :
    ∃ rest, path.components = .root :: rest := by
  obtain ⟨rest, starts⟩ := List.head?_eq_some_iff.mp (of_decide_eq_true absolute)
  exact ⟨_, by rw [components, starts]; rfl⟩

/-- An absolute path without dots has the names at which the walk over its components
arrives. -/
theorem normalize_of_isAbsolute {path : Path} (absolute : path.isAbsolute = true) :
    path.normalize.text = String.ofList (rooted (path.components.foldl walk [])) ∧
      ∀ name ∈ path.components.foldl walk [], IsProper name := by
  obtain ⟨rest, starts⟩ := components_of_isAbsolute absolute
  have known (name : List Char) (member : Component.name name ∈ rest) : IsProper name :=
    isProper_of_mem (starts ▸ List.mem_cons_of_mem _ member : Component.name name ∈ path.components)
  have none : ∀ name ∈ ([] : List (List Char)), IsProper name := by simp
  have walked := foldl_settle none known
  rw [normalize, starts]
  exact ⟨congrArg String.ofList walked.1, walked.2⟩

theorem isAbsolute_join {base : Path} (absolute : base.isAbsolute = true) (right : String) :
    (base.join right).isAbsolute = true := by
  obtain ⟨rest, starts⟩ := List.head?_eq_some_iff.mp (of_decide_eq_true absolute)
  refine decide_eq_true ?_
  rw [join, String.toList_ofList, joinText, starts]
  split
  next slash => exact slash
  next =>
    split
    · rfl
    · rfl

/-- What is seen from an absolute path is an absolute path without dots. -/
theorem resolve_of_isAbsolute {base : Path} (absolute : base.isAbsolute = true)
    (specifier : String) : ∃ names, (∀ name ∈ names, IsProper name) ∧
      base.resolve specifier = ⟨String.ofList (rooted names)⟩ := by
  obtain ⟨text, proper⟩ := normalize_of_isAbsolute (isAbsolute_join absolute specifier)
  exact ⟨_, proper, congrArg Path.mk text⟩

theorem isAbsolute_rooted (names : List (List Char)) :
    (Path.mk (String.ofList (rooted names))).isAbsolute = true := by
  refine decide_eq_true ?_
  rw [String.toList_ofList]
  rfl

/-- The parent of an absolute path is one. -/
theorem isAbsolute_parent? {path parent : Path} (absolute : path.isAbsolute = true)
    (found : path.parent? = some parent) : parent.isAbsolute = true := by
  obtain ⟨rest, starts⟩ := List.head?_eq_some_iff.mp (of_decide_eq_true absolute)
  obtain ⟨text, above, rfl⟩ := Option.map_eq_some_iff.mp found
  rw [starts] at above
  obtain ⟨body, -, rfl⟩ := Option.map_eq_some_iff.mp above
  refine decide_eq_true ?_
  rw [String.toList_ofList]
  rfl

end Path

end ScriptHost
