import ScriptHost.Proofs.Paths.Lexical

/-!
# Resolving dots on a stack

What `Path.normalize` does to a text can be said without texts.  The components of the
path go onto a stack one after another: a `.` says nothing, a `..` takes back a name, is
lost at the root, and stays where there is no name to take back.  The path without dots
is the stack, written with slashes between its components.  It follows that a path without
dots is left as it is, and that a directory may be rid of its dots before something is
joined to it.
-/

namespace ScriptHost

namespace Path

/-! ## Stacks of components -/

/-- What one component does to the stack of those before it. -/
def push (stack : List Component) : Component → List Component
  | .root => [.root]
  | .here => stack
  | .up =>
      match stack.getLast? with
      | some (.name _) => stack.dropLast
      | some .root => stack
      | _ => stack ++ [.up]
  | .name text => stack ++ [.name text]

/-- The stack at which the components of a path arrive. -/
def resolved (path : Path) : List Component :=
  path.components.foldl push []

/-- A stack as the text of a path. -/
def written : List Component → List Char
  | .root :: rest => '/' :: Text.joined '/' (rest.map Component.written)
  | stack => Text.joined '/' (stack.map Component.written)

/-- The stack of some `..` and the names above them. -/
def raised (ups : Nat) (names : List (List Char)) : List Component :=
  List.replicate ups .up ++ names.map .name

/-- The stack of a path without dots: proper names, above the root, or above the `..` that a
relative path starts with. -/
inductive IsStack : List Component → Prop where
  | rooted {names : List (List Char)} (proper : ∀ name ∈ names, IsProper name) :
      IsStack (.root :: names.map .name)
  | relative (ups : Nat) {names : List (List Char)} (proper : ∀ name ∈ names, IsProper name) :
      IsStack (raised ups names)

theorem written_rooted (names : List (List Char)) :
    written (.root :: names.map .name) = rooted names := by
  have same : (names.map Component.name).map Component.written = names := by
    rw [List.map_map]
    exact List.map_id _
  rw [written, same]
  rfl

theorem push_rooted (names : List (List Char)) (component : Component) :
    push (.root :: names.map .name) component = .root :: (walk names component).map .name := by
  cases component with
  | root | here => rfl
  | name text => simp [push, walk]
  | up =>
      rcases List.eq_nil_or_concat' names with rfl | ⟨init, last, rfl⟩
      · rfl
      · rw [push, List.map_append, ← List.cons_append, List.map_singleton, List.getLast?_concat]
        simp only [walk, List.dropLast_concat]

/-! ## Relative texts -/

/-- A run between slashes that is written for a component of a relative path without dots. -/
structure IsSolid (piece : List Char) : Prop where
  nonempty : piece ≠ []
  notHere : piece ≠ ['.']
  noSlash : '/' ∉ piece

theorem IsProper.isSolid {name : List Char} (proper : IsProper name) : IsSolid name :=
  ⟨proper.nonempty, proper.notHere, proper.noSlash⟩

theorem isSolid_up : IsSolid Component.up.written :=
  ⟨by decide, by decide, by decide⟩

variable {pieces : List (List Char)} {last : List Char}

/-- The components of solid pieces with slashes between them. -/
theorem componentsOf_joined (solid : ∀ piece ∈ pieces, IsSolid piece) :
    componentsOf (Text.joined '/' pieces) = pieces.filterMap Component.ofPiece? := by
  cases pieces with
  | nil => rfl
  | cons first others =>
      have cut : Text.pieces '/' (Text.joined '/' (first :: others)) = first :: others :=
        Text.pieces_joined (List.cons_ne_nil first others) fun piece member =>
          (solid piece member).noSlash
      have here := solid first List.mem_cons_self
      unfold componentsOf
      split
      next rest starts =>
        -- A text that starts with a slash has an empty first piece.
        rw [starts, Text.pieces, if_pos rfl] at cut
        exact absurd (List.cons.inj cut).1.symm here.nonempty
      next =>
        rw [cut]
        split
        next rest same => exact absurd (List.cons.inj same).1 here.notHere
        next => rfl

theorem getLast?_joined (solid : ∀ piece ∈ pieces, IsSolid piece) :
    (Text.joined '/' pieces).getLast? ≠ some '/' := by
  rcases List.eq_nil_or_concat' pieces with rfl | ⟨init, last, rfl⟩
  · exact nofun
  · have ends := solid last (List.mem_append_right _ (List.mem_singleton_self last))
    obtain ⟨front, split⟩ : ∃ front, Text.joined '/' (init ++ [last]) = front ++ last := by
      by_cases none : init = []
      · exact ⟨[], by rw [none]; rfl⟩
      · exact ⟨Text.joined '/' init ++ ['/'], by rw [Text.joined_concat none]; simp⟩
    rw [split, List.getLast?_append_of_ne_nil _ ends.nonempty]
    exact fun slash => ends.noSlash (List.mem_of_getLast? slash)

theorem joined_eq_nil (solid : ∀ piece ∈ pieces, IsSolid piece)
    (empty : Text.joined '/' pieces = []) : pieces = [] := by
  match pieces with
  | [] => rfl
  | [piece] => exact absurd empty (solid piece List.mem_cons_self).nonempty
  | first :: second :: others => simp [Text.joined] at empty

/-- Joining a solid piece puts it behind the others. -/
theorem joinText_joined (solid : ∀ piece ∈ pieces, IsSolid piece) (next : IsSolid last) :
    joinText (Text.joined '/' pieces) last = Text.joined '/' (pieces ++ [last]) := by
  have relative : last.head? ≠ some '/' := fun starts =>
    next.noSlash (List.mem_of_mem_head? starts)
  unfold joinText
  rw [if_neg relative]
  by_cases none : pieces = []
  · rw [none]
    rfl
  · have behind : ¬(Text.joined '/' pieces = [] ∨ (Text.joined '/' pieces).getLast? = some '/') := by
      rintro (empty | slash)
      · exact none (joined_eq_nil solid empty)
      · exact getLast?_joined solid slash
    rw [if_neg behind, Text.joined_concat none]

/-- A relative text that ends in a solid piece has nothing silent at its end. -/
theorem dropSilent_solid (solid : IsSolid last) (rest : List Char) :
    dropSilent false (last.reverse ++ rest) = last.reverse ++ rest := by
  have free : '/' ∉ last.reverse := fun member => solid.noSlash (List.mem_reverse.mp member)
  have notHere : last.reverse ≠ ['.'] := fun same => solid.notHere (List.reverse_eq_iff.mp same)
  have nonempty : last.reverse ≠ [] := fun none => solid.nonempty (List.reverse_eq_nil_iff.mp none)
  generalize last.reverse = body at free notHere nonempty ⊢
  rcases body with _ | ⟨first, _ | ⟨second, more⟩⟩
  · exact absurd rfl nonempty
  · simp only [List.mem_singleton, List.cons.injEq, and_true, ne_eq] at free notHere
    simp [dropSilent, Ne.symm free, notHere]
  · simp only [List.mem_cons, not_or] at free
    simp [dropSilent, Ne.symm free.1, Ne.symm free.2.1]

theorem dropSilent_joined (solid : ∀ piece ∈ pieces, IsSolid piece) :
    dropSilent false (Text.joined '/' pieces).reverse = (Text.joined '/' pieces).reverse := by
  rcases List.eq_nil_or_concat' pieces with rfl | ⟨init, last, rfl⟩
  · rfl
  · have ends := solid last (List.mem_append_right _ (List.mem_singleton_self last))
    by_cases none : init = []
    · have silent := dropSilent_solid ends []
      simpa [none, Text.joined] using silent
    · have silent := dropSilent_solid ends ('/' :: (Text.joined '/' init).reverse)
      simpa [Text.joined_concat none] using silent

/-- Taking the parent of a relative text drops the last piece. -/
theorem parentText?_joined (solid : ∀ piece ∈ pieces, IsSolid piece) (ends : IsSolid last) :
    parentText? (Text.joined '/' (pieces ++ [last])) = some (Text.joined '/' pieces) := by
  have free : ∀ c ∈ last.reverse, decide (c ≠ '/') = true := by
    rintro c member
    refine decide_eq_true ?_
    rintro rfl
    exact ends.noSlash (List.mem_reverse.mp member)
  have all : ∀ piece ∈ pieces ++ [last], IsSolid piece := by
    intro piece member
    rcases List.mem_append.mp member with before | same
    · exact solid piece before
    · rw [List.mem_singleton.mp same]
      exact ends
  have still := dropSilent_joined all
  have filled : (Text.joined '/' (pieces ++ [last])).reverse ≠ [] := by
    rw [ne_eq, List.reverse_eq_nil_iff]
    exact fun empty => List.concat_ne_nil last pieces (joined_eq_nil all empty)
  have behind : dropSilent false
      ((Text.joined '/' (pieces ++ [last])).reverse.dropWhile (· ≠ '/')) =
        (Text.joined '/' pieces).reverse := by
    by_cases none : pieces = []
    · have gone : last.reverse.dropWhile (· ≠ '/') = [] := List.dropWhile_eq_nil_iff.mpr free
      rw [none]
      change dropSilent false (last.reverse.dropWhile (· ≠ '/')) = _
      rw [gone]
      rfl
    · have reversed : (Text.joined '/' (pieces ++ [last])).reverse =
          last.reverse ++ '/' :: (Text.joined '/' pieces).reverse := by
        rw [Text.joined_concat none]
        simp
      have cut : (last.reverse ++ '/' :: (Text.joined '/' pieces).reverse).dropWhile (· ≠ '/') =
          '/' :: (Text.joined '/' pieces).reverse := by
        rw [List.dropWhile_append_of_pos free]
        exact List.dropWhile_cons_of_neg (by simp)
      rw [reversed, cut, dropSilent, dropSilent_joined solid]
  have dropped : dropLast? false (Text.joined '/' (pieces ++ [last])).reverse =
      some (Text.joined '/' pieces).reverse := by
    unfold dropLast?
    rw [still]
    split
    next empty => exact absurd empty filled
    next => rw [behind]
  unfold parentText?
  split
  next rest starts =>
    -- The text does not start with a slash, since its first piece is not empty.
    have cut := Text.pieces_joined (List.concat_ne_nil last pieces) fun piece member =>
      (all piece member).noSlash
    rw [starts, Text.pieces, if_pos rfl] at cut
    exact absurd rfl (all [] (cut ▸ List.mem_cons_self)).nonempty
  next => rw [dropped, Option.map_some, List.reverse_reverse]

/-! ## Resolving on the text and on the stack -/

variable {stack : List Component}

theorem written_raised (ups : Nat) (names : List (List Char)) :
    written (raised ups names) =
      Text.joined '/' (List.replicate ups Component.up.written ++ names) := by
  have same : (raised ups names).map Component.written =
      List.replicate ups Component.up.written ++ names := by
    rw [raised, List.map_append, List.map_replicate, List.map_map]
    exact congrArg _ (List.map_id names)
  rw [← same]
  cases ups with
  | zero => cases names <;> rfl
  | succ ups => rfl

theorem isSolid_raised (ups : Nat) {names : List (List Char)}
    (proper : ∀ name ∈ names, IsProper name) :
    ∀ piece ∈ List.replicate ups Component.up.written ++ names, IsSolid piece := by
  intro piece member
  rcases List.mem_append.mp member with up | name
  · rw [List.eq_of_mem_replicate up]
    exact isSolid_up
  · exact (proper piece name).isSolid

/-- What is written for a stack has the components of the stack. -/
theorem componentsOf_written (shape : IsStack stack) : componentsOf (written stack) = stack := by
  cases shape with
  | rooted proper => rw [written_rooted, componentsOf_rooted proper]
  | @relative ups names proper =>
      have read : names.filterMap Component.ofPiece? = names.map Component.name := by
        rw [← List.filterMap_eq_map]
        exact List.filterMap_congr fun name member => (proper name member).ofPiece?
      have up : Component.ofPiece? Component.up.written = some .up := rfl
      rw [written_raised, componentsOf_joined (isSolid_raised ups proper),
        List.filterMap_append, List.filterMap_replicate_of_some up, read]
      rfl

section Relative

variable {ups : Nat} {names : List (List Char)}

theorem push_name (text : List Char) :
    push (raised ups names) (.name text) = raised ups (names ++ [text]) := by
  simp [push, raised]

theorem push_up_of_name (last : List Char) :
    push (raised ups (names ++ [last])) .up = raised ups names := by
  have top : (raised ups (names ++ [last])).getLast? = some (.name last) := by
    rw [raised, List.map_append, ← List.append_assoc]
    exact List.getLast?_concat
  rw [push, top]
  simp only [raised, List.map_append, List.map_singleton, ← List.append_assoc,
    List.dropLast_concat]

/-- Where there is no name to take back, one more `..` is kept. -/
theorem push_up_of_none : push (raised ups []) .up = raised (ups + 1) [] := by
  cases ups with
  | zero => rfl
  | succ ups => simp [push, raised, List.replicate_succ']

theorem settle_name (proper : ∀ name ∈ names, IsProper name) {text : List Char}
    (next : IsProper text) :
    settle (written (raised ups names)) (.name text) = written (raised ups (names ++ [text])) := by
  change joinText _ text = _
  rw [written_raised, written_raised,
    joinText_joined (isSolid_raised ups proper) next.isSolid, List.append_assoc]

theorem settle_up_of_name (proper : ∀ name ∈ names, IsProper name) (ends : IsProper last) :
    settle (written (raised ups (names ++ [last]))) .up = written (raised ups names) := by
  have all : ∀ name ∈ names ++ [last], IsProper name := by
    intro name member
    rcases List.mem_append.mp member with before | same
    · exact proper name before
    · rw [List.mem_singleton.mp same]
      exact ends
  have top : (componentsOf (written (raised ups (names ++ [last])))).getLast? = some (.name last) := by
    rw [componentsOf_written (.relative ups all), raised, List.map_append, ← List.append_assoc]
    exact List.getLast?_concat
  have parent := parentText?_joined (isSolid_raised ups proper) ends.isSolid
  rw [List.append_assoc, ← written_raised, ← written_raised] at parent
  rw [settle, top]
  exact congrArg (Option.getD · _) parent

theorem settle_up_of_none :
    settle (written (raised ups [])) .up = written (raised (ups + 1) []) := by
  have joined : joinText (written (raised ups [])) Component.up.written =
      written (raised (ups + 1) []) := by
    rw [written_raised, written_raised,
      joinText_joined (isSolid_raised ups (by simp)) isSolid_up, List.append_nil,
      List.append_nil, ← List.replicate_succ']
  have read : componentsOf (written (raised ups [])) = raised ups [] :=
    componentsOf_written (.relative ups (by simp))
  rw [settle, read, ← joined]
  cases ups with
  | zero => rfl
  | succ ups =>
      have top : (raised (ups + 1) []).getLast? = some .up := by
        simp [raised, List.replicate_succ']
      rw [top]
      rfl

end Relative

/-- A component is resolved on the text as it is on the stack, and what comes of it is a
stack again. -/
theorem settle_written (shape : IsStack stack) {component : Component}
    (known : ∀ name, component = .name name → IsProper name) :
    settle (written stack) component = written (push stack component) ∧
      IsStack (push stack component) := by
  cases shape with
  | rooted proper =>
      rw [push_rooted, written_rooted, written_rooted, settle_rooted proper known]
      exact ⟨rfl, .rooted (isProper_walk proper known)⟩
  | @relative ups names proper =>
      cases component with
      | root => exact ⟨rfl, @IsStack.rooted [] (by simp)⟩
      | here => exact ⟨rfl, .relative ups proper⟩
      | name text =>
          have next := known text rfl
          rw [push_name, settle_name proper next]
          refine ⟨rfl, .relative ups fun name member => ?_⟩
          rcases List.mem_append.mp member with before | same
          · exact proper name before
          · rw [List.mem_singleton.mp same]
            exact next
      | up =>
          rcases List.eq_nil_or_concat' names with rfl | ⟨init, last, rfl⟩
          · rw [push_up_of_none, settle_up_of_none]
            exact ⟨rfl, .relative (ups + 1) (by simp)⟩
          · have inside : ∀ name ∈ init, IsProper name := fun name member =>
              proper name (List.mem_append_left _ member)
            have ends := proper last (List.mem_append_right _ (List.mem_singleton_self last))
            rw [push_up_of_name, settle_up_of_name inside ends]
            exact ⟨rfl, .relative ups inside⟩

/-- Components are resolved on the text as they are on the stack. -/
theorem foldl_settle_written {parts : List Component} (shape : IsStack stack)
    (known : ∀ name, Component.name name ∈ parts → IsProper name) :
    parts.foldl settle (written stack) = written (parts.foldl push stack) ∧
      IsStack (parts.foldl push stack) := by
  induction parts generalizing stack with
  | nil => exact ⟨rfl, shape⟩
  | cons component rest ih =>
      have settled := settle_written shape fun name same => known name (same ▸ List.mem_cons_self)
      rw [List.foldl_cons, List.foldl_cons, settled.1]
      exact ih settled.2 fun name member => known name (List.mem_cons_of_mem _ member)

theorem isStack_nil : IsStack [] :=
  @IsStack.relative 0 [] (by simp)

theorem isStack_resolved (path : Path) : IsStack path.resolved :=
  (foldl_settle_written isStack_nil fun _ => isProper_of_mem).2

/-- A path without dots is the stack of its components, written. -/
theorem normalize_eq (path : Path) : path.normalize = ⟨String.ofList (written path.resolved)⟩ := by
  have settled : path.components.foldl settle (written []) = written path.resolved :=
    (foldl_settle_written isStack_nil fun _ => isProper_of_mem).1
  exact congrArg (fun text => Path.mk (String.ofList text)) settled

theorem components_normalize (path : Path) : path.normalize.components = path.resolved := by
  rw [normalize_eq, components, String.toList_ofList, componentsOf_written path.isStack_resolved]

/-! ## Stacks stay as they are -/

theorem foldl_push_names (names : List (List Char)) (below : List Component) :
    (names.map Component.name).foldl push below = below ++ names.map .name := by
  induction names generalizing below with
  | nil => simp
  | cons name rest ih => simp [push, ih]

theorem foldl_push_ups (ups : Nat) :
    (List.replicate ups Component.up).foldl push [] = List.replicate ups .up := by
  induction ups with
  | zero => rfl
  | succ ups ih =>
      have next : push (raised ups []) .up = raised (ups + 1) [] := push_up_of_none
      rw [List.replicate_succ', List.foldl_append, ih, ← List.replicate_succ']
      simpa [raised] using next

/-- Putting the components of a stack onto nothing gives the stack. -/
theorem foldl_push_of_isStack (shape : IsStack stack) : stack.foldl push [] = stack := by
  cases shape with
  | rooted proper => exact foldl_push_names _ [.root]
  | relative ups proper => rw [raised, List.foldl_append, foldl_push_ups, foldl_push_names]

theorem resolved_normalize (path : Path) : path.normalize.resolved = path.resolved := by
  rw [resolved, components_normalize, foldl_push_of_isStack path.isStack_resolved]

theorem normalize_normalize (path : Path) : path.normalize.normalize = path.normalize := by
  rw [normalize_eq, resolved_normalize, ← normalize_eq]

theorem here_not_mem_of_isStack (shape : IsStack stack) : .here ∉ stack := by
  cases shape <;> simp [raised]

/-- A stack with a `..` has no root, and only others are below it. -/
theorem ups_below_of_isStack (shape : IsStack stack) {below above : List Component}
    (split : stack = below ++ .up :: above) :
    .root ∉ stack ∧ ∀ component ∈ below, component = .up := by
  have member : Component.up ∈ below ++ .up :: above := by simp
  cases shape with
  | rooted proper =>
      rw [← split] at member
      simp at member
  | @relative ups names proper =>
      refine ⟨by simp [raised], ?_⟩
      rcases List.append_eq_append_iff.mp split with ⟨between, -, rest⟩ | ⟨between, same, -⟩
      · -- The `..` would be one of the names.
        have among : Component.up ∈ names.map .name := by
          rw [rest]
          simp
        simp at among
      · intro component inside
        refine List.eq_of_mem_replicate (n := ups) ?_
        rw [same]
        exact List.mem_append_left _ inside

/-! ## Texts and their pieces -/

/-- The components of a text apart from the root and a leading dot. -/
def parts (text : List Char) : List Component :=
  (Text.pieces '/' text).filterMap Component.ofPiece?

/-- The stack on which the parts of a text are put. -/
def bottom (text : List Char) : List Component :=
  if text.head? = some '/' then [.root] else []

theorem root_not_mem_parts (text : List Char) : .root ∉ parts text := by
  intro member
  rcases List.mem_filterMap.mp member with ⟨piece, -, read⟩
  unfold Component.ofPiece? at read
  split at read <;> cases read

theorem foldl_push_componentsOf (text : List Char) :
    (componentsOf text).foldl push [] = (parts text).foldl push (bottom text) := by
  unfold componentsOf parts bottom
  split
  next rest =>
    rw [List.head?_cons, if_pos rfl, Text.pieces, if_pos rfl,
      List.filterMap_cons_none (by rfl : Component.ofPiece? [] = none)]
    rfl
  next _ relative =>
    have starts : text.head? ≠ some '/' := by
      intro slash
      rcases List.head?_eq_some_iff.mp slash with ⟨rest, split⟩
      exact relative rest split
    rw [if_neg starts]
    split
    next rest cut =>
      rw [cut]
      rfl
    next => rfl

theorem resolved_eq (path : Path) :
    path.resolved = (parts path.text.toList).foldl push (bottom path.text.toList) :=
  foldl_push_componentsOf path.text.toList

theorem foldl_push_rooted (components : List Component) (names : List (List Char)) :
    components.foldl push (.root :: names.map .name) =
      .root :: (components.foldl walk names).map .name := by
  induction components generalizing names with
  | nil => rfl
  | cons component rest ih => rw [List.foldl_cons, List.foldl_cons, push_rooted, ih]

theorem root_mem_of_push {component : Component} (member : .root ∈ push stack component) :
    .root ∈ stack ∨ component = .root := by
  cases component with
  | root => exact .inr rfl
  | here => exact .inl member
  | name text => exact .inl (by simpa [push] using member)
  | up =>
      rw [push] at member
      split at member
      · exact .inl (List.dropLast_subset _ member)
      · exact .inl member
      · exact .inl (by simpa using member)

theorem root_mem_of_foldl_push {components : List Component}
    (member : .root ∈ components.foldl push stack) : .root ∈ stack ∨ .root ∈ components := by
  induction components generalizing stack with
  | nil => exact .inl member
  | cons component rest ih =>
      rcases ih member with pushed | later
      · rcases root_mem_of_push pushed with below | same
        · exact .inl below
        · exact .inr (same ▸ List.mem_cons_self)
      · exact .inr (List.mem_cons_of_mem _ later)

/-- Only the stack of an absolute path has a root. -/
theorem root_mem_resolved_iff (path : Path) :
    .root ∈ path.resolved ↔ path.isAbsolute = true := by
  rw [resolved_eq, isAbsolute, decide_eq_true_iff]
  constructor
  · intro member
    rcases root_mem_of_foldl_push member with below | among
    · unfold bottom at below
      split at below
      next slash => exact slash
      next => cases below
    · exact absurd among (root_not_mem_parts _)
  · intro slash
    rw [bottom, if_pos slash]
    exact foldl_push_rooted _ [] ▸ List.mem_cons_self

/-- Only what is written for a stack with a root starts with a slash. -/
theorem head?_written (shape : IsStack stack) :
    (written stack).head? = some '/' ↔ .root ∈ stack := by
  cases shape with
  | rooted proper =>
      rw [written_rooted]
      exact iff_of_true rfl List.mem_cons_self
  | @relative ups names proper =>
      refine iff_of_false (fun slash => ?_) (by simp [raised])
      have read := componentsOf_written (.relative ups proper)
      rcases List.head?_eq_some_iff.mp slash with ⟨rest, starts⟩
      have among : Component.root ∈ raised ups names := by
        rw [← read, starts]
        exact List.mem_cons_self
      simp [raised] at among

theorem isAbsolute_normalize (path : Path) : path.normalize.isAbsolute = path.isAbsolute := by
  have starts : path.normalize.isAbsolute = true ↔ path.isAbsolute = true := by
    rw [← root_mem_resolved_iff path, ← head?_written path.isStack_resolved, normalize_eq, isAbsolute,
      String.toList_ofList, decide_eq_true_iff]
  exact Bool.eq_iff_iff.mpr starts

/-! ## Joined paths -/

theorem parts_append_slash (base right : List Char) :
    parts (base ++ '/' :: right) = parts base ++ parts right := by
  rw [parts, Text.pieces_append_cons, List.filterMap_append]
  rfl

/-- Relative text that is joined puts its parts onto the stack of the base. -/
theorem resolved_join (base : Path) {specifier : String}
    (relative : specifier.toList.head? ≠ some '/') :
    (base.join specifier).resolved = (parts specifier.toList).foldl push base.resolved := by
  rw [resolved_eq, resolved_eq base, join, String.toList_ofList, joinText, if_neg relative]
  rcases List.eq_nil_or_concat' base.text.toList with empty | ⟨init, last, ends⟩
  · rw [empty, if_pos (.inl rfl), List.nil_append, bottom, if_neg relative]
    rfl
  · have nonempty : base.text.toList ≠ [] := by
      rw [ends]
      exact List.concat_ne_nil last init
    have starts (right : List Char) : bottom (base.text.toList ++ right) = bottom base.text.toList := by
      rw [bottom, List.head?_append_of_ne_nil _ nonempty]
      rfl
    rw [← List.foldl_append]
    split
    next slash =>
      have closing : base.text.toList = init ++ ['/'] := by
        have same := slash.resolve_left nonempty
        rw [ends, List.getLast?_concat] at same
        rw [ends, Option.some.inj same]
      have silent : parts (init ++ ['/']) = parts init :=
        (parts_append_slash init []).trans (List.append_nil _)
      rw [starts, closing, silent, List.append_assoc, List.singleton_append, parts_append_slash]
    next => rw [starts, parts_append_slash]

/-- A directory may be rid of its dots before something is joined to it. -/
theorem normalize_join (base : Path) (specifier : String) :
    (base.join specifier).normalize = (base.normalize.join specifier).normalize := by
  by_cases absolute : specifier.toList.head? = some '/'
  · simp only [join, joinText, if_pos absolute]
  · rw [normalize_eq, normalize_eq (base.normalize.join specifier), resolved_join base absolute,
      resolved_join base.normalize absolute, resolved_normalize]

/-! ## The law -/

/-- The path without dots is the stack at which the components of a path arrive, written with
slashes between them, and has the components on that stack.  It starts at the root just if
the path does.  It has no `.`, and a `..` only where the path is relative and nothing but
others comes before.  It is left as it is, and a directory may be replaced by it. -/
theorem normalize_resolves_on_a_stack :
    (∀ path : Path,
      path.normalize = ⟨String.ofList (written path.resolved)⟩ ∧
      path.normalize.components = path.resolved ∧
      path.normalize.isAbsolute = path.isAbsolute ∧
      .here ∉ path.normalize.components ∧
      (∀ below above, path.normalize.components = below ++ .up :: above →
        path.isAbsolute = false ∧ ∀ component ∈ below, component = .up) ∧
      path.normalize.normalize = path.normalize) ∧
    ∀ (base : Path) (specifier : String),
      (base.join specifier).normalize = (base.normalize.join specifier).normalize := by
  refine ⟨fun path => ?_, normalize_join⟩
  have shape := path.isStack_resolved
  refine ⟨path.normalize_eq, path.components_normalize, path.isAbsolute_normalize, ?_, ?_,
    path.normalize_normalize⟩
  · rw [components_normalize]
    exact here_not_mem_of_isStack shape
  · intro below above split
    rw [components_normalize] at split
    rcases ups_below_of_isStack shape split with ⟨rootless, ups⟩
    exact ⟨Bool.eq_false_iff.mpr fun absolute =>
      rootless ((root_mem_resolved_iff path).mpr absolute), ups⟩

end Path

end ScriptHost
