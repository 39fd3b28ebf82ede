import ScriptHost.Proofs.Paths.Normal

/-!
# What a specifier leads to

Seen from an absolute directory, a specifier is resolved by a walk over the components of
the directory and then over its own: a root starts again, a `..` takes back a name.  The
text is joined and cut in between, but no trailing slash, repeated slash or dot of it has
any part in where the walk arrives.  If the specifier has the extension of a file module,
then the walk ends with a name, and the name has that extension.
-/

namespace ScriptHost

/-! ## Last pieces -/

namespace Text

variable {sep : Char} {text rest last : List Char}

/-- A text ends with its last piece, and before it there is a separator or nothing. -/
theorem exists_last_piece (sep : Char) (text : List Char) :
    ∃ init last, pieces sep text = init ++ [last] ∧ sep ∉ last ∧
      (text = last ∨ ∃ front, text = front ++ sep :: last) := by
  induction text with
  | nil => exact ⟨[], [], rfl, List.not_mem_nil, .inl rfl⟩
  | cons c text ih =>
      rcases ih with ⟨init, last, cut, free, ends⟩
      by_cases same : c = sep
      · refine ⟨[] :: init, last, by rw [pieces, if_pos same, cut]; rfl, free, .inr ?_⟩
        rcases ends with rfl | ⟨front, rfl⟩
        · exact ⟨[], by rw [same]; rfl⟩
        · exact ⟨c :: front, rfl⟩
      · rcases ends with rfl | ⟨front, rfl⟩
        · rw [pieces_of_not_mem free] at cut
          have whole : sep ∉ c :: text := by simp [free, Ne.symm same]
          exact ⟨[], c :: text, pieces_of_not_mem whole, whole, .inl rfl⟩
        · refine ⟨pieces sep (c :: front), last, ?_, free, .inr ⟨c :: front, rfl⟩⟩
          rw [← List.cons_append, pieces_append_cons, pieces_of_not_mem free]

theorem lastPiece_eq (cut : ∃ init, pieces sep text = init ++ [last]) :
    lastPiece sep (String.ofList text) = String.ofList last := by
  rcases cut with ⟨init, cut⟩
  rw [lastPiece, String.toList_ofList, cut, List.getLastD_concat]

theorem lastPiece_append_cons (front : List Char) (free : sep ∉ last) :
    lastPiece sep (String.ofList (front ++ sep :: last)) = String.ofList last :=
  lastPiece_eq ⟨pieces sep front, by rw [pieces_append_cons, pieces_of_not_mem free]⟩

end Text

/-! ## Extensions -/

namespace Specifier

/-- An extension that has no slash is the extension of the last segment. -/
theorem extension_of_last {front last : List Char}
    (free : '/' ∉ (extension (String.ofList (front ++ '/' :: last))).toList) :
    extension (String.ofList last) = extension (String.ofList (front ++ '/' :: last)) := by
  rcases Text.exists_last_piece '.' last with ⟨-, piece, -, noDot, rfl | ⟨before, rfl⟩⟩
  · -- Without a dot in the last segment the extension would begin before the slash.
    rcases Text.exists_last_piece '.' (front ++ '/' :: last) with ⟨init, whole, cut, -, ends⟩
    rw [extension, Text.lastPiece_eq ⟨init, cut⟩, String.toList_ofList] at free
    refine absurd ?_ free
    rcases ends with rfl | ⟨before, split⟩
    · simp
    · rcases List.append_eq_append_iff.mp split with ⟨between, -, rest⟩ | ⟨between, -, rest⟩
      · cases between with
        | nil => cases rest
        | cons c between =>
            rw [List.cons_append] at rest
            injection rest with _ rest
            rw [rest] at noDot
            simp at noDot
      · cases between with
        | nil => cases rest
        | cons c between =>
            rw [List.cons_append] at rest
            injection rest with _ rest
            rw [rest]
            simp
  · rw [extension, extension, Text.lastPiece_append_cons before noDot, ← List.cons_append,
      ← List.append_assoc, Text.lastPiece_append_cons _ noDot]

/-- A specifier of a file module ends with a proper name that has its extension. -/
theorem exists_last_name {specifier : String} {kind : ModuleKind}
    (file : ModuleKind.ofExtension? (extension specifier) = some kind) :
    ∃ init last, Text.pieces '/' specifier.toList = init ++ [last] ∧ Path.IsProper last ∧
      extension (String.ofList last) = extension specifier := by
  rcases Text.exists_last_piece '/' specifier.toList with ⟨init, last, cut, free, ends⟩
  have short : extension specifier = "js" ∨ extension specifier = "json" := by
    unfold ModuleKind.ofExtension? at file
    split at file
    next same => exact .inl same
    next same => exact .inr same
    next => cases file
  have noSlash : '/' ∉ (extension specifier).toList := by
    rcases short with same | same <;> rw [same] <;> decide
  have extended : extension (String.ofList last) = extension specifier := by
    rcases ends with whole | ⟨front, split⟩
    · rw [← whole, String.ofList_toList]
    · have written : specifier = String.ofList (front ++ '/' :: last) := by
        rw [← split, String.ofList_toList]
      rw [written] at noSlash ⊢
      exact extension_of_last noSlash
  -- A name that is silent has no extension.
  have named : extension (String.ofList last) ≠ "" := by
    rw [extended]
    rcases short with same | same <;> rw [same] <;> decide
  refine ⟨init, last, cut, ⟨?_, ?_, ?_, free⟩, extended⟩
  all_goals
    rintro rfl
    exact named (by decide +kernel)

end Specifier

namespace Path

variable {names : List (List Char)} {base : Path} {specifier : String}

/-- The names at which a specifier arrives that is seen from a directory. -/
def lexical (base : Path) (specifier : String) : List (List Char) :=
  (base.components ++ (Path.mk specifier).components).foldl walk []

/-- A walk over a text is one over its pieces, and at the root it starts again. -/
theorem foldl_walk_componentsOf (text : List Char) (names : List (List Char)) :
    (componentsOf text).foldl walk names =
      ((Text.pieces '/' text).filterMap Component.ofPiece?).foldl walk
        (if text.head? = some '/' then [] else names) := by
  unfold componentsOf
  split
  next rest =>
    rw [List.head?_cons, if_pos rfl, Text.pieces, if_pos rfl,
      List.filterMap_cons_none (by rfl : Component.ofPiece? [] = none)]
    rfl
  next _ relative =>
    have starts : text.head? ≠ some '/' := by
      intro slash
      rcases List.head?_eq_some_iff.mp slash with ⟨rest, split⟩
      exact relative rest split
    rw [if_neg starts]
    split
    next rest cut =>
      rw [cut]
      rfl
    next => rfl

/-- The components of an absolute text. -/
theorem componentsOf_slash (text : List Char) :
    componentsOf ('/' :: text) = .root :: (Text.pieces '/' text).filterMap Component.ofPiece? :=
  rfl

/-- Text that is appended after a slash brings its own components. -/
theorem componentsOf_append_slash (base right : List Char) :
    componentsOf ('/' :: base ++ '/' :: right) =
      componentsOf ('/' :: base) ++ (Text.pieces '/' right).filterMap Component.ofPiece? := by
  rw [List.cons_append, componentsOf_slash, componentsOf_slash, Text.pieces_append_cons,
    List.filterMap_append, List.cons_append]

/-- A slash at the end says nothing. -/
theorem componentsOf_concat_slash (base : List Char) :
    componentsOf ('/' :: base ++ ['/']) = componentsOf ('/' :: base) := by
  rw [componentsOf_append_slash]
  exact List.append_nil _

/-- Relative text that is joined to absolute text brings its own components. -/
theorem componentsOf_joinText {text right : List Char} (absolute : text.head? = some '/')
    (relative : right.head? ≠ some '/') :
    componentsOf (joinText text right) =
      componentsOf text ++ (Text.pieces '/' right).filterMap Component.ofPiece? := by
  rcases List.head?_eq_some_iff.mp absolute with ⟨rest, rfl⟩
  unfold joinText
  rw [if_neg relative]
  split
  next ends =>
    rcases List.eq_nil_or_concat' rest with rfl | ⟨init, last, rfl⟩
    · rfl
    · have slash : last = '/' := by
        rw [← List.cons_append, List.getLast?_concat] at ends
        simpa using ends
      rw [slash, ← List.cons_append, componentsOf_concat_slash, ← componentsOf_append_slash]
      simp
  next => exact componentsOf_append_slash rest right

/-- The dots of a joined path are resolved by a walk over the components of both parts. -/
theorem foldl_walk_join (absolute : base.isAbsolute = true) :
    (base.join specifier).components.foldl walk [] = lexical base specifier := by
  have starts : base.text.toList.head? = some '/' := of_decide_eq_true absolute
  unfold lexical join components
  rw [String.toList_ofList, List.foldl_append, foldl_walk_componentsOf specifier.toList]
  by_cases slash : specifier.toList.head? = some '/'
  · rw [joinText, if_pos slash, if_pos slash, foldl_walk_componentsOf, if_pos slash]
  · rw [componentsOf_joinText starts slash, List.foldl_append, if_neg slash]

/-- What is seen from an absolute directory is the absolute path of the names at which the
walk arrives. -/
theorem resolve_eq_rooted (absolute : base.isAbsolute = true) (specifier : String) :
    base.resolve specifier = ⟨String.ofList (rooted (lexical base specifier))⟩ ∧
      ∀ name ∈ lexical base specifier, IsProper name := by
  have normal := normalize_of_isAbsolute (isAbsolute_join absolute specifier)
  rw [foldl_walk_join absolute] at normal
  exact ⟨congrArg Path.mk normal.1, normal.2⟩

/-- Two specifiers lead to one key exactly if they arrive at the same names. -/
theorem components_resolve (absolute : base.isAbsolute = true) :
    (base.resolve specifier).components = .root :: (lexical base specifier).map .name := by
  rcases resolve_eq_rooted absolute specifier with ⟨written, proper⟩
  rw [written, components, String.toList_ofList, componentsOf_rooted proper]

/-- A specifier of a file module leads to a name that has its extension. -/
theorem lexical_of_file (base : Path) {kind : ModuleKind}
    (file : ModuleKind.ofExtension? (Specifier.extension specifier) = some kind) :
    ∃ names last, lexical base specifier = names ++ [last] ∧
      Specifier.extension (String.ofList last) = Specifier.extension specifier := by
  rcases Specifier.exists_last_name file with ⟨init, last, cut, proper, extended⟩
  have walked : lexical base specifier = ((init ++ [last]).filterMap Component.ofPiece?).foldl walk
      (if specifier.toList.head? = some '/' then [] else base.components.foldl walk []) := by
    rw [← cut, ← foldl_walk_componentsOf, lexical, List.foldl_append]
    rfl
  rw [List.filterMap_append, List.filterMap_cons_some proper.ofPiece?, List.filterMap_nil,
    List.foldl_append] at walked
  exact ⟨_, last, walked, extended⟩

end Path

end ScriptHost
