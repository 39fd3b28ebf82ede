import ScriptHost.Proofs.Paths.Resolving

/-!
# Ancestors of absolute paths

The parent of a path is cut out of its text, and the text may hold repeated slashes, dots and
slashes at its end.  None of these has a part in which directory the parent is: the components
of an absolute path are those of its parent and one more, and only the root has no parent.  The
text of the parent is shorter, so going from parent to parent comes to the root.
-/

namespace ScriptHost

namespace Path

variable {last : List Char} {path : Path}

/-! ## What is silent at the end of a text -/

/-- A solid piece is read as one component. -/
theorem IsSolid.exists_parts (solid : IsSolid last) : ∃ component, parts last = [component] := by
  rw [parts, Text.pieces_of_not_mem solid.noSlash]
  by_cases up : last = ['.', '.']
  · exact ⟨.up, by rw [up]; rfl⟩
  · have proper : IsProper last := ⟨solid.nonempty, solid.notHere, up, solid.noSlash⟩
    exact ⟨.name last, List.filterMap_cons_some proper.ofPiece?⟩

/-- What is dropped from the end of a text names nothing. -/
theorem parts_dropSilent (body : List Char) :
    parts (dropSilent true body).reverse = parts body.reverse := by
  fun_induction dropSilent true body with
  | case1 rest ih =>
      rw [ih, List.reverse_cons, parts_append_slash]
      exact (List.append_nil _).symm
  | case2 => rfl
  | case3 => contradiction
  | case4 rest ih =>
      rw [ih, List.reverse_cons, List.reverse_cons, List.append_assoc, List.singleton_append,
        parts_append_slash]
      exact (List.append_nil _).symm
  | case5 => rfl

theorem length_dropSilent_le (body : List Char) : (dropSilent true body).length ≤ body.length := by
  fun_induction dropSilent true body with
  | case1 rest ih => exact ih.trans (Nat.le_succ _)
  | case2 => exact Nat.zero_le _
  | case3 => contradiction
  | case4 rest ih => exact ih.trans (Nat.le_add_right _ 2)
  | case5 => exact Nat.le_refl _

/-- What is left of a text ends in a solid piece. -/
theorem dropSilent_eq_nil_or (body : List Char) :
    dropSilent true body = [] ∨ ∃ last rest, IsSolid last ∧
      dropSilent true body = last.reverse ++ rest ∧ (rest = [] ∨ ∃ front, rest = '/' :: front) := by
  fun_induction dropSilent true body with
  | case1 rest ih => exact ih
  | case2 => exact .inl rfl
  | case3 => contradiction
  | case4 rest ih => exact ih
  | case5 body noSlash notDot noDot =>
      rcases Text.exists_last_piece '/' body.reverse with ⟨-, last, -, free, whole | ⟨front, split⟩⟩
      · by_cases empty : last = []
        · exact .inl (List.reverse_eq_nil_iff.mp (whole.trans empty))
        · have written : body = last.reverse := List.reverse_eq_iff.mp whole
          refine .inr ⟨last, [], ⟨empty, ?_, free⟩, written.trans (List.append_nil _).symm, .inl rfl⟩
          rintro rfl
          exact notDot written
      · have written : body = last.reverse ++ '/' :: front.reverse :=
          (List.reverse_eq_iff.mp split).trans (by simp)
        refine .inr ⟨last, _, ⟨?_, ?_, free⟩, written, .inr ⟨front.reverse, rfl⟩⟩
        · rintro rfl
          exact noSlash _ written
        · rintro rfl
          exact noDot _ written

/-! ## Parents -/

/-- A text without its last component is shorter, and has the parts before the last. -/
theorem dropLast?_cases (body : List Char) :
    (dropLast? true body = none ∧ parts body.reverse = []) ∨
      ∃ shorter component, dropLast? true body = some shorter ∧ shorter.length < body.length ∧
        parts body.reverse = parts shorter.reverse ++ [component] := by
  rcases dropSilent_eq_nil_or body with empty | ⟨last, rest, solid, left, cut⟩
  · refine .inl ⟨by rw [dropLast?, empty], ?_⟩
    rw [← parts_dropSilent, empty]
    rfl
  · rcases solid.exists_parts with ⟨component, read⟩
    have nonempty : last.reverse ++ rest ≠ [] := by simp [solid.nonempty]
    have behind : (last.reverse ++ rest).dropWhile (· ≠ '/') = rest := by
      have free : ∀ c ∈ last.reverse, decide (c ≠ '/') = true := fun c member =>
        decide_eq_true fun same => solid.noSlash (same ▸ List.mem_reverse.mp member)
      rw [List.dropWhile_append_of_pos free]
      rcases cut with rfl | ⟨front, rfl⟩
      · rfl
      · exact List.dropWhile_cons_of_neg (by simp)
    refine .inr ⟨dropSilent true rest, component, ?_, ?_, ?_⟩
    · rw [dropLast?, left]
      split
      next none => exact absurd none nonempty
      next => rw [behind]
    · have shorter := length_dropSilent_le body
      have filled := List.length_pos_iff.mpr solid.nonempty
      have before := length_dropSilent_le rest
      rw [left, List.length_append, List.length_reverse] at shorter
      omega
    · rw [parts_dropSilent, ← parts_dropSilent body, left, List.reverse_append, List.reverse_reverse,
        ← read]
      rcases cut with rfl | ⟨front, rfl⟩
      · rfl
      · have silent : parts (front.reverse ++ ['/']) = parts front.reverse :=
          (parts_append_slash front.reverse []).trans (List.append_nil _)
        rw [List.reverse_cons, List.append_assoc, List.singleton_append, parts_append_slash, silent]

theorem parentText?_slash (text : List Char) :
    parentText? ('/' :: text) =
      (dropLast? true text.reverse).map fun body => '/' :: body.reverse :=
  rfl

/-- An absolute path is the root, or has one component more than its parent and a longer text. -/
theorem parent?_cases (absolute : path.isAbsolute = true) :
    (path.parent? = none ∧ path.components = [.root]) ∨
      ∃ parent component, path.parent? = some parent ∧ parent.text.length < path.text.length ∧
        path.components = parent.components ++ [component] := by
  rcases List.head?_eq_some_iff.mp (of_decide_eq_true absolute) with ⟨rest, starts⟩
  have read : path.components = .root :: parts rest := by
    rw [components, starts]
    rfl
  rcases dropLast?_cases rest.reverse with ⟨none, empty⟩ | ⟨shorter, component, cut, less, split⟩
  · rw [List.reverse_reverse] at empty
    refine .inl ⟨?_, by rw [read, empty]⟩
    rw [parent?, starts, parentText?_slash, none]
    rfl
  · rw [List.reverse_reverse] at split
    rw [List.length_reverse] at less
    refine .inr ⟨⟨String.ofList ('/' :: shorter.reverse)⟩, component, ?_, ?_, ?_⟩
    · rw [parent?, starts, parentText?_slash, cut]
      rfl
    · rw [← String.length_toList, ← String.length_toList, starts, String.toList_ofList]
      simpa using less
    · rw [read, split, components, String.toList_ofList]
      rfl

end Path

end ScriptHost
