/-!
# Cutting text at a separator

`pieces sep text` lists the runs between the occurrences of `sep`, so a text
with `n` separators has `n + 1` pieces, empty ones included.  `joined` puts a
separator between neighbours again and undoes the cut.
-/

namespace ScriptHost.Text

/-- The runs of `text` between occurrences of `sep`, in order. -/
def pieces (sep : Char) : List Char → List (List Char)
  | [] => [[]]
  | c :: rest =>
      if c = sep then
        [] :: pieces sep rest
      else
        match pieces sep rest with
        | [] => [[c]]
        | piece :: others => (c :: piece) :: others

/-- Write the pieces one after another with `sep` between neighbours. -/
def joined (sep : Char) : List (List Char) → List Char
  | [] => []
  | [piece] => piece
  | piece :: others => piece ++ sep :: joined sep others

/-- The part after the last `sep`, or everything when there is none. -/
def lastPiece (sep : Char) (text : String) : String :=
  String.ofList ((pieces sep text.toList).getLastD [])

theorem pieces_ne_nil (sep : Char) (text : List Char) : pieces sep text ≠ [] := by
  cases text with
  | nil => simp [pieces]
  | cons c rest =>
      unfold pieces
      split
      · simp
      · split <;> simp

theorem joined_pieces (sep : Char) (text : List Char) :
    joined sep (pieces sep text) = text := by
  induction text with
  | nil => rfl
  | cons c rest ih =>
      have nonempty := pieces_ne_nil sep rest
      unfold pieces
      split
      · next same =>
          cases cut : pieces sep rest with
          | nil => exact absurd cut nonempty
          | cons piece others => rw [cut] at ih; simp [joined, ih, same]
      · cases cut : pieces sep rest with
        | nil => exact absurd cut nonempty
        | cons piece others =>
            rw [cut] at ih
            cases others <;> simp_all [joined]

end ScriptHost.Text
