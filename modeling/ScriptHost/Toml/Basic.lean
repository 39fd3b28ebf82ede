/-!
# TOML documents

The tree behind a TOML text.  A table remembers how it came to be, because that
decides whether a later line may add to it: a table opened by its own header or
written inline is complete, one that only exists because something below it was
named may still be opened or extended.
-/

namespace ScriptHost.Toml

/-- How a table came to be. -/
structure Making where
  /-- Written between braces, as a value. -/
  isInline : Bool
  /-- Only named on the way to something below it. -/
  isImplied : Bool
  /-- Named by a dotted key. -/
  isDotted : Bool
deriving DecidableEq, Repr, Inhabited

/-- A TOML value. -/
inductive Node where
  | integer (value : Int)
  | string (value : String)
  | dateTime
  | float
  | bool
  | array (items : List Node)
  | table (making : Making) (entries : List (String × Node))
  /-- The tables of headers in double brackets. -/
  | tables (elements : List Node)
deriving Inhabited

/-- The entries of a table. -/
abbrev Entries := List (String × Node)

/-- The value at a key. -/
def node? (key : String) : Entries → Option Node
  | [] => none
  | (other, node) :: rest => if other = key then some node else node? key rest

/-- Replace the value at a key, or add one. -/
def setEntry (key : String) (node : Node) : Entries → Entries
  | [] => [(key, node)]
  | (other, old) :: rest =>
      if other = key then (key, node) :: rest else (other, old) :: setEntry key node rest

/-- The entries without a key. -/
def dropEntry (key : String) : Entries → Entries
  | [] => []
  | (other, node) :: rest =>
      if other = key then dropEntry key rest else (other, node) :: dropEntry key rest

/-- A table under construction. -/
structure Draft where
  /-- How it came to be. -/
  making : Making
  /-- Its entries so far. -/
  entries : Entries
deriving Inhabited

/-- A table opened by its own header, or the top of a document. -/
def Draft.opened : Draft := ⟨⟨false, false, false⟩, []⟩

/-- A table between braces. -/
def Draft.braced : Draft := ⟨⟨true, false, false⟩, []⟩

/-- The finished table. -/
def Draft.node (draft : Draft) : Node := .table draft.making draft.entries

/-- Change the table that a path leads to, making the tables on the way.  A
dotted key may only pass through tables that are implied; the way through a
list of tables is through its last one. -/
def descend (dotted : Bool) (change : Draft → Option Draft) : List String → Draft → Option Draft
  | [], draft => change draft
  | key :: rest, draft =>
      match node? key draft.entries with
      | none => do
          let child ← descend dotted change rest
            ⟨⟨draft.making.isInline, true, dotted⟩, []⟩
          some { draft with entries := setEntry key child.node draft.entries }
      | some (.table making entries) =>
          if making.isInline ≠ draft.making.isInline then none
          else if dotted ∧ !making.isImplied then none
          else do
            let child ← descend dotted change rest ⟨making, entries⟩
            some { draft with entries := setEntry key child.node draft.entries }
      | some (.tables elements) =>
          match elements.reverse with
          | .table making entries :: earlier => do
              let child ← descend dotted change rest ⟨making, entries⟩
              some { draft with
                     entries := setEntry key (.tables (child.node :: earlier).reverse)
                       draft.entries }
          | _ => none
      | some _ => none

/-- The table that a path leads to, through the last table of each list. -/
def tableAt? : List String → Draft → Option Draft
  | [], draft => some draft
  | key :: rest, draft =>
      match node? key draft.entries with
      | some (.table making entries) => tableAt? rest ⟨making, entries⟩
      | some (.tables elements) =>
          match elements.getLast? with
          | some (.table making entries) => tableAt? rest ⟨making, entries⟩
          | _ => none
      | _ => none

/-- Set a key, given by its parts, that is not set yet.  A dotted key belongs in
a table made by dotted keys, a bare one in any other. -/
def assign (draft : Draft) (key : List String) (value : Node) : Option Draft :=
  match key.reverse with
  | [] => none
  | last :: leading =>
      descend true
        (fun table =>
          if table.making.isDotted = leading.isEmpty then none
          else if (node? last table.entries).isSome then none
          else some { table with entries := setEntry last value table.entries })
        leading.reverse draft

end ScriptHost.Toml
