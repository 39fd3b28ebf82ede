import ScriptHost.Toml.Basic
import ScriptHost.Toml.Scalar

/-!
# Reading TOML

A document is a sequence of lines: blank ones and comments, headers that open a
table, and assignments to the table opened last.
-/

namespace ScriptHost.Toml

/-- The characters after blanks, comments and line ends. -/
def skipSpace : Nat → List Char → List Char
  | 0, input => input
  | fuel + 1, input =>
      let rest := skipComment (skipBlank input)
      match newline? rest with
      | some rest => skipSpace fuel rest
      | none => rest

mutual

/-- A value.  Fewer than `depth` brackets and braces may be opened in it. -/
def value (fuel depth : Nat) (input : List Char) : Option (Node × List Char) :=
  match fuel with
  | 0 => none
  | fuel + 1 =>
      match input with
      | '[' :: rest =>
          match depth with
          | 0 => none
          | depth + 1 => do
              let (items, rest) ← arrayItems fuel depth [] rest
              some (.array items, rest)
      | '\x7b' :: rest =>
          match depth with
          | 0 => none
          | depth + 1 =>
              match skipBlank rest with
              | '\x7d' :: rest => some (Draft.braced.node, rest)
              | rest => do
                  let (draft, rest) ← bracedEntries fuel depth .braced rest
                  some (draft.node, rest)
      | 't' :: 'r' :: 'u' :: 'e' :: rest => some (.bool, rest)
      | 'f' :: 'a' :: 'l' :: 's' :: 'e' :: rest => some (.bool, rest)
      | '"' :: _ | '\'' :: _ => (string input).map fun (text, rest) => (.string text, rest)
      | _ =>
          match dateTime input with
          | some ((), rest) => some (.dateTime, rest)
          | none =>
              match float input with
              | some ((), rest) => some (.float, rest)
              | none => (integer input).map fun (n, rest) => (.integer n, rest)

/-- The items of an array after those already read, which are kept in reverse. -/
def arrayItems (fuel depth : Nat) (seen : List Node) (input : List Char) :
    Option (List Node × List Char) :=
  match fuel with
  | 0 => none
  | fuel + 1 =>
      match skipSpace (input.length + 1) input with
      | ']' :: rest => some (seen.reverse, rest)
      | rest => do
          let (item, rest) ← value fuel depth rest
          match skipSpace (rest.length + 1) rest with
          | ',' :: rest => arrayItems fuel depth (item :: seen) rest
          | ']' :: rest => some ((item :: seen).reverse, rest)
          | _ => none

/-- The assignments between braces, all on one line. -/
def bracedEntries (fuel depth : Nat) (draft : Draft) (input : List Char) :
    Option (Draft × List Char) :=
  match fuel with
  | 0 => none
  | fuel + 1 => do
      let (parts, rest) ← key input
      let rest ← expect '=' rest
      let (item, rest) ← value fuel depth (skipBlank rest)
      let draft ← assign draft parts item
      match skipBlank rest with
      | ',' :: rest => bracedEntries fuel depth draft rest
      | '\x7d' :: rest => some (draft, rest)
      | _ => none

end

/-- What has been read of a document: the finished tables and the open one. -/
structure Progress where
  /-- The top of the document, with the tables that are finished. -/
  top : Draft
  /-- The open table. -/
  table : Draft
  /-- The path of the open table; the top itself has none. -/
  path : List String
  /-- Whether the open table is one of a list. -/
  isElement : Bool

/-- The key a path ends in, and the path to its table. -/
def splitPath? (path : List String) : Option (List String × String) :=
  match path.reverse with
  | [] => none
  | last :: leading => some (leading.reverse, last)

/-- Put the open table where its header said. -/
def Progress.finish (progress : Progress) : Option Draft :=
  match splitPath? progress.path with
  | none => some progress.table
  | some (leading, last) =>
      descend false
        (fun parent =>
          match node? last parent.entries with
          | some (.tables elements) =>
              if progress.isElement then
                some { parent with
                       entries := setEntry last (.tables (elements ++ [progress.table.node]))
                         parent.entries }
              else none
          | some (.table making _) =>
              if making.isImplied ∧ !progress.isElement then
                some { parent with entries := setEntry last progress.table.node parent.entries }
              else none
          | some _ => none
          | none =>
              let node :=
                if progress.isElement then .tables [progress.table.node] else progress.table.node
              some { parent with entries := setEntry last node parent.entries })
        leading progress.top

/-- The entries that an opened table starts with: those of the table of that
name if it was only implied.  Any other table of that name is complete. -/
def reach? (path : List String) (top : Draft) : Option (Draft × Draft) := do
  let (leading, last) ← splitPath? path
  let top ← descend false some leading top
  let parent ← tableAt? leading top
  match node? last parent.entries with
  | none => some (.opened, top)
  | some (.table making entries) =>
      if making.isImplied ∧ !making.isDotted ∧ !making.isInline then do
        let top ← descend false
          (fun parent => some { parent with entries := dropEntry last parent.entries })
          leading top
        some ({ Draft.opened with entries }, top)
      else none
  | some _ => none

/-- Open a table by its header. -/
def openTable (progress : Progress) (path : List String) : Option Progress := do
  let top ← progress.finish
  let (table, top) ← reach? path top
  some ⟨top, table, path, false⟩

/-- Open one more table of a list by its header. -/
def openElement (progress : Progress) (path : List String) : Option Progress := do
  let top ← progress.finish
  let (leading, last) ← splitPath? path
  let top ← descend false
    (fun parent =>
      match node? last parent.entries with
      | none => some { parent with entries := setEntry last (.tables []) parent.entries }
      | some (.tables _) => some parent
      | some _ => none)
    leading top
  some ⟨top, .opened, path, true⟩

/-- Read one line. -/
def line (progress : Progress) (input : List Char) : Option (Progress × List Char) :=
  match lineEnd? input with
  | some rest => some (progress, rest)
  | none =>
      match skipBlank input with
      | '[' :: '[' :: rest => do
          let (path, rest) ← key rest
          let rest ← expect ']' rest
          let rest ← expect ']' rest
          let rest ← lineEnd? rest
          let progress ← openElement progress path
          some (progress, rest)
      | '[' :: rest => do
          let (path, rest) ← key rest
          let rest ← expect ']' rest
          let rest ← lineEnd? rest
          let progress ← openTable progress path
          some (progress, rest)
      | rest => do
          let (parts, rest) ← key rest
          let rest ← expect '=' rest
          let (item, rest) ← value (3 * rest.length + 3) (maxNesting - 1) (skipBlank rest)
          let rest ← lineEnd? rest
          let table ← assign progress.table parts item
          some ({ progress with table }, rest)

/-- Read line after line. -/
def lines : Nat → Progress → List Char → Option Draft
  | 0, _, _ => none
  | _ + 1, progress, [] => progress.finish
  | fuel + 1, progress, input => do
      let (progress, rest) ← line progress input
      lines fuel progress rest

/-- The entries of a document; a leading byte order mark is not part of it. -/
def parse? (text : String) : Option Entries :=
  let input :=
    match text.toList with
    | '\uFEFF' :: rest => rest
    | input => input
  (lines (input.length + 1) ⟨.opened, .opened, [], false⟩ input).map Draft.entries

end ScriptHost.Toml
