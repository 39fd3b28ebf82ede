/-!
# Finite tables

A table is a list of keyed entries in the order in which the keys were first
inserted.  `Table.get?` is its view: each operation below comes with the
equation that says what it does to that view.
-/

namespace ScriptHost

universe u v

/-- A finite map that remembers the order of its keys. -/
structure Table (κ : Type u) (α : Type v) where
  /-- The entries, oldest key first. -/
  entries : List (κ × α)
deriving Repr

namespace Table

variable {κ : Type u} {α : Type v} [DecidableEq κ]

/-- The first entry of a list at a key. -/
def lookup (key : κ) : List (κ × α) → Option α
  | [] => none
  | (other, value) :: rest => if other = key then some value else lookup key rest

/-- Replace the entry at a key, or append one. -/
def place (key : κ) (value : α) : List (κ × α) → List (κ × α)
  | [] => [(key, value)]
  | (other, old) :: rest =>
      if other = key then (key, value) :: rest else (other, old) :: place key value rest

/-- The list without its entries at a key. -/
def without (key : κ) : List (κ × α) → List (κ × α)
  | [] => []
  | (other, value) :: rest =>
      if other = key then without key rest else (other, value) :: without key rest

omit [DecidableEq κ] in
/-- The table without entries. -/
def empty : Table κ α := ⟨[]⟩

instance : Inhabited (Table κ α) := ⟨empty⟩

/-- The value at a key. -/
def get? (table : Table κ α) (key : κ) : Option α :=
  lookup key table.entries

/-- Whether a key has a value. -/
def contains (table : Table κ α) (key : κ) : Bool :=
  (table.get? key).isSome

/-- The table with the value at a key set. -/
def insert (table : Table κ α) (key : κ) (value : α) : Table κ α :=
  ⟨place key value table.entries⟩

/-- The table without a key. -/
def erase (table : Table κ α) (key : κ) : Table κ α :=
  ⟨without key table.entries⟩

/-- The table with the value at a key changed, if there is one. -/
def modify (table : Table κ α) (key : κ) (change : α → α) : Table κ α :=
  match table.get? key with
  | some value => table.insert key (change value)
  | none => table

omit [DecidableEq κ] in
/-- Every value changed, given its key. -/
def mapValues (table : Table κ α) (change : κ → α → α) : Table κ α :=
  ⟨table.entries.map fun (key, value) => (key, change key value)⟩

omit [DecidableEq κ] in
/-- The keys, oldest first. -/
def keys (table : Table κ α) : List κ :=
  table.entries.map Prod.fst

omit [DecidableEq κ] in
/-- The values, oldest key first. -/
def values (table : Table κ α) : List α :=
  table.entries.map Prod.snd

omit [DecidableEq κ] in
/-- The number of entries. -/
def size (table : Table κ α) : Nat :=
  table.entries.length

/-- The keys of a table of names, in order. -/
def names (table : Table String α) : List String :=
  table.keys.mergeSort fun first second => decide (first ≤ second)

/-- The table with the entries inserted one after another. -/
def ofList (entries : List (κ × α)) : Table κ α :=
  entries.foldl (fun table (key, value) => table.insert key value) empty

/-! ## What the operations do to the view -/

@[simp]
theorem get?_empty (key : κ) : (empty : Table κ α).get? key = none :=
  rfl

theorem lookup_place (key other : κ) (value : α) (entries : List (κ × α)) :
    lookup other (place key value entries) =
      if key = other then some value else lookup other entries := by
  induction entries with
  | nil => rfl
  | cons entry rest ih =>
      obtain ⟨entryKey, old⟩ := entry
      by_cases same : entryKey = key
      · subst same
        by_cases here : entryKey = other <;> simp [place, lookup, here]
      · by_cases here : entryKey = other
        · subst here
          simp [place, lookup, same, Ne.symm same]
        · simp [place, lookup, same, here, ih]

theorem lookup_without (key other : κ) (entries : List (κ × α)) :
    lookup other (without key entries) =
      if key = other then none else lookup other entries := by
  induction entries with
  | nil => simp [without, lookup]
  | cons entry rest ih =>
      obtain ⟨entryKey, old⟩ := entry
      by_cases same : entryKey = key
      · subst same
        by_cases here : entryKey = other
        · simp [without, here, here ▸ ih]
        · simp [without, lookup, here, ih]
      · by_cases here : entryKey = other
        · subst here
          simp [without, lookup, same, Ne.symm same]
        · simp [without, lookup, same, here, ih]

@[simp]
theorem get?_insert (table : Table κ α) (key other : κ) (value : α) :
    (table.insert key value).get? other = if key = other then some value else table.get? other :=
  lookup_place key other value table.entries

theorem place_of_lookup {key : κ} {value : α} {entries : List (κ × α)}
    (found : lookup key entries = some value) : place key value entries = entries := by
  induction entries with
  | nil => cases found
  | cons entry rest ih =>
      obtain ⟨entryKey, old⟩ := entry
      by_cases same : entryKey = key
      · rw [lookup, if_pos same] at found
        rw [place, if_pos same, same, Option.some.inj found]
      · rw [lookup, if_neg same] at found
        rw [place, if_neg same, ih found]

/-- A change that does not change the value changes nothing. -/
theorem modify_of_get? {table : Table κ α} {key : κ} {value : α} {change : α → α}
    (found : table.get? key = some value) (same : change value = value) :
    table.modify key change = table := by
  rw [modify, found]
  dsimp only
  rw [same, insert, place_of_lookup found]

@[simp]
theorem get?_erase (table : Table κ α) (key other : κ) :
    (table.erase key).get? other = if key = other then none else table.get? other :=
  lookup_without key other table.entries

theorem get?_modify (table : Table κ α) (key other : κ) (change : α → α) :
    (table.modify key change).get? other =
      if key = other then (table.get? other).map change else table.get? other := by
  unfold modify
  cases found : table.get? key with
  | none =>
      by_cases same : key = other
      · subst same; simp [found]
      · simp [same]
  | some value =>
      by_cases same : key = other
      · subst same; simp [found]
      · simp [same]

@[simp]
theorem get?_mapValues (table : Table κ α) (key : κ) (change : κ → α → α) :
    (table.mapValues change).get? key = (table.get? key).map (change key) := by
  unfold mapValues get?
  induction table.entries with
  | nil => rfl
  | cons entry rest ih =>
      obtain ⟨entryKey, value⟩ := entry
      by_cases here : entryKey = key
      · subst here
        simp [lookup]
      · simp [lookup, here, ih]

theorem mem_values {table : Table κ α} {key : κ} {value : α}
    (found : table.get? key = some value) : value ∈ table.values := by
  unfold get? at found
  unfold values
  generalize table.entries = entries at found
  induction entries with
  | nil => cases found
  | cons entry rest ih =>
      rw [List.map_cons]
      by_cases here : entry.1 = key
      · rw [lookup, if_pos here] at found
        exact List.mem_cons.mpr (.inl (Option.some.inj found).symm)
      · rw [lookup, if_neg here] at found
        exact List.mem_cons_of_mem _ (ih found)

theorem get?_of_size_zero {table : Table κ α} (empty : table.size = 0) (key : κ) :
    table.get? key = none := by
  have nothing : table.entries = [] := List.eq_nil_of_length_eq_zero empty
  unfold get?
  rw [nothing]
  rfl

theorem mem_keys_iff (table : Table κ α) (key : κ) :
    key ∈ table.keys ↔ ∃ value, table.get? key = some value := by
  unfold get? keys
  induction table.entries with
  | nil => simp [lookup]
  | cons entry rest ih =>
      rw [List.map_cons, List.mem_cons, ih]
      by_cases here : entry.1 = key
      · rw [lookup, if_pos here]
        exact ⟨fun _ => ⟨entry.2, rfl⟩, fun _ => .inl here.symm⟩
      · rw [lookup, if_neg here]
        exact or_iff_right (Ne.symm here)

/-! ## What the operations do to the values -/

theorem lookup_eq_none_iff {entries : List (κ × α)} {key : κ} :
    lookup key entries = none ↔ key ∉ entries.map Prod.fst := by
  have there := mem_keys_iff ⟨entries⟩ key
  unfold get? keys at there
  rw [there]
  cases lookup key entries <;> simp

theorem place_of_absent {entries : List (κ × α)} {key : κ} (value : α)
    (absent : lookup key entries = none) : place key value entries = entries ++ [(key, value)] := by
  induction entries with
  | nil => rfl
  | cons entry rest ih =>
      by_cases here : entry.1 = key
      · simp [lookup, here] at absent
      · rw [lookup, if_neg here] at absent
        rw [place, if_neg here, ih absent, List.cons_append]

theorem without_of_absent {entries : List (κ × α)} {key : κ}
    (absent : lookup key entries = none) : without key entries = entries := by
  induction entries with
  | nil => rfl
  | cons entry rest ih =>
      by_cases here : entry.1 = key
      · simp [lookup, here] at absent
      · rw [lookup, if_neg here] at absent
        rw [without, if_neg here, ih absent]

theorem without_sublist (key : κ) (entries : List (κ × α)) :
    (without key entries).Sublist entries := by
  induction entries with
  | nil => exact .slnil
  | cons entry rest ih =>
      rw [without]
      split
      · exact ih.cons _
      · exact ih.cons_cons _

/-- A table with one value for each key has one still when a key is erased or set. -/
theorem nodup_keys_erase {table : Table κ α} (distinct : table.keys.Nodup) (key : κ) :
    (table.erase key).keys.Nodup :=
  ((without_sublist key table.entries).map Prod.fst).nodup distinct

theorem keys_insert_of_mem {table : Table κ α} {key : κ} (value : α) (there : key ∈ table.keys) :
    (table.insert key value).keys = table.keys := by
  unfold keys insert at *
  generalize table.entries = entries at there ⊢
  induction entries with
  | nil => cases there
  | cons entry rest ih =>
      by_cases here : entry.1 = key
      · simp [place, here]
      · have later := (List.mem_cons.mp there).resolve_left (Ne.symm here)
        rw [place, if_neg here, List.map_cons, ih later, List.map_cons]

theorem nodup_keys_insert {table : Table κ α} (distinct : table.keys.Nodup) (key : κ) (value : α) :
    (table.insert key value).keys.Nodup := by
  by_cases there : key ∈ table.keys
  · rw [keys_insert_of_mem value there]
    exact distinct
  · have absent := lookup_eq_none_iff.mpr there
    unfold insert keys
    rw [place_of_absent value absent, List.map_append]
    refine List.nodup_append.mpr ⟨distinct, List.pairwise_singleton _ _, ?_⟩
    rintro old member new added rfl
    rw [List.mem_singleton.mp added] at member
    exact there member

/-- What is set at a key takes the place of what was there. -/
theorem values_insert_perm {table : Table κ α} (distinct : table.keys.Nodup) (key : κ) (value : α) :
    (table.insert key value).values.Perm (value :: (table.erase key).values) := by
  unfold keys at distinct
  unfold insert erase values
  generalize table.entries = entries at distinct ⊢
  induction entries with
  | nil => exact .refl _
  | cons entry rest ih =>
      rw [List.map_cons, List.nodup_cons] at distinct
      by_cases here : entry.1 = key
      · subst here
        have absent := lookup_eq_none_iff.mpr distinct.1
        simp only [place, without, if_pos, without_of_absent absent]
        exact .refl _
      · simp only [place, without, if_neg here, List.map_cons]
        exact ((ih distinct.2).cons _).trans (.swap _ _ _)

theorem values_perm {table : Table κ α} (distinct : table.keys.Nodup) {key : κ} {value : α}
    (found : table.get? key = some value) :
    table.values.Perm (value :: (table.erase key).values) := by
  have same : table.insert key value = table := by
    rw [insert, place_of_lookup found]
  have split := values_insert_perm distinct key value
  rwa [same] at split

theorem values_insert_of_absent {table : Table κ α} {key : κ} (absent : table.get? key = none)
    (value : α) : (table.insert key value).values = table.values ++ [value] := by
  unfold insert values
  rw [place_of_absent value absent, List.map_append]
  rfl

theorem erase_of_absent {table : Table κ α} {key : κ} (absent : table.get? key = none) :
    table.erase key = table := by
  rw [erase, without_of_absent absent]

/-- What is inserted at a new key and erased again has left no trace. -/
theorem erase_insert_of_absent {table : Table κ α} {key : κ} (absent : table.get? key = none)
    (value : α) : (table.insert key value).erase key = table := by
  have keeps (entries : List (κ × α)) (absent : lookup key entries = none) :
      without key (entries ++ [(key, value)]) = entries := by
    induction entries with
    | nil => simp [without]
    | cons entry rest ih =>
        by_cases here : entry.1 = key
        · simp [lookup, here] at absent
        · rw [lookup, if_neg here] at absent
          rw [List.cons_append, without, if_neg here, ih absent]
  rw [insert, erase, place_of_absent value absent, keeps table.entries absent]

end Table

end ScriptHost
