import ScriptHost.Shared

/-!
# Counting references

A table of shared things is told against a list of references: each thing has as many
holders as it has references in the list, and what nobody refers to is gone.  Holding a
thing adds a reference to the list, and letting go takes one away.

What the things in a table have themselves is gathered in a list too.  It does not depend
on how many hold the things, and what goes takes along what it has.
-/

namespace ScriptHost

namespace Shared

variable {α β : Type}

/-- How many hold the thing at a key. -/
def holdersAt (table : Table Nat (Shared α)) (id : Nat) : Nat :=
  ((table.get? id).map holders).getD 0

/-- What the things in a table have of some kind. -/
def gather (parts : α → List β) (table : Table Nat (Shared α)) : List β :=
  table.values.flatMap fun shared => parts shared.value

/-- Each thing in a table has as many holders as there are references to it, and there are no
references to anything else. -/
structure Tally (table : Table Nat (Shared α)) (fresh : Nat) (references : List Nat) : Prop where
  distinct : table.keys.Nodup
  early : ∀ id shared, table.get? id = some shared → id < fresh
  held : ∀ id shared, table.get? id = some shared → 0 < shared.holders
  counted : ∀ id, holdersAt table id = references.count id

section Gathering

variable {table : Table Nat (Shared α)} {id : Nat} {shared : Shared α} (parts : α → List β)

theorem mem_gather {part : β} (found : table.get? id = some shared)
    (member : part ∈ parts shared.value) : part ∈ gather parts table :=
  List.mem_flatMap.mpr ⟨shared, Table.mem_values found, member⟩

theorem gather_insert (distinct : table.keys.Nodup) (id : Nat) (shared : Shared α) :
    (gather parts (table.insert id shared)).Perm
      (parts shared.value ++ gather parts (table.erase id)) :=
  (Table.values_insert_perm distinct id shared).flatMap_right _

theorem gather_split (distinct : table.keys.Nodup) (found : table.get? id = some shared) :
    (gather parts table).Perm (parts shared.value ++ gather parts (table.erase id)) :=
  (Table.values_perm distinct found).flatMap_right _

theorem gather_add (distinct : table.keys.Nodup) (absent : table.get? id = none)
    (shared : Shared α) :
    (gather parts (table.insert id shared)).Perm (parts shared.value ++ gather parts table) := by
  have added := gather_insert parts distinct id shared
  rwa [Table.erase_of_absent absent] at added

/-- What things have does not depend on how many hold them. -/
theorem gather_same (distinct : table.keys.Nodup) (found : table.get? id = some shared)
    {other : Shared α} (same : other.value = shared.value) :
    (gather parts (table.insert id other)).Perm (gather parts table) := by
  refine (gather_insert parts distinct id other).trans ?_
  rw [same]
  exact (gather_split parts distinct found).symm

theorem gather_modify (distinct : table.keys.Nodup) (found : table.get? id = some shared)
    (change : Shared α → Shared α) :
    (gather parts (table.modify id change)).Perm
      (parts (change shared).value ++ gather parts (table.erase id)) := by
  unfold Table.modify
  rw [found]
  exact gather_insert parts distinct id (change shared)

/-- A thing that loses what it has. -/
theorem gather_empty (distinct : table.keys.Nodup) (found : table.get? id = some shared)
    (change : Shared α → Shared α) (nothing : parts (change shared).value = []) :
    (gather parts table).Perm (parts shared.value ++ gather parts (table.modify id change)) := by
  have changed := gather_modify parts distinct found change
  rw [nothing] at changed
  exact (gather_split parts distinct found).trans (changed.symm.append_left _)

theorem gather_hold (distinct : table.keys.Nodup) (id : Nat) :
    (gather parts (hold table id)).Perm (gather parts table) := by
  cases found : table.get? id with
  | none =>
      unfold hold Table.modify
      rw [found]
  | some shared =>
      exact (gather_modify parts distinct found _).trans (gather_split parts distinct found).symm

/-- What goes takes along what it has. -/
theorem gather_letGo (distinct : table.keys.Nodup) (id : Nat) :
    (gather parts table).Perm
      (((letGo table id).1.map parts).getD [] ++ gather parts (letGo table id).2) := by
  unfold letGo
  cases found : table.get? id with
  | none => exact .refl _
  | some shared =>
      by_cases last : shared.holders ≤ 1
      · simp only [if_pos last]
        exact gather_split parts distinct found
      · simp only [if_neg last]
        exact (gather_same parts distinct found (by rfl)).symm

end Gathering

/-- What is taken out of one list comes to another. -/
theorem perm_shift {whole taken left : List α} (kept : List α) (split : whole.Perm (taken ++ left)) :
    (kept ++ whole).Perm ((taken ++ kept) ++ left) := by
  refine (split.append_left kept).trans ?_
  rw [← List.append_assoc]
  exact List.perm_append_comm.append_right left

namespace Tally

variable {table : Table Nat (Shared α)} {fresh id : Nat} {references others : List Nat}

theorem empty : Tally (Table.empty : Table Nat (Shared α)) fresh [] where
  distinct := .nil
  early _ _ found := nomatch found
  held _ _ found := nomatch found
  counted _ := rfl

theorem perm (tally : Tally table fresh references) (same : references.Perm others) :
    Tally table fresh others where
  distinct := tally.distinct
  early := tally.early
  held := tally.held
  counted id := by rw [tally.counted, same.count_eq]

theorem later (tally : Tally table fresh references) {later : Nat} (grown : fresh ≤ later) :
    Tally table later references where
  distinct := tally.distinct
  early id shared found := Nat.lt_of_lt_of_le (tally.early id shared found) grown
  held := tally.held
  counted := tally.counted

theorem holders_eq (tally : Tally table fresh references) {shared : Shared α}
    (found : table.get? id = some shared) : shared.holders = references.count id := by
  rw [← tally.counted, holdersAt, found]
  rfl

/-- What somebody refers to is there. -/
theorem exists_of_mem (tally : Tally table fresh references) (member : id ∈ references) :
    ∃ shared, table.get? id = some shared := by
  have some := List.count_pos_iff.mpr member
  rw [← tally.counted, holdersAt] at some
  cases found : table.get? id with
  | none =>
      rw [found] at some
      cases some
  | some shared => exact ⟨shared, rfl⟩

theorem lt_of_mem (tally : Tally table fresh references) (member : id ∈ references) :
    id < fresh := by
  rcases tally.exists_of_mem member with ⟨shared, found⟩
  exact tally.early id shared found

/-- What nobody refers to is gone. -/
theorem absent (tally : Tally table fresh references) (unheld : id ∉ references) :
    table.get? id = none := by
  cases found : table.get? id with
  | none => rfl
  | some shared =>
      have positive := tally.held id shared found
      rw [tally.holders_eq found, List.count_eq_zero_of_not_mem unheld] at positive
      cases positive

theorem absent_of_le (tally : Tally table fresh references) (above : fresh ≤ id) :
    table.get? id = none :=
  tally.absent fun member => Nat.not_le_of_lt (tally.lt_of_mem member) above

/-- Things that nobody refers to have nothing. -/
theorem gather_nil (tally : Tally table fresh []) (parts : α → List β) :
    gather parts table = [] := by
  have empty : table.keys = [] := by
    refine List.eq_nil_iff_forall_not_mem.mpr fun id there => ?_
    rcases (Table.mem_keys_iff table id).mp there with ⟨shared, found⟩
    rw [tally.absent List.not_mem_nil] at found
    cases found
  have nothing : table.values = [] := by
    unfold Table.values
    rw [List.map_eq_nil_iff.mp empty]
    rfl
  rw [gather, nothing]
  rfl

/-- The thing at a key is set, or set anew, with as many holders as there are to be references. -/
theorem insert (tally : Tally table fresh references) {shared : Shared α} {later : Nat}
    (below : id < later) (grown : fresh ≤ later) (positive : 0 < shared.holders)
    (counted : others.count id = shared.holders)
    (elsewhere : ∀ other, id ≠ other → others.count other = references.count other) :
    Tally (table.insert id shared) later others where
  distinct := Table.nodup_keys_insert tally.distinct id shared
  early other found at_other := by
    rw [Table.get?_insert] at at_other
    split at at_other
    next same => exact same ▸ below
    next => exact Nat.lt_of_lt_of_le (tally.early other found at_other) grown
  held other found at_other := by
    rw [Table.get?_insert] at at_other
    split at at_other
    · cases at_other
      exact positive
    · exact tally.held other found at_other
  counted other := by
    rw [holdersAt, Table.get?_insert]
    split
    next same =>
        subst same
        exact counted.symm
    next different =>
        rw [elsewhere other different]
        exact tally.counted other

theorem add (tally : Tally table fresh references) (value : α) {holders : Nat}
    (positive : 0 < holders) :
    Tally (table.insert fresh ⟨value, holders⟩) (fresh + 1)
      (List.replicate holders fresh ++ references) := by
  have new : fresh ∉ references := fun member => Nat.lt_irrefl _ (tally.lt_of_mem member)
  refine tally.insert (Nat.lt_succ_self _) (Nat.le_succ _) positive ?_ fun other different => ?_
  · rw [List.count_append, List.count_replicate_self, List.count_eq_zero_of_not_mem new]
    rfl
  · rw [List.count_append, List.count_replicate, if_neg (by simpa using different), Nat.zero_add]

theorem hold (tally : Tally table fresh references) (member : id ∈ references) :
    Tally (Shared.hold table id) fresh (id :: references) := by
  rcases tally.exists_of_mem member with ⟨shared, found⟩
  unfold Shared.hold Table.modify
  rw [found]
  refine tally.insert (tally.early id shared found) (Nat.le_refl _) (Nat.succ_pos _) ?_
    fun other different => List.count_cons_of_ne different
  rw [List.count_cons_self, ← tally.holders_eq found]

theorem letGo (tally : Tally table fresh (id :: references)) :
    Tally (Shared.letGo table id).2 fresh references := by
  rcases tally.exists_of_mem List.mem_cons_self with ⟨shared, found⟩
  have holders := tally.holders_eq found
  rw [List.count_cons_self] at holders
  have elsewhere (other : Nat) (different : id ≠ other) :
      references.count other = (id :: references).count other :=
    (List.count_cons_of_ne different).symm
  unfold Shared.letGo
  rw [found]
  by_cases last : shared.holders ≤ 1
  · simp only [if_pos last]
    have gone (other : Nat) (left : Shared α)
        (at_other : (table.erase id).get? other = some left) :
        table.get? other = some left := by
      rw [Table.get?_erase] at at_other
      split at at_other
      · cases at_other
      · exact at_other
    constructor
    case distinct => exact Table.nodup_keys_erase tally.distinct id
    case early => exact fun other left at_other => tally.early other left (gone other left at_other)
    case held => exact fun other left at_other => tally.held other left (gone other left at_other)
    case counted =>
        intro other
        rw [holdersAt, Table.get?_erase]
        split
        next same =>
            subst same
            exact (by omega : 0 = references.count id)
        next different =>
            rw [elsewhere other different]
            exact tally.counted other
  · simp only [if_neg last]
    refine tally.insert (tally.early id shared found) (Nat.le_refl _) ?_ ?_ elsewhere
    · exact Nat.sub_pos_of_lt (Nat.lt_of_not_le last)
    · rw [holders]
      rfl

theorem modify (tally : Tally table fresh references) (id : Nat) (change : α → α) :
    Tally (table.modify id (Shared.map change)) fresh references := by
  unfold Table.modify
  cases found : table.get? id with
  | none => exact tally
  | some shared =>
      exact tally.insert (tally.early id shared found) (Nat.le_refl _) (tally.held id shared found)
        (tally.holders_eq found).symm fun _ _ => rfl

end Tally

end Shared

end ScriptHost
