import ScriptHost.Table

/-!
# Shared things

A shared thing counts its holders.  It is there as long as somebody holds it,
and goes when the last of them lets go.
-/

namespace ScriptHost

universe u v

/-- A thing with a number of holders. -/
structure Shared (α : Type u) where
  /-- The thing. -/
  value : α
  /-- How many hold it. -/
  holders : Nat

namespace Shared

variable {κ : Type u} {α : Type v} [DecidableEq κ]

/-- A thing with one holder. -/
def one (value : α) : Shared α := ⟨value, 1⟩

/-- The thing changed, with the same holders. -/
def map (change : α → α) (shared : Shared α) : Shared α :=
  { shared with value := change shared.value }

/-- The thing at a key. -/
def value? (table : Table κ (Shared α)) (key : κ) : Option α :=
  (table.get? key).map Shared.value

/-- One more holds the thing at a key. -/
def hold (table : Table κ (Shared α)) (key : κ) : Table κ (Shared α) :=
  table.modify key fun shared => { shared with holders := shared.holders + 1 }

/-- One fewer holds the thing at a key.  After its last holder it is taken out of
the table and handed over. -/
def letGo (table : Table κ (Shared α)) (key : κ) : Option α × Table κ (Shared α) :=
  match table.get? key with
  | none => (none, table)
  | some shared =>
      if shared.holders ≤ 1 then (some shared.value, table.erase key)
      else (none, table.insert key { shared with holders := shared.holders - 1 })

/-! ## What the operations do to the things in a table -/

@[simp]
theorem value?_hold (table : Table κ (Shared α)) (key other : κ) :
    value? (hold table key) other = value? table other := by
  unfold value? hold
  rw [Table.get?_modify]
  split
  · cases table.get? other <;> rfl
  · rfl

/-- Letting go removes a thing only if it hands it over, and leaves the others alone. -/
theorem value?_letGo (table : Table κ (Shared α)) (key other : κ) :
    value? (letGo table key).2 other =
      if key = other ∧ (letGo table key).1.isSome then none else value? table other := by
  unfold value? letGo
  cases found : table.get? key with
  | none => simp
  | some shared =>
      by_cases last : shared.holders ≤ 1
      · by_cases same : key = other <;> simp [last, same]
      · by_cases same : key = other
        · subst same
          simp [last, found]
        · simp [last, same]

/-- What is handed over is what was there. -/
theorem value?_of_letGo {table : Table κ (Shared α)} {key : κ} {value : α}
    (gone : (letGo table key).1 = some value) : value? table key = some value := by
  unfold letGo at gone
  unfold value?
  split at gone
  next => cases gone
  next shared found =>
      split at gone
      · rw [found]
        exact gone
      · cases gone

end Shared

end ScriptHost
