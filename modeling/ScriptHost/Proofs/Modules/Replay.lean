import ScriptHost.Proofs.Runs.History
import ScriptHost.Proofs.Runs.Parts

/-!
# Replaying the cache of a loader

The history alone determines which record a loader keeps for a key and which
container a record exports.  With these two replays the laws of evaluation can be
said of single events: an evaluation begins only where nothing is kept, and what
a require is answered with is what is kept.  Everything else about evaluations of
one key follows from the laws.
-/

namespace ScriptHost.Modules

variable {loader record container : Nat} {key : List Component} {history news : List Event}
  {event : Event}

/-- What is kept for a key of a loader after one more event. -/
def keepAfter (loader : Nat) (key : List Component) (kept : Option Nat) : Event → Option Nat
  | .evaluating owner record _ path =>
      if owner = loader ∧ path.components = key then some record else kept
  | .evaluationFailed owner _ path =>
      if owner = loader ∧ path.components = key then none else kept
  | _ => kept

/-- The record that a loader keeps for a key after a history. -/
def keptBy (history : List Event) (loader : Nat) (key : List Component) : Option Nat :=
  history.foldl (keepAfter loader key) none

/-- The container of a record's exports after one more event. -/
def exportAfter (record : Nat) (exports : Option Nat) : Event → Option Nat
  | .evaluating _ made container _ => if made = record then some container else exports
  | .exportsReplaced changed container =>
      if changed = record then exports.map fun _ => container else exports
  | _ => exports

/-- The container of a record's exports after a history, once there is such a record. -/
def exportsBy (history : List Event) (record : Nat) : Option Nat :=
  history.foldl (exportAfter record) none

@[simp]
theorem keptBy_concat (history : List Event) (event : Event) (loader : Nat)
    (key : List Component) :
    keptBy (history ++ [event]) loader key = keepAfter loader key (keptBy history loader key) event := by
  rw [keptBy, List.foldl_append]
  rfl

@[simp]
theorem exportsBy_concat (history : List Event) (event : Event) (record : Nat) :
    exportsBy (history ++ [event]) record = exportAfter record (exportsBy history record) event := by
  rw [exportsBy, List.foldl_append]
  rfl

/-- The laws of evaluation. -/
def allowed (before : List Event) : Event → Prop
  | .evaluating loader record _ path =>
      keptBy before loader path.components = none ∧ exportsBy before record = none
  | .evaluationFailed loader record path => keptBy before loader path.components = some record
  | .evaluated loader record container path | .found loader record container path =>
      keptBy before loader path.components = some record ∧ exportsBy before record = some container
  | .searched loader path => keptBy before loader path.components = none
  | _ => True

/-! ## Events about other parts -/

theorem keepAfter_of_part_ne (about : event.part ≠ .modules) (kept : Option Nat) :
    keepAfter loader key kept event = kept := by
  cases event <;> first | rfl | exact absurd rfl about

theorem exportAfter_of_part_ne (about : event.part ≠ .modules) (exports : Option Nat) :
    exportAfter record exports event = exports := by
  cases event <;> first | rfl | exact absurd rfl about

theorem allowed_of_part_ne (about : event.part ≠ .modules) (before : List Event) :
    allowed before event := by
  cases event <;> trivial

private theorem foldl_of_still {f : Option Nat → Event → Option Nat}
    (still : ∀ event ∈ news, ∀ value, f value event = value) (value : Option Nat) :
    news.foldl f value = value := by
  induction news with
  | nil => rfl
  | cons event rest ih =>
      rw [List.foldl_cons, still event List.mem_cons_self]
      exact ih fun other member => still other (List.mem_cons_of_mem event member)

theorem keptBy_append_of_part_ne (about : ∀ event ∈ news, event.part ≠ .modules) :
    keptBy (history ++ news) loader key = keptBy history loader key := by
  rw [keptBy, List.foldl_append]
  exact foldl_of_still (fun event member => keepAfter_of_part_ne (about event member)) _

theorem exportsBy_append_of_part_ne (about : ∀ event ∈ news, event.part ≠ .modules) :
    exportsBy (history ++ news) record = exportsBy history record := by
  rw [exportsBy, List.foldl_append]
  exact foldl_of_still (fun event member => exportAfter_of_part_ne (about event member)) _

/-! ## What the laws say about evaluations of one key -/

/-- A record stays in the cache until its own evaluation fails. -/
theorem stays_kept (lawful : Lawful allowed (history ++ news))
    (kept : keptBy history loader key = some record)
    (unfailed : ∀ path, .evaluationFailed loader record path ∈ news → path.components ≠ key) :
    keptBy (history ++ news) loader key = some record := by
  induction news generalizing history with
  | nil => rwa [List.append_nil]
  | cons event rest ih =>
      have next : allowed history event := lawful.next
      rw [List.append_cons] at lawful ⊢
      refine ih lawful ?_ fun path member => unfailed path (List.mem_cons_of_mem event member)
      rw [keptBy_concat, kept]
      cases event with
      | evaluating owner made container path =>
          apply if_neg
          rintro ⟨rfl, rfl⟩
          exact absurd (kept.symm.trans next.1) (Option.some_ne_none record)
      | evaluationFailed owner failed path =>
          apply if_neg
          rintro ⟨rfl, rfl⟩
          have same : failed = record := Option.some.inj (next.symm.trans kept)
          subst same
          exact unfailed path List.mem_cons_self rfl
      | _ => rfl

/-- A record keeps its container until it is given another. -/
theorem stays_exported (lawful : Lawful allowed (history ++ news))
    (exported : exportsBy history record = some container)
    (unreplaced : ∀ other, .exportsReplaced record other ∉ news) :
    exportsBy (history ++ news) record = some container := by
  induction news generalizing history with
  | nil => rwa [List.append_nil]
  | cons event rest ih =>
      have next : allowed history event := lawful.next
      rw [List.append_cons] at lawful ⊢
      refine ih lawful ?_ fun other member => unreplaced other (List.mem_cons_of_mem event member)
      rw [exportsBy_concat, exported]
      cases event with
      | evaluating owner made container path =>
          apply if_neg
          rintro rfl
          exact absurd (exported.symm.trans next.2) (Option.some_ne_none _)
      | exportsReplaced changed other =>
          apply if_neg
          rintro rfl
          exact unreplaced other List.mem_cons_self
      | _ => rfl

/-- From its start on, an evaluation's record is kept while the evaluation has not failed. -/
theorem kept_while {path : Path}
    (lawful : Lawful allowed (history ++ .evaluating loader record container path :: news))
    (unfailed : ∀ failed, .evaluationFailed loader record failed ∈ news →
      failed.components ≠ path.components) :
    keptBy (history ++ .evaluating loader record container path :: news) loader path.components =
      some record := by
  rw [List.append_cons] at lawful ⊢
  refine stays_kept lawful ?_ unfailed
  rw [keptBy_concat]
  exact if_pos ⟨rfl, rfl⟩

/-- From its start on, a record exports the container that it started with until it is
given another. -/
theorem exported_while {path : Path}
    (lawful : Lawful allowed (history ++ .evaluating loader record container path :: news))
    (unreplaced : ∀ other, .exportsReplaced record other ∉ news) :
    exportsBy (history ++ .evaluating loader record container path :: news) record =
      some container := by
  rw [List.append_cons] at lawful ⊢
  refine stays_exported lawful ?_ unreplaced
  rw [exportsBy_concat]
  exact if_pos rfl

/-- Whether an event is the start of an evaluation of a key. -/
def starts (loader : Nat) (key : List Component) : Event → Bool
  | .evaluating owner _ _ path => owner = loader ∧ path.components = key
  | _ => false

/-- Whether an event is the failure of an evaluation of a key. -/
def fails (loader : Nat) (key : List Component) : Event → Bool
  | .evaluationFailed owner _ path => owner = loader ∧ path.components = key
  | _ => false

/-- Every start of an evaluation is a failure too or is the one that is kept. -/
theorem countP_starts (lawful : Lawful allowed history) (loader : Nat) (key : List Component) :
    history.countP (starts loader key) =
      history.countP (fails loader key) + (keptBy history loader key).toList.length := by
  refine lawful.induct rfl fun before event _ next counted => ?_
  rw [List.countP_append, List.countP_append, List.countP_singleton, List.countP_singleton,
    keptBy_concat, counted]
  cases event with
  | evaluating owner made container path =>
      by_cases same : owner = loader ∧ path.components = key
      · have absent : keptBy before loader key = none := by
          rw [← same.1, ← same.2]
          exact next.1
        simp [starts, fails, keepAfter, same, absent]
      · simp [starts, fails, keepAfter, same]
  | evaluationFailed owner failed path =>
      by_cases same : owner = loader ∧ path.components = key
      · have present : keptBy before loader key = some failed := by
          rw [← same.1, ← same.2]
          exact next
        simp [starts, fails, keepAfter, same, present]
      · simp [starts, fails, keepAfter, same]
  | _ => rfl

end ScriptHost.Modules
