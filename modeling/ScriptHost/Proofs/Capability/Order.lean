import ScriptHost.Proofs.Capability.Calls

/-!
# When a library is closed under its payload

An explicit close goes ahead only when nobody else holds the payload, so it frees the
payload before it closes the library.  Letting go of the last reference to a
capability asks nobody: it gives back the capability's own share of the payload and
closes the library, whoever else still holds a share.  So the payload outlives the
library in exactly those runs in which a capability is dropped while its payload
is shared.
-/

namespace ScriptHost.Vault

open World

variable {σ : Type} {part : Part}

/-- What runs keep of the vault. -/
def WorldGuards (before after : World σ) : Prop :=
  Guards (before.vault, before.journal) (after.vault, after.journal)

instance : IsPreorder (World σ) WorldGuards where
  refl _ held := held
  trans _ _ _ first second held := second (first held)

theorem concerns_of_part_ne {event : Event} (about : event.part ≠ .vault) :
    concerns event = false := by
  cases event <;> first | rfl | exact absurd rfl about

theorem guards_of_changes (other : part ≠ .vault) (before after : World σ)
    (changes : Changes part before after) : WorldGuards before after := by
  intro held
  rcases changes.journal with ⟨news, grown, about⟩
  change Custody after.vault after.journal.toList
  rw [changes.vault other, grown]
  refine held.append fun event member => concerns_of_part_ne ?_
  rcases about event member with same | rest
  · rw [same]
    exact other
  · rw [rest]
    decide

theorem guards_request (request : Request) (concerns : request.part? = some .vault) :
    Keeps WorldGuards (Script.answer request : Action σ request.Reply) := by
  intro world
  cases request <;> cases concerns
  case registry | capability | payloadOf => exact refl_of WorldGuards world
  case newRegistry builtins libraries =>
      exact guards_addRegistry builtins libraries (world.vault, world.journal)
  case holdRegistry id => exact guards_holdRegistry id (world.vault, world.journal)
  case releaseRegistry id => exact guards_releaseRegistry id (world.vault, world.journal)
  case load id name path => exact guards_load world.disk id name path (world.vault, world.journal)
  case loaded id name => exact guards_cached id name (world.vault, world.journal)
  case requireCapability id name type =>
      exact guards_require world.disk id name type (world.vault, world.journal)
  case release id => exact guards_release id (world.vault, world.journal)
  case closeCapability id => exact guards_close id (world.vault, world.journal)
  case holdPayloadOf id => exact guards_holdPayloadOf id (world.vault, world.journal)
  case releasePayload id => exact guards_releasePayload id (world.vault, world.journal)
  case probe libraries path symbols =>
      exact guards_probe world.disk libraries path symbols (world.vault, world.journal)

/-- Every run of every script keeps custody of the libraries. -/
theorem guards_rules (engine : Engine σ) :
    Rules engine (WorldGuards : World σ → World σ → Prop) where
  rest := guards_of_changes (by decide)
  runtimes := .of_changes (guards_of_changes (by decide))
  request := Script.keeps_answer guards_of_changes guards_request
  require run ran := Modules.keeps_require (guards_of_changes (by decide)) ran
  requireNative run ran := Modules.keeps_requireNative (guards_of_changes (by decide)) ran
  input chunk := (changes_system _).mono (guards_of_changes (by decide))
  listen := Dispatch.keeps_listenFor (guards_of_changes (by decide))
  schedule := Dispatch.keeps_schedule (guards_of_changes (by decide))
  poll run ran := Dispatch.keeps_poll (guards_of_changes (by decide)) ran
  drive run ran := Dispatch.keeps_drive (guards_of_changes (by decide)) ran

/-- Custody of the libraries at every moment of every session. -/
theorem custody_world (session : Session σ) (steps : Nat) :
    Custody (session.world steps).vault (session.history steps) :=
  session.keeps (guards_rules session.engine) steps custody_empty

/-- A payload is in use until it is freed. -/
theorem payload_in_use_iff (session : Session σ) (steps : Nat) {payload : Nat}
    {handle : LibraryHandle} (got : .obtained payload handle ∈ session.history steps) :
    ((session.world steps).vault.payload? payload).isSome ↔
      ∀ value, .payloadFreed payload value ∉ session.history steps := by
  have custody := custody_world session steps
  rw [payload?, Shared.value?, Option.isSome_map]
  constructor
  · intro used value freed
    rw [(custody.freed payload value freed).2] at used
    exact Bool.noConfusion used
  · intro unfreed
    cases used : (session.world steps).vault.payloads.get? payload with
    | some shared => rfl
    | none =>
        rcases (custody.obtained payload handle got).2.2 used with ⟨value, freed⟩
        exact absurd freed (unfreed value)

/-- When a library is closed, the payload that came out of it is still in use if and only
if the library's capability was dropped while others held the payload. -/
theorem outlives_library_iff (session : Session σ) (steps : Nat) {before after : List Event}
    {payload : Nat} {handle : LibraryHandle}
    (split : session.history steps = before ++ .closed handle :: after)
    (got : .obtained payload handle ∈ before) :
    (∀ value, .payloadFreed payload value ∉ before) ↔
      ∃ sharers, 0 < sharers ∧ .dropped handle sharers ∈ before := by
  have law := (custody_world session steps).lawful before _ after split payload got
  constructor
  · intro unfreed
    apply Classical.byContradiction
    intro unshared
    rcases law.mpr fun sharers member => Nat.eq_zero_of_not_pos fun positive =>
      unshared ⟨sharers, positive, member⟩ with ⟨value, freed⟩
    exact unfreed value freed
  · rintro ⟨sharers, positive, member⟩ value freed
    exact absurd (law.mp ⟨value, freed⟩ sharers member) (Nat.ne_of_gt positive)

/-- A session that loads a library, takes a share of its payload, and lets go of the
capability and of the registry. -/
def sharing : Session Unit where
  engine := ⟨fun _ _ => .ok fun _ => .done .null, fun _ _ => .done .null, fun _ _ => .done .null⟩
  script :=
    .ask (.newRegistry .empty (.table (.ofList [("zlib.so", .ofList [("_register_zlib", some 6)])])))
      fun registry => .ask (.load registry "zlib" none)
      fun capability => .ask (.holdPayloadOf (capability.getD 0))
      fun _ => .ask (.release (capability.getD 0))
      fun _ => .ask (.releaseRegistry registry)
      fun _ => .done .null
  fuel := 1
  input := []
  waitLimit := none
  offers := []
  disk := .empty
  environment := .empty
  memory := ()

/-- There the library is closed while the share of its payload is still held. -/
theorem sharing_outlives_library :
    let zlib : LibraryHandle := ⟨1, .table, ⟨"zlib.so"⟩⟩
    ∃ before after, sharing.history 5 = before ++ .closed zlib :: after ∧
      .obtained 2 zlib ∈ before ∧ ∀ value, .payloadFreed 2 value ∉ before := by
  intro zlib
  let before : List Event :=
    [.opening .table ⟨"zlib.so"⟩, .opened zlib, .resolved .table "_register_zlib",
      .registered zlib (some 6), .obtained 2 zlib, .dropped zlib 1]
  have split : sharing.history 5 = before ++ .closed zlib :: [] := by decide +kernel
  have got : .obtained 2 zlib ∈ before := by decide
  refine ⟨before, [], split, got, (outlives_library_iff sharing 5 split got).mpr ⟨1, ?_, ?_⟩⟩
  · exact Nat.one_pos
  · decide

end ScriptHost.Vault
