import ScriptHost.Proofs.Runs.History
import ScriptHost.Proofs.Runs.Indifference

/-!
# Who keeps a library open

A library is opened for one capability, which also holds the first share of the
payload that came out of it.  The invariant ties the shares that are left to what
the journal has been told: a payload is in use until it is freed, and a capability
that still has its library has not been dropped.  From this the law for closing
can be read off: at the time a library is closed its payload has been freed unless
the capability went while others held the payload.
-/

namespace ScriptHost.Vault

variable {vault : Vault} {history news : List Event} {id : Nat}

/-- The law of closing: the payload of the library has been freed, unless its capability
was dropped while others held the payload. -/
def closable (before : List Event) : Event → Prop
  | .closed handle => ∀ payload, .obtained payload handle ∈ before →
      ((∃ value, .payloadFreed payload value ∈ before) ↔
        ∀ sharers, .dropped handle sharers ∈ before → sharers = 0)
  | _ => True

/-- A vault is what the history says it is, and the history is lawful. -/
structure Custody (vault : Vault) (history : List Event) : Prop where
  fresh_payload : ∀ id, vault.fresh ≤ id → vault.payloads.get? id = none
  fresh_capability : ∀ id, vault.fresh ≤ id → vault.capabilities.get? id = none
  freed : ∀ payload value, .payloadFreed payload value ∈ history →
    payload < vault.fresh ∧ vault.payloads.get? payload = none
  obtained : ∀ payload handle, .obtained payload handle ∈ history →
    payload < vault.fresh ∧ handle.id < vault.fresh ∧
      (vault.payloads.get? payload = none → ∃ value, .payloadFreed payload value ∈ history)
  /-- One payload comes out of a library. -/
  one_payload : ∀ payload other handle, .obtained payload handle ∈ history →
    .obtained other handle ∈ history → other = payload
  dropped : ∀ handle sharers, .dropped handle sharers ∈ history → handle.id < vault.fresh
  /-- A capability that has a library has its payload and was not dropped. -/
  keeps : ∀ id shared handle, vault.capabilities.get? id = some shared →
    shared.value.handle = some handle →
    (∃ payload, shared.value.payload = some payload ∧ .obtained payload handle ∈ history) ∧
      ∀ sharers, .dropped handle sharers ∉ history
  /-- One capability has a library. -/
  one_keeper : ∀ id other shared otherShared handle,
    vault.capabilities.get? id = some shared → shared.value.handle = some handle →
    vault.capabilities.get? other = some otherShared → otherShared.value.handle = some handle →
    other = id
  lawful : Lawful closable history

theorem custody_empty : Custody .empty [] where
  fresh_payload _ _ := rfl
  fresh_capability _ _ := rfl
  freed _ _ member := nomatch member
  obtained _ _ member := nomatch member
  one_payload _ _ _ member := nomatch member
  dropped _ _ member := nomatch member
  keeps _ _ _ found := nomatch found
  one_keeper _ _ _ _ _ found := nomatch found
  lawful := Lawful.nil

/-! ## One more event -/

/-- What the event says of payloads and libraries has to be so, and the law of closing has to
allow it. -/
theorem Custody.told (custody : Custody vault history) {event : Event}
    (freed : ∀ payload value, event = .payloadFreed payload value →
      payload < vault.fresh ∧ vault.payloads.get? payload = none)
    (obtained : ∀ payload handle, event = .obtained payload handle →
      payload < vault.fresh ∧ handle.id < vault.fresh ∧ vault.payloads.get? payload ≠ none ∧
        ∀ other, .obtained other handle ∉ history)
    (dropped : ∀ handle sharers, event = .dropped handle sharers →
      handle.id < vault.fresh ∧ ∀ id shared, vault.capabilities.get? id = some shared →
        shared.value.handle ≠ some handle)
    (law : closable history event) : Custody vault (history ++ [event]) := by
  have told {other : Event} (member : other ∈ history ++ [event]) :
      other ∈ history ∨ event = other :=
    (List.mem_append.mp member).imp_right fun new => (List.mem_singleton.mp new).symm
  constructor
  case fresh_payload => exact custody.fresh_payload
  case fresh_capability => exact custody.fresh_capability
  case freed =>
      exact fun payload value member =>
        (told member).elim (custody.freed payload value) (freed payload value)
  case obtained =>
      intro payload handle member
      rcases told member with old | new
      · rcases custody.obtained payload handle old with ⟨below, opened, ended⟩
        refine ⟨below, opened, fun gone => ?_⟩
        rcases ended gone with ⟨value, freed⟩
        exact ⟨value, List.mem_append_left _ freed⟩
      · rcases obtained payload handle new with ⟨below, opened, used, -⟩
        exact ⟨below, opened, fun gone => absurd gone used⟩
  case one_payload =>
      intro payload other handle member otherMember
      rcases told member with old | new <;> rcases told otherMember with otherOld | otherNew
      · exact custody.one_payload payload other handle old otherOld
      · exact absurd old ((obtained other handle otherNew).2.2.2 payload)
      · exact absurd otherOld ((obtained payload handle new).2.2.2 other)
      · cases new.symm.trans otherNew
        rfl
  case dropped =>
      exact fun handle sharers member =>
        (told member).elim (custody.dropped handle sharers) fun new =>
          (dropped handle sharers new).1
  case keeps =>
      intro id shared handle found kept
      rcases custody.keeps id shared handle found kept with ⟨⟨payload, held, got⟩, undropped⟩
      refine ⟨⟨payload, held, List.mem_append_left _ got⟩, fun sharers member => ?_⟩
      rcases told member with old | new
      · exact undropped sharers old
      · exact (dropped handle sharers new).2 id shared found kept
  case one_keeper => exact custody.one_keeper
  case lawful => exact custody.lawful.concat law

/-- Whether an event is about the custody of a library. -/
def concerns : Event → Bool
  | .obtained .. | .payloadFreed .. | .dropped .. | .closed .. => true
  | _ => false

theorem Custody.concat (custody : Custody vault history) {event : Event}
    (free : concerns event = false) : Custody vault (history ++ [event]) := by
  refine custody.told ?_ ?_ ?_ ?_
  · rintro payload value rfl
    cases free
  · rintro payload handle rfl
    cases free
  · rintro handle sharers rfl
    cases free
  · cases event <;> trivial

/-- News that are not about custody. -/
theorem Custody.append (custody : Custody vault history)
    (free : ∀ event ∈ news, concerns event = false) : Custody vault (history ++ news) := by
  induction news generalizing history with
  | nil =>
      rw [List.append_nil]
      exact custody
  | cons event rest ih =>
      rw [List.append_cons]
      exact ih (custody.concat (free event List.mem_cons_self)) fun other member =>
        free other (List.mem_cons_of_mem _ member)

/-! ## Changes of the vault alone -/

/-- Payloads that stay in use and capabilities that stay, go or lose their library. -/
theorem Custody.of_view {after : Vault} (custody : Custody vault history)
    (fresh : vault.fresh ≤ after.fresh)
    (payloads : ∀ id, after.payloads.get? id = none ↔ vault.payloads.get? id = none)
    (capabilities : ∀ id shared handle, after.capabilities.get? id = some shared →
      shared.value.handle = some handle →
      ∃ before, vault.capabilities.get? id = some before ∧ before.value = shared.value)
    (absent : ∀ id, vault.capabilities.get? id = none → after.capabilities.get? id = none) :
    Custody after history := by
  constructor
  case fresh_payload =>
      exact fun id above =>
        (payloads id).mpr (custody.fresh_payload id (Nat.le_trans fresh above))
  case fresh_capability =>
      exact fun id above => absent id (custody.fresh_capability id (Nat.le_trans fresh above))
  case freed =>
      intro payload value member
      rcases custody.freed payload value member with ⟨below, gone⟩
      exact ⟨Nat.lt_of_lt_of_le below fresh, (payloads payload).mpr gone⟩
  case obtained =>
      intro payload handle member
      rcases custody.obtained payload handle member with ⟨below, opened, ended⟩
      exact ⟨Nat.lt_of_lt_of_le below fresh, Nat.lt_of_lt_of_le opened fresh,
        fun gone => ended ((payloads payload).mp gone)⟩
  case one_payload => exact custody.one_payload
  case dropped =>
      exact fun handle sharers member =>
        Nat.lt_of_lt_of_le (custody.dropped handle sharers member) fresh
  case keeps =>
      intro id shared handle found kept
      rcases capabilities id shared handle found kept with ⟨before, was, same⟩
      rw [← same] at kept ⊢
      exact custody.keeps id before handle was kept
  case one_keeper =>
      intro id other shared otherShared handle found kept otherFound otherKept
      rcases capabilities id shared handle found kept with ⟨before, was, same⟩
      rcases capabilities other otherShared handle otherFound otherKept with ⟨old, otherWas, alike⟩
      rw [← same] at kept
      rw [← alike] at otherKept
      exact custody.one_keeper id other before old handle was kept otherWas otherKept
  case lawful => exact custody.lawful

/-- A registry is not what custody is about. -/
theorem Custody.of_registries (custody : Custody vault history)
    (registries : Table Nat (Shared Registry)) : Custody { vault with registries } history :=
  custody.of_view (Nat.le_refl _) (fun _ => Iff.rfl)
    (fun _ shared _ found _ => ⟨shared, found, rfl⟩) fun _ absent => absent

theorem Custody.of_fresh (custody : Custody vault history) :
    Custody { vault with fresh := vault.fresh + 1 } history :=
  custody.of_view (Nat.le_succ _) (fun _ => Iff.rfl)
    (fun _ shared _ found _ => ⟨shared, found, rfl⟩) fun _ absent => absent

/-- Holders of a payload come and go, as long as somebody holds it. -/
theorem Custody.of_payload_modify (custody : Custody vault history) (payload : Nat)
    (f : Shared Payload → Shared Payload) :
    Custody { vault with payloads := vault.payloads.modify payload f } history := by
  refine custody.of_view (Nat.le_refl _) (fun other => ?_)
    (fun _ shared _ found _ => ⟨shared, found, rfl⟩) fun _ absent => absent
  rw [Table.get?_modify]
  split
  · exact Option.map_eq_none_iff
  · exact Iff.rfl

theorem Custody.of_payload_insert (custody : Custody vault history) {payload : Nat}
    (shared : Shared Payload) (used : vault.payloads.get? payload ≠ none) :
    Custody { vault with payloads := vault.payloads.insert payload shared } history := by
  refine custody.of_view (Nat.le_refl _) (fun other => ?_)
    (fun _ shared _ found _ => ⟨shared, found, rfl⟩) fun _ absent => absent
  rw [Table.get?_insert]
  split
  next same =>
      subst same
      exact ⟨fun gone => absurd gone (Option.some_ne_none shared), fun gone => absurd gone used⟩
  next => exact Iff.rfl

/-- A capability may change as long as it has the same library and payload, or no
library any more. -/
theorem Custody.of_capability_modify (custody : Custody vault history) (capability : Nat)
    {f : Shared Capability → Shared Capability}
    (same : ∀ shared, (f shared).value = shared.value ∨ (f shared).value.handle = none) :
    Custody { vault with capabilities := vault.capabilities.modify capability f } history := by
  refine custody.of_view (Nat.le_refl _) (fun _ => Iff.rfl) ?_ ?_
  · intro id shared handle found kept
    rw [Table.get?_modify] at found
    split at found
    · rcases Option.map_eq_some_iff.mp found with ⟨before, was, rfl⟩
      rcases same before with unchanged | lost
      · exact ⟨before, was, unchanged.symm⟩
      · exact absurd (lost.symm.trans kept) (Option.some_ne_none handle).symm
    · exact ⟨shared, found, rfl⟩
  · intro id absent
    rw [Table.get?_modify, absent]
    split <;> rfl

theorem Custody.of_capability_insert (custody : Custody vault history) {capability : Nat}
    {before after : Shared Capability} (found : vault.capabilities.get? capability = some before)
    (same : after.value = before.value) :
    Custody { vault with capabilities := vault.capabilities.insert capability after } history := by
  refine custody.of_view (Nat.le_refl _) (fun _ => Iff.rfl) ?_ ?_
  · intro id shared handle at_id _
    rw [Table.get?_insert] at at_id
    split at at_id
    next here =>
        cases at_id
        exact ⟨before, here ▸ found, same.symm⟩
    next => exact ⟨shared, at_id, rfl⟩
  · intro id absent
    rw [Table.get?_insert]
    refine (if_neg ?_).trans absent
    rintro rfl
    exact absurd (found.symm.trans absent) (Option.some_ne_none before)

theorem Custody.of_capability_erase (custody : Custody vault history) (capability : Nat) :
    Custody { vault with capabilities := vault.capabilities.erase capability } history := by
  refine custody.of_view (Nat.le_refl _) (fun _ => Iff.rfl) ?_ ?_
  · intro id shared handle found _
    rw [Table.get?_erase] at found
    split at found
    · exact absurd found.symm (Option.some_ne_none shared)
    · exact ⟨shared, found, rfl⟩
  · intro id absent
    rw [Table.get?_erase, absent]
    split <;> rfl

/-! ## Single steps -/

/-- A new payload has a number of its own. -/
theorem Custody.add_payload (custody : Custody vault history) (shared : Shared Payload) :
    Custody
      { vault with payloads := vault.payloads.insert vault.fresh shared, fresh := vault.fresh + 1 }
      history := by
  have others (payload : Nat) (below : payload < vault.fresh) :
      (vault.payloads.insert vault.fresh shared).get? payload = vault.payloads.get? payload := by
    rw [Table.get?_insert, if_neg (Nat.ne_of_gt below)]
  have renewed := custody.of_fresh
  constructor
  case fresh_payload =>
      intro id above
      have other : vault.fresh ≠ id := Nat.ne_of_lt above
      rw [Table.get?_insert, if_neg other]
      exact custody.fresh_payload id (Nat.le_of_lt above)
  case fresh_capability => exact renewed.fresh_capability
  case freed =>
      intro payload value member
      rcases custody.freed payload value member with ⟨below, gone⟩
      exact ⟨Nat.lt_succ_of_lt below, (others payload below).trans gone⟩
  case obtained =>
      intro payload handle member
      rcases custody.obtained payload handle member with ⟨below, opened, ended⟩
      exact ⟨Nat.lt_succ_of_lt below, Nat.lt_succ_of_lt opened,
        fun gone => ended ((others payload below).symm.trans gone)⟩
  case one_payload => exact custody.one_payload
  case dropped => exact renewed.dropped
  case keeps => exact custody.keeps
  case one_keeper => exact custody.one_keeper
  case lawful => exact custody.lawful

/-- The last holder of a payload lets go. -/
theorem Custody.free (custody : Custody vault history) {payload : Nat} (value : Payload)
    (used : vault.payloads.get? payload ≠ none) :
    Custody { vault with payloads := vault.payloads.erase payload }
      (history ++ [.payloadFreed payload value]) := by
  have below : payload < vault.fresh :=
    Nat.lt_of_not_le fun above => used (custody.fresh_payload payload above)
  have absent (id : Nat) (gone : vault.payloads.get? id = none) :
      (vault.payloads.erase payload).get? id = none := by
    rw [Table.get?_erase, gone, ite_self]
  constructor
  case fresh_payload => exact fun id above => absent id (custody.fresh_payload id above)
  case fresh_capability => exact custody.fresh_capability
  case freed =>
      intro other _ member
      rcases List.mem_append.mp member with old | new
      · exact ⟨(custody.freed other _ old).1, absent other (custody.freed other _ old).2⟩
      · cases List.mem_singleton.mp new
        exact ⟨below, (Table.get?_erase _ _ _).trans (if_pos rfl)⟩
  case obtained =>
      intro other handle member
      rcases custody.obtained other handle (mem_of_mem_concat member nofun) with
        ⟨low, opened, ended⟩
      refine ⟨low, opened, fun gone => ?_⟩
      by_cases same : payload = other
      · subst same
        exact ⟨value, List.mem_append_right _ (List.mem_singleton.mpr rfl)⟩
      · rw [Table.get?_erase, if_neg same] at gone
        rcases ended gone with ⟨value, freed⟩
        exact ⟨value, List.mem_append_left _ freed⟩
  case one_payload =>
      exact fun first other handle member otherMember =>
        custody.one_payload first other handle (mem_of_mem_concat member nofun)
          (mem_of_mem_concat otherMember nofun)
  case dropped =>
      exact fun handle sharers member =>
        custody.dropped handle sharers (mem_of_mem_concat member nofun)
  case keeps =>
      intro id shared handle found kept
      rcases custody.keeps id shared handle found kept with ⟨⟨held, has, got⟩, undropped⟩
      exact ⟨⟨held, has, List.mem_append_left _ got⟩, fun sharers member =>
        undropped sharers (mem_of_mem_concat member nofun)⟩
  case one_keeper => exact custody.one_keeper
  case lawful => exact custody.lawful.concat trivial

/-- A payload comes out of a library that nothing came out of before. -/
theorem Custody.obtain (custody : Custody vault history) {payload : Nat} {handle : LibraryHandle}
    (used : vault.payloads.get? payload ≠ none) (opened : handle.id < vault.fresh)
    (untapped : ∀ other, .obtained other handle ∉ history) :
    Custody vault (history ++ [.obtained payload handle]) := by
  have below : payload < vault.fresh :=
    Nat.lt_of_not_le fun above => used (custody.fresh_payload payload above)
  refine custody.told nofun ?_ nofun trivial
  rintro _ _ ⟨⟩
  exact ⟨below, opened, used, untapped⟩

/-- A capability goes that has a library. -/
theorem Custody.drop (custody : Custody vault history) {handle : LibraryHandle} (sharers : Nat)
    (opened : handle.id < vault.fresh)
    (left : ∀ id shared, vault.capabilities.get? id = some shared →
      shared.value.handle ≠ some handle) :
    Custody vault (history ++ [.dropped handle sharers]) := by
  refine custody.told nofun nofun ?_ trivial
  rintro _ _ ⟨⟩
  exact ⟨opened, left⟩

/-- A library is closed. -/
theorem Custody.shut (custody : Custody vault history) {handle : LibraryHandle}
    (law : closable history (.closed handle)) : Custody vault (history ++ [.closed handle]) :=
  custody.told nofun nofun nofun law

/-- A new capability; if it has a library, its payload just came out of it. -/
theorem Custody.add_capability (custody : Custody vault history) (shared : Shared Capability)
    (source : ∀ handle, shared.value.handle = some handle →
      (∃ payload, shared.value.payload = some payload ∧ .obtained payload handle ∈ history) ∧
      (∀ sharers, .dropped handle sharers ∉ history) ∧
      ∀ id other, vault.capabilities.get? id = some other → other.value.handle ≠ some handle) :
    Custody
      { vault with
        capabilities := vault.capabilities.insert vault.fresh shared
        fresh := vault.fresh + 1 }
      history := by
  have renewed := custody.of_fresh
  constructor
  case fresh_payload => exact renewed.fresh_payload
  case fresh_capability =>
      intro id above
      have other : vault.fresh ≠ id := Nat.ne_of_lt above
      rw [Table.get?_insert, if_neg other]
      exact custody.fresh_capability id (Nat.le_of_lt above)
  case freed => exact renewed.freed
  case obtained => exact renewed.obtained
  case one_payload => exact custody.one_payload
  case dropped => exact renewed.dropped
  case keeps =>
      intro id found handle at_id kept
      rw [Table.get?_insert] at at_id
      split at at_id
      · cases at_id
        exact ⟨(source handle kept).1, (source handle kept).2.1⟩
      · exact custody.keeps id found handle at_id kept
  case one_keeper =>
      intro id other found otherFound handle at_id kept at_other otherKept
      rw [Table.get?_insert] at at_id at_other
      split at at_id
      next new =>
          cases at_id
          split at at_other
          next alsoNew => exact alsoNew.symm.trans new
          next => exact absurd otherKept ((source handle kept).2.2 other otherFound at_other)
      next =>
          split at at_other
          next =>
              cases at_other
              exact absurd kept ((source handle otherKept).2.2 id found at_id)
          next => exact custody.one_keeper id other found otherFound handle at_id kept at_other
                    otherKept
  case lawful => exact custody.lawful

end ScriptHost.Vault
