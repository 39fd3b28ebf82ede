import ScriptHost.Proofs.Kernel.Ticking
import ScriptHost.Proofs.Runs.Keeping

/-!
# One read after another

A read that gives something leaves less to be read, and a read that is interrupted has used up a
planned fault.  So a descriptor cannot be read for ever.  One whose end is in sight, a file or a
pipe that nobody writes to, gives the front of what is left and keeps the rest, unless a planned
fault strikes.
-/

namespace ScriptHost.Kernel

variable {kernel next : Kernel} {fd : Descriptor} {length : Nat} {stream : Bytes}
  {outcome : Except Int Bytes}

/-! ## Planned faults -/

/-- Of some planned faults these are left: no more than there were, and none that was not among
them, though it may be nearer now. -/
structure LeftOf (planned left : List PlannedFault) : Prop where
  fewer : left.length ≤ planned.length
  known : ∀ fault ∈ left, ∃ old ∈ planned, old.call = fault.call ∧ old.errno = fault.errno

/-- A fault of some errno is planned for reads. -/
def PlansRead (planned : List PlannedFault) (errno : Int) : Prop :=
  ∃ fault ∈ planned, fault.call = "read" ∧ fault.errno = errno

theorem leftOf_refl (planned : List PlannedFault) : LeftOf planned planned :=
  ⟨Nat.le_refl _, fun fault among => ⟨fault, among, rfl, rfl⟩⟩

theorem LeftOf.cons {planned left : List PlannedFault} {fault nearer : PlannedFault}
    (leftOf : LeftOf planned left) (call : fault.call = nearer.call)
    (errno : fault.errno = nearer.errno) : LeftOf (fault :: planned) (nearer :: left) where
  fewer := Nat.succ_le_succ leftOf.fewer
  known := List.forall_mem_cons.mpr ⟨⟨fault, List.mem_cons_self, call, errno⟩, fun other among => by
    obtain ⟨old, inside, same⟩ := leftOf.known other among
    exact ⟨old, List.mem_cons_of_mem _ inside, same⟩⟩

theorem LeftOf.plansRead {planned left : List PlannedFault} {errno : Int}
    (leftOf : LeftOf planned left) (plans : PlansRead left errno) : PlansRead planned errno := by
  obtain ⟨fault, among, call, same⟩ := plans
  obtain ⟨old, inside, call', same'⟩ := leftOf.known fault among
  exact ⟨old, inside, call'.trans call, same'.trans same⟩

/-- A fault that strikes is used up. -/
theorem strike_cases (planned : List PlannedFault) :
    ((strike "read" planned).1 = none ∧ LeftOf planned (strike "read" planned).2) ∨
      ∃ errno, (strike "read" planned).1 = some errno ∧ PlansRead planned errno ∧
        LeftOf planned (strike "read" planned).2 ∧
        (strike "read" planned).2.length < planned.length := by
  induction planned with
  | nil => exact .inl ⟨rfl, leftOf_refl []⟩
  | cons fault rest ih =>
      unfold strike
      split
      next concerned =>
        split
        next =>
          refine .inr ⟨fault.errno, rfl, ⟨fault, List.mem_cons_self, concerned, rfl⟩, ?_,
            Nat.lt_succ_self _⟩
          exact ⟨Nat.le_succ _, fun other among =>
            ⟨other, List.mem_cons_of_mem _ among, rfl, rfl⟩⟩
        next => exact .inl ⟨rfl, (leftOf_refl rest).cons rfl rfl⟩
      next =>
        rcases ih with ⟨spared, left⟩ | ⟨errno, struck, ⟨old, inside, plans⟩, left, fewer⟩
        · exact .inl ⟨spared, left.cons rfl rfl⟩
        · exact .inr ⟨errno, struck, ⟨old, List.mem_cons_of_mem _ inside, plans⟩,
            left.cons rfl rfl, Nat.succ_lt_succ fewer⟩

/-- A read goes on, or a planned fault strikes it. -/
theorem meetTransferFault_cases (fd : Descriptor) (kernel : Kernel) :
    ∃ faults, LeftOf kernel.faults faults ∧
      (meetTransferFault "read" fd kernel = (.ok (), { kernel with faults }) ∨
        ∃ errno, meetTransferFault "read" fd kernel = (.error errno, { kernel with faults }) ∧
          PlansRead kernel.faults errno ∧ faults.length < kernel.faults.length) := by
  have met : meetTransferFault "read" fd kernel = (.ok (), kernel) ∨
      meetTransferFault "read" fd kernel = meetFault "read" kernel := by
    unfold meetTransferFault
    rw [get_bind_eq]
    rcases kernel.resource? fd with _ | _ | _ | _ | _ | _
    case some.file => exact .inl rfl
    all_goals exact .inr rfl
  rcases met with met | met
  · exact ⟨kernel.faults, leftOf_refl _, .inl met⟩
  · rw [met]
    unfold meetFault
    rw [get_bind_eq]
    rcases struck : strike "read" kernel.faults with ⟨fault, faults⟩
    have cases := strike_cases kernel.faults
    rw [struck] at cases
    rcases cases with ⟨rfl, left⟩ | ⟨errno, rfl, plans, left, fewer⟩
    · exact ⟨faults, left, .inl rfl⟩
    · exact ⟨faults, left, .inr ⟨errno, rfl, plans, fewer⟩⟩

/-! ## How long there is something to read -/

/-- How many reads may still give something, when each gives as little as it can. -/
def waiting (kernel : Kernel) (fd : Descriptor) : Nat :=
  match kernel.resource? fd with
  | some (.reader pipe) => ((kernel.pipes.get? pipe).map fun state => state.content.length).getD 0
  | some (.file rest) => rest.length
  | some (.timer timer) => if timer.count = 0 then 0 else 1
  | _ => 0

/-- To wake a descriptor leaves everything that is no readiness list. -/
theorem resource?_wakeIf (concerns : Watch → Bool) (woken : Descriptor) {resource : Resource}
    (found : kernel.resource? fd = some resource) (noList : ∀ list, resource ≠ .readyList list) :
    (kernel.wakeIf woken concerns).resource? fd = some resource := by
  obtain ⟨opened, opened_fd, rfl⟩ := resource?_eq_some found
  have same : ((kernel.wakeIf woken concerns).opened.get? fd).map Opened.resource =
      some opened.resource := by
    rw [wakeIf, Table.get?_mapValues, opened_fd, Option.map_some]
    split
    next list isList => exact absurd isList (noList list)
    next => rfl
  exact same

/-- What is taken out of a pipe no longer waits there. -/
theorem waiting_lt {pipe : Nat} {state : Pipe} (found : kernel.resource? fd = some (.reader pipe))
    (piped : kernel.pipes.get? pipe = some state) (some : state.content ≠ []) (positive : 0 < length)
    (found' : next.resource? fd = .some (.reader pipe))
    (pipes : next.pipes =
      kernel.pipes.insert pipe { state with content := state.content.drop length }) :
    next.waiting fd < kernel.waiting fd := by
  have nonempty := List.length_pos_iff.mpr some
  simp only [waiting, found, found', pipes, piped, Table.get?_insert, if_true, Option.map_some,
    Option.getD_some, List.length_drop]
  omega

/-- A read from a pipe that gives something takes it out of the pipe; one that fails was not
interrupted. -/
theorem readPipe_cases {pipe : Nat} (found : kernel.resource? fd = some (.reader pipe))
    (positive : 0 < length) (ended : readPipe fd pipe length kernel = (outcome, next)) :
    next.faults = kernel.faults ∧
      ((∃ errno, outcome = .error errno ∧ errno ≠ Errno.interrupted) ∨
        ∃ bytes, outcome = .ok bytes ∧ (bytes ≠ [] → next.waiting fd < kernel.waiting fd)) := by
  obtain ⟨opened, opened_fd, -⟩ := resource?_eq_some found
  unfold readPipe at ended
  rw [get_bind_eq, opened_fd] at ended
  cases piped : kernel.pipes.get? pipe with
  | none =>
      rw [piped] at ended
      cases ended
      exact ⟨rfl, .inl ⟨_, rfl, by decide⟩⟩
  | some state =>
      rw [piped] at ended
      dsimp only at ended
      split at ended
      next =>
        split at ended
        next =>
          cases ended
          exact ⟨rfl, .inr ⟨_, rfl, (absurd rfl ·)⟩⟩
        next =>
          split at ended
          next =>
            cases ended
            exact ⟨rfl, .inl ⟨_, rfl, by decide⟩⟩
          next =>
            rw [if_neg (by omega)] at ended
            cases ended
            exact ⟨rfl, .inl ⟨_, rfl, by decide⟩⟩
      next some =>
        have nonempty : state.content ≠ [] := by simpa using some
        rw [if_neg (by omega)] at ended
        generalize (state.hasWriter && state.isFull) = frees, writerOf? _ pipe = writer at ended
        rcases frees with _ | _ <;> rcases writer with _ | writer
        case true.some =>
          cases ended
          exact ⟨rfl, .inr ⟨_, rfl, fun _ => waiting_lt found piped nonempty positive
            (resource?_wakeIf _ _ found fun list same => by cases same) rfl⟩⟩
        all_goals
          cases ended
          exact ⟨rfl, .inr ⟨_, rfl, fun _ => waiting_lt found piped nonempty positive found rfl⟩⟩

/-- A read uses up a planned fault and gives nothing, or what it gives no longer waits; any other
failure of it is no interruption. -/
theorem read_cases (positive : 0 < length) (ended : read fd length kernel = (outcome, next)) :
    LeftOf kernel.faults next.faults ∧
      ((∃ errno, outcome = .error errno ∧ PlansRead kernel.faults errno ∧
          next.faults.length < kernel.faults.length ∧ next.waiting fd = kernel.waiting fd) ∨
        (∃ errno, outcome = .error errno ∧ errno ≠ Errno.interrupted) ∨
        ∃ bytes, outcome = .ok bytes ∧ (bytes ≠ [] → next.waiting fd < kernel.waiting fd)) := by
  obtain ⟨faults, left, met | ⟨errno, met, plans, fewer⟩⟩ := meetTransferFault_cases fd kernel
  · unfold read at ended
    rw [bind_of_ok met, get_bind_eq] at ended
    -- the faults have no part in what is read
    have same : ({ kernel with faults } : Kernel).waiting fd = kernel.waiting fd := rfl
    rw [← same]
    cases found : ({ kernel with faults } : Kernel).resource? fd with
    | none =>
        rw [found] at ended
        cases ended
        exact ⟨left, .inr (.inl ⟨_, rfl, by decide⟩)⟩
    | some resource =>
        rw [found] at ended
        cases resource with
        | reader pipe =>
            obtain ⟨kept, refused | given⟩ := readPipe_cases found positive ended
            · exact ⟨kept ▸ left, .inr (.inl refused)⟩
            · exact ⟨kept ▸ left, .inr (.inr given)⟩
        | timer timer =>
            dsimp only at ended
            split at ended
            next =>
              cases ended
              exact ⟨left, .inr (.inl ⟨_, rfl, by decide⟩)⟩
            next =>
              split at ended
              next =>
                cases ended
                exact ⟨left, .inr (.inl ⟨_, rfl, by decide⟩)⟩
              next counted =>
                cases ended
                refine ⟨left, .inr (.inr ⟨_, rfl, fun _ => ?_⟩)⟩
                rw [waiting, waiting, resource?_setResource, if_pos rfl, found]
                simp only [Option.map_some, if_true, if_neg counted]
                decide
        | file rest =>
            cases ended
            refine ⟨left, .inr (.inr ⟨_, rfl, fun some => ?_⟩)⟩
            have nonempty : rest ≠ [] := by
              rintro rfl
              exact some List.take_nil
            have long := List.length_pos_iff.mpr nonempty
            rw [waiting, waiting, resource?_setResource, if_pos rfl, found]
            simp only [Option.map_some, List.length_drop]
            omega
        | writer | readyList =>
            cases ended
            exact ⟨left, .inr (.inl ⟨_, rfl, by decide⟩)⟩
  · unfold read at ended
    rw [bind_of_error met] at ended
    cases ended
    exact ⟨left, .inl ⟨errno, rfl, plans, fewer, rfl⟩⟩

/-! ## Streams that end -/

/-- What is left of a stream whose end can be seen: that of a file, or of a pipe to which nobody
writes any more. -/
def streamOf? (kernel : Kernel) (fd : Descriptor) : Option Bytes :=
  match kernel.resource? fd with
  | some (.reader pipe) =>
      ((kernel.pipes.get? pipe).filter fun state => !state.hasWriter).map Pipe.content
  | some (.file rest) => some rest
  | _ => none

theorem streamOf?_of_reader {pipe : Nat} {state : Pipe}
    (found : kernel.resource? fd = some (.reader pipe))
    (piped : kernel.pipes.get? pipe = some state) (noWriter : state.hasWriter = false) :
    kernel.streamOf? fd = some state.content := by
  rw [streamOf?, found]
  simp only [piped, Option.filter_some, noWriter, Bool.not_false, if_true, Option.map_some]

theorem readPipe_of_stream {pipe : Nat} {state : Pipe}
    (found : kernel.resource? fd = some (.reader pipe))
    (piped : kernel.pipes.get? pipe = some state) (noWriter : state.hasWriter = false)
    (positive : 0 < length) :
    ∃ next, readPipe fd pipe length kernel = (.ok (state.content.take length), next) ∧
      next.faults = kernel.faults ∧ next.streamOf? fd = some (state.content.drop length) := by
  obtain ⟨opened, opened_fd, -⟩ := resource?_eq_some found
  unfold readPipe
  rw [get_bind_eq, piped, opened_fd]
  dsimp only
  split
  next none =>
    have empty : state.content = [] := List.isEmpty_iff.mp none
    rw [noWriter, empty, List.take_nil, List.drop_nil, ← empty]
    exact ⟨kernel, rfl, rfl, streamOf?_of_reader found piped noWriter⟩
  next some =>
    have left (rest : Pipe) : (kernel.pipes.insert pipe rest).get? pipe = Option.some rest := by
      rw [Table.get?_insert, if_pos rfl]
    have found' (pipes : Table Nat Pipe) : ({ kernel with pipes } : Kernel).resource? fd =
        Option.some (.reader pipe) := found
    rw [if_neg (by omega), noWriter, Bool.false_and]
    exact ⟨_, rfl, rfl, streamOf?_of_reader (found' _) (left _) rfl⟩

/-- A read gives the front of the stream and keeps the rest, unless a planned fault strikes. -/
theorem read_of_stream (finite : kernel.streamOf? fd = some stream) (positive : 0 < length) :
    ∃ next, LeftOf kernel.faults next.faults ∧
      ((∃ errno, read fd length kernel = (.error errno, next) ∧ PlansRead kernel.faults errno ∧
          next.faults.length < kernel.faults.length ∧ next.streamOf? fd = some stream) ∨
        read fd length kernel = (.ok (stream.take length), next) ∧
          next.streamOf? fd = some (stream.drop length)) := by
  obtain ⟨faults, left, met | ⟨errno, met, plans, fewer⟩⟩ := meetTransferFault_cases fd kernel
  · unfold read
    rw [bind_of_ok met, get_bind_eq]
    have finite' : ({ kernel with faults } : Kernel).streamOf? fd = some stream := finite
    cases found : ({ kernel with faults } : Kernel).resource? fd with
    | none =>
        rw [streamOf?, found] at finite'
        cases finite'
    | some resource =>
        cases resource with
        | reader pipe =>
            rw [streamOf?, found] at finite'
            obtain ⟨state, filtered, rfl⟩ := Option.map_eq_some_iff.mp finite'
            obtain ⟨piped, noWriter⟩ := Option.filter_eq_some_iff.mp filtered
            obtain ⟨next, ended, kept, rest⟩ :=
              readPipe_of_stream found piped (by simpa using noWriter) positive
            exact ⟨next, kept ▸ left, .inr ⟨ended, rest⟩⟩
        | file rest =>
            rw [streamOf?, found] at finite'
            cases finite'
            refine ⟨_, left, .inr ⟨rfl, ?_⟩⟩
            rw [streamOf?, resource?_setResource, if_pos rfl, found]
            rfl
        | timer | writer | readyList =>
            rw [streamOf?, found] at finite'
            cases finite'
  · unfold read
    rw [bind_of_error met]
    exact ⟨_, left, .inl ⟨errno, rfl, plans, fewer, finite⟩⟩

end ScriptHost.Kernel
