import Mathlib.Data.List.Forall2
import ScriptHost.Proofs.Kernel.Lines

/-!
# The front of a line

A wait walks over the queue of its readiness list until its room is used up.  From a line
of timers it takes the front: what is reported is in order and comes before what is left,
and what is left has kept its place, however many times the clock has jumped meanwhile.
-/

namespace ScriptHost.Kernel

variable {kernel after : Kernel} {list fd fd' : Descriptor} {due due' : Alarm}

/-! ## Walks -/

section Walks

variable {watches : Table Descriptor Watch} {dues : Dues}

theorem mem_of_walk (kernel : Kernel) (watches : Table Descriptor Watch) (room : Nat)
    (queue : List Descriptor) :
    ∀ fd ∈ (kernel.walk watches room queue).reported ++ (kernel.walk watches room queue).unreached,
      fd ∈ queue := by
  induction queue generalizing room with
  | nil => cases room <;> exact fun fd member => member
  | cons head rest ih =>
      cases room with
      | zero => exact fun fd member => member
      | succ room =>
          intro fd member
          unfold walk at member
          split at member
          · dsimp only at member
            split at member
            · rcases List.mem_cons.mp member with rfl | later
              · exact List.mem_cons_self
              · exact List.mem_cons_of_mem _ (ih room fd later)
            · exact List.mem_cons_of_mem _ (ih (room + 1) fd member)
          · exact List.mem_cons_of_mem _ (ih (room + 1) fd member)

/-- A walk passes by nothing that is due. -/
theorem filterMap_walk (kernel : Kernel) (room : Nat) {queue : List Descriptor}
    (ready : ∀ fd ∈ queue, dues fd ≠ none →
      ∃ watch, watches.get? fd = some watch ∧ (kernel.heard fd watch).bits ≠ 0) :
    ((kernel.walk watches room queue).reported ++
      (kernel.walk watches room queue).unreached).filterMap dues = queue.filterMap dues := by
  induction queue generalizing room with
  | nil => cases room <;> rfl
  | cons head rest ih =>
      cases room with
      | zero => rfl
      | succ room =>
          have later := fun room => ih room fun fd member => ready fd (List.mem_cons_of_mem _ member)
          have passed (unready : ¬∃ watch, watches.get? head = some watch ∧
              (kernel.heard head watch).bits ≠ 0) :
              (head :: rest).filterMap dues = rest.filterMap dues := by
            have undue : dues head = none := by
              cases due : dues head with
              | none => rfl
              | some time =>
                  have due : dues head ≠ none := by
                    rw [due]
                    exact Option.some_ne_none time
                  exact absurd (ready head List.mem_cons_self due) unready
            rw [List.filterMap_cons, undue]
          unfold walk
          split
          next watch watched =>
              dsimp only
              split
              next =>
                  dsimp only
                  rw [List.cons_append, List.filterMap_cons, List.filterMap_cons, later]
              next unheard =>
                  rw [passed, later]
                  rintro ⟨watch', watched', heard⟩
                  cases watched.symm.trans watched'
                  exact unheard heard
          next unwatched =>
              rw [passed, later]
              rintro ⟨watch', watched', _⟩
              rw [unwatched] at watched'
              cases watched'

/-- Each event bears the token of what is reported. -/
theorem walk_tokens (kernel : Kernel) (watches : Table Descriptor Watch) (room : Nat)
    (queue : List Descriptor) :
    List.Forall₂ (fun event fd => ∃ watch, watches.get? fd = some watch ∧ event.token = watch.token)
      (kernel.walk watches room queue).events (kernel.walk watches room queue).reported := by
  induction queue generalizing room with
  | nil => cases room <;> exact .nil
  | cons head rest ih =>
      cases room with
      | zero => exact .nil
      | succ room =>
          unfold walk
          split
          next watch watched =>
              dsimp only
              split
              · exact .cons ⟨watch, watched, rfl⟩ (ih room)
              · exact ih (room + 1)
          next => exact ih (room + 1)

end Walks

/-! ## Waits -/

/-- The front of a line has been reported: it is in order, what is left comes after it, and has
kept its place. -/
structure Fronts (kernel : Kernel) (list : Descriptor) (dues : Dues) (events : List Readiness)
    (reported : List Descriptor) : Prop where
  tokens : List.Forall₂
    (fun event fd => ∃ watch, kernel.watch? list fd = some watch ∧ event.token = watch.token)
    events reported
  sorted : (reported.filterMap dues).Pairwise fun due due' => due.before due' = true
  first : ∀ fd ∈ reported, ∀ due, dues fd = some due →
    ∀ fd' due', fd' ∉ reported → dues fd' = some due' → due.before due' = true
  lapsed : ∀ fd ∈ reported, ∀ due, dues fd = some due → due.expiry ≤ kernel.now
  rest : Lined kernel list (dues.outside reported)

theorem outside_nil (dues : Dues) : dues.outside [] = dues :=
  funext fun _ => if_neg List.not_mem_nil

theorem due_of_outside {dues : Dues} {fds : List Descriptor} (found : dues.outside fds fd = some due) :
    fd ∉ fds ∧ dues fd = some due := by
  unfold Dues.outside at found
  split at found
  · cases found
  next away => exact ⟨away, found⟩

/-- There is something to be read from a timer that has gone off. -/
theorem Lapsed.heard (lapsed : kernel.Lapsed fd due) (token : UInt64) :
    (kernel.heard fd ⟨token, Interest.readable.requested⟩).bits ≠ 0 := by
  rcases lapsed with ⟨_, count, positive, timed⟩
  rw [Kernel.heard, readiness, timed]
  simp only [positive, decide_true]
  decide

namespace Lined

variable {dues : Dues}

/-- Nothing has been reported. -/
theorem fronts_nil (lined : Lined kernel list dues) : Fronts kernel list dues [] [] where
  tokens := .nil
  sorted := List.Pairwise.nil
  first _ member := absurd member List.not_mem_nil
  lapsed _ member := absurd member List.not_mem_nil
  rest := by
    rw [outside_nil]
    exact lined

/-- What is due is watched, so the list is there. -/
theorem watch_of_readyList (lined : Lined kernel list dues) {state : ReadyList}
    (found : kernel.readyList? list = some state) (dueAt : dues fd = some due) :
    ∃ token, state.watches.get? fd = some ⟨token, Interest.readable.requested⟩ := by
  rcases lined.watched fd due dueAt with ⟨token, watched⟩
  rw [watch?_of_readyList found] at watched
  exact ⟨token, watched⟩

/-- Another queue, in which those that stay in line have their places. -/
theorem requeue {fewer : Dues} (lined : Lined kernel list dues) {state : ReadyList}
    (found : kernel.readyList? list = some state) {queue : List Descriptor}
    (subset : ∀ fd ∈ queue, fd ∈ state.queue)
    (weaker : ∀ fd due, fewer fd = some due → dues fd = some due)
    (stays : ∀ fd due, fewer fd = some due → fd ∈ state.queue → fd ∈ queue)
    (sorted : (queue.filterMap fewer).Pairwise fun due due' => due.before due' = true) :
    Lined (kernel.setResource list (.readyList { state with queue })) list fewer := by
  have listed := readyList?_setResource found { state with queue }
  have queued := queueOf_of_readyList listed
  have before := queueOf_of_readyList found
  have timers {fd : Descriptor} {timer : Timer} (timed : kernel.resource? fd = some (.timer timer)) :
      (kernel.setResource list (.readyList { state with queue })).resource? fd =
        some (.timer timer) :=
    have freezes : Freezes list kernel (kernel.setResource list (.readyList { state with queue })) :=
      freezes_setList found _
    freezes.timers fd timer
      (fun same => by rw [← same, readyList?_eq_some found] at timed; cases timed) timed
  have mem {fd : Descriptor} {due : Alarm} (dueAt : fewer fd = some due) :
      fd ∈ queue ↔ fd ∈ state.queue := ⟨subset fd, stays fd due dueAt⟩
  have armed {fd : Descriptor} {due : Alarm} (dueAt : fewer fd = some due) :
      (kernel.setResource list (.readyList { state with queue })).alarm? fd = kernel.alarm? fd := by
    refine alarm?_congr ?_
    by_cases present : fd ∈ kernel.queueOf list
    · rcases lined.lapsed fd due (weaker fd due dueAt) present with ⟨_, _, _, timed⟩
      rw [timers timed, timed]
    · rcases lined.pends fd due (weaker fd due dueAt) present with ⟨_, _, timed⟩
      rw [timers timed, timed]
  constructor
  case watched =>
      intro fd due dueAt
      have watched := lined.watch_of_readyList found (weaker fd due dueAt)
      rw [watch?_of_readyList listed]
      exact watched
  case opened =>
      intro fd member
      rw [queued] at member
      rw [opening?_setResource]
      refine lined.opened fd ?_
      rw [before]
      exact subset fd member
  case pends =>
      intro fd due dueAt absent
      rw [queued, mem dueAt, ← before] at absent
      rcases lined.pends fd due (weaker fd due dueAt) absent with ⟨serial, early, timed⟩
      exact ⟨serial, early, timers timed⟩
  case lapsed =>
      intro fd due dueAt present
      rw [queued, mem dueAt, ← before] at present
      rcases lined.lapsed fd due (weaker fd due dueAt) present with ⟨past, count, positive, timed⟩
      exact ⟨past, count, positive, timers timed⟩
  case sorted =>
      rw [queued]
      exact sorted
  case ahead =>
      intro fd fd' due due' dueAt dueAt' present absent
      rw [queued, mem dueAt, ← before] at present
      rw [queued, mem dueAt', ← before] at absent
      exact lined.ahead fd fd' due due' (weaker fd due dueAt) (weaker fd' due' dueAt') present absent
  case apart =>
      exact fun fd fd' due due' dueAt dueAt' =>
        lined.apart fd fd' due due' (weaker fd due dueAt) (weaker fd' due' dueAt')
  case armed =>
      intro fd fd' due due' alarm alarm' dueAt dueAt' armed₁ armed₂
      rw [armed dueAt] at armed₁
      rw [armed dueAt'] at armed₂
      exact lined.armed fd fd' due due' alarm alarm' (weaker fd due dueAt) (weaker fd' due' dueAt')
        armed₁ armed₂

/-- A collection takes the front of the line, which goes to the end of the queue. -/
theorem collect (lined : Lined kernel list dues) (room : Nat) :
    ∃ reported, Fronts (kernel.collect list room).2 list dues (kernel.collect list room).1
      reported := by
  rcases listed : kernel.readyList? list with _ | state
  · rw [Kernel.collect, listed]
    exact ⟨[], lined.fronts_nil⟩
  · have queued := queueOf_of_readyList listed
    have ready : ∀ fd ∈ state.queue, dues fd ≠ none →
        ∃ watch, state.watches.get? fd = some watch ∧ (kernel.heard fd watch).bits ≠ 0 := by
      intro fd member due
      rcases Option.ne_none_iff_exists'.mp due with ⟨time, found⟩
      rcases lined.watch_of_readyList listed found with ⟨token, watched⟩
      rw [← queued] at member
      exact ⟨_, watched, (lined.lapsed fd time found member).heard token⟩
    have kept := filterMap_walk kernel room ready
    have old := mem_of_walk kernel state.watches room state.queue
    have tokens := walk_tokens kernel state.watches room state.queue
    rw [Kernel.collect, listed]
    dsimp only
    generalize kernel.walk state.watches room state.queue = found at kept old tokens ⊢
    rcases found with ⟨events, reported, unreached⟩
    dsimp only at kept old tokens ⊢
    have sorted := lined.sorted
    rw [queued, ← kept, List.filterMap_append, List.pairwise_append] at sorted
    rcases sorted with ⟨front, back, across⟩
    have placed {fd : Descriptor} {due : Alarm} (dueAt : dues fd = some due)
        (member : fd ∈ state.queue) : fd ∈ reported ++ unreached := by
      have among : due ∈ (reported ++ unreached).filterMap dues := by
        rw [kept]
        exact List.mem_filterMap.mpr ⟨fd, member, dueAt⟩
      rcases List.mem_filterMap.mp among with ⟨fd', member', dueAt'⟩
      rw [lined.apart fd fd' due due dueAt dueAt' rfl]
      exact member'
    have left {fd : Descriptor} {due : Alarm} (dueAt : dues fd = some due)
        (member : fd ∈ state.queue) (away : fd ∉ reported) : fd ∈ unreached :=
      (List.mem_append.mp (placed dueAt member)).resolve_left away
    refine ⟨reported, ?_, front, fun fd member due dueAt fd' due' away dueAt' => ?_,
      fun fd member due dueAt => ?_, ?_⟩
    · refine tokens.imp fun event fd watched => ?_
      rw [watch?_of_readyList (readyList?_setResource listed _)]
      exact watched
    · by_cases member' : fd' ∈ state.queue
      · exact across due (List.mem_filterMap.mpr ⟨fd, member, dueAt⟩) due'
          (List.mem_filterMap.mpr ⟨fd', left dueAt' member' away, dueAt'⟩)
      · rw [← queued] at member' old
        exact lined.ahead fd fd' due due' dueAt dueAt' (old fd (List.mem_append_left _ member)) member'
    · rw [← queued] at old
      exact (lined.lapsed fd due dueAt (old fd (List.mem_append_left _ member))).1
    · refine lined.requeue listed (fun fd member => old fd ?_)
        (fun fd due dueAt => (due_of_outside dueAt).2) (fun fd due dueAt member => ?_) ?_
      · exact List.mem_append.mpr (List.mem_append.mp member).symm
      · rcases due_of_outside dueAt with ⟨away, dueAt⟩
        exact List.mem_append_left _ (left dueAt member away)
      · have gone : reported.filterMap (dues.outside reported) = [] :=
          List.filterMap_eq_nil_iff.mpr fun fd member => if_pos member
        rw [List.filterMap_append, gone, List.append_nil]
        exact back.sublist (filterMap_sublist (fun fd due dueAt => (due_of_outside dueAt).2) _)

end Lined

/-- What a wait comes to. -/
inductive Awaited (list : Descriptor) (dues : Dues) : Except Int (List Readiness) × Kernel → Prop where
  /-- The front of the line has been reported. -/
  | reported {events : List Readiness} {after : Kernel} {reported : List Descriptor}
      (fronts : Fronts after list dues events reported) : Awaited list dues (.ok events, after)
  /-- The wait has failed, and the line stands. -/
  | failed {errno : Int} {after : Kernel} (lined : Lined after list dues) :
      Awaited list dues (.error errno, after)

namespace Lined

variable {dues : Dues}

theorem of_fronts_nil {reported : List Descriptor} (fronts : Fronts kernel list dues [] reported) :
    Lined kernel list dues := by
  have rest := fronts.rest
  cases fronts.tokens
  rw [outside_nil] at rest
  exact rest

theorem collectBy (lined : Lined kernel list dues) (room : Nat) (deadline : Option Nat)
    (jumps : Nat) : Awaited list dues (collectBy list room deadline jumps kernel) := by
  induction jumps generalizing kernel deadline with
  | zero => exact .failed lined
  | succ jumps ih =>
      rcases lined.collect room with ⟨reported, fronts⟩
      unfold Kernel.collectBy
      rw [get_bind_eq]
      generalize kernel.collect list room = found at fronts ⊢
      rcases found with ⟨events, middle⟩
      dsimp only at fronts ⊢
      rw [set_bind_eq]
      cases events with
      | cons event events => exact .reported fronts
      | nil =>
          have stands := of_fronts_nil fronts
          rcases next : middle.nextAlarm? with _ | ⟨armed, alarm⟩ <;> cases deadline
          case none.none => exact .failed stands
          case none.some deadline => exact .reported (stands.moveTo deadline).fronts_nil
          case some.none => exact ih (stands.fire_at alarm.expiry) none
          case some.some deadline =>
              by_cases inTime : alarm.expiry ≤ deadline
              · simp only [inTime, if_true]
                exact ih (stands.fire_at alarm.expiry) (some deadline)
              · simp only [inTime, if_false]
                exact .reported (stands.moveTo deadline).fronts_nil

theorem meetFault (lined : Lined kernel list dues) (call : String) :
    Lined (meetFault call kernel).2 list dues := by
  unfold Kernel.meetFault
  rw [get_bind_eq]
  rcases strike call kernel.faults with ⟨_ | errno, faults⟩ <;>
    exact lined.of_opened rfl (Nat.le_refl _) (Nat.le_refl _)

/-- A wait reports the front of the line. -/
theorem wait (lined : Lined kernel list dues) (room : Nat) (timeout : Option Nat) :
    Awaited list dues (wait list room timeout kernel) := by
  have met := lined.meetFault "epoll_wait"
  unfold Kernel.wait
  rcases struck : Kernel.meetFault "epoll_wait" kernel with ⟨errno | _, middle⟩ <;> rw [struck] at met
  · rw [bind_of_error struck]
    exact .failed met
  · rw [bind_of_ok struck, get_bind_eq, set_bind_eq]
    have counted : Lined { middle with waits := middle.waits + 1 } list dues :=
      met.of_opened rfl (Nat.le_refl _) (Nat.le_refl _)
    generalize middle.waitLimit = limit at counted ⊢
    cases limit with
    | none =>
        dsimp only
        exact counted.collectBy room _ _
    | some most =>
        dsimp only
        split
        · exact .failed counted
        · exact counted.collectBy room _ _

end Lined

end ScriptHost.Kernel
