import ScriptHost.Proofs.Kernel.Standing

/-!
# What calls spare

The calls that open, close, or change what a readiness list watches do so for one
descriptor.  All others stay open, from the same opening, and watch at most what
they watched before.  A number that is taken into use is one that was free, and its
opening is new, so an opening that is over never comes back.
-/

namespace ScriptHost.Kernel

variable {kernel after : Kernel} {fd list : Descriptor} {P : Descriptor → UInt64 → Prop}
  {touched : Descriptor → Prop}

/-- A descriptor is an open readiness list, and what it watches and with which tokens has
a property. -/
def Watches (kernel : Kernel) (list : Descriptor) (P : Descriptor → UInt64 → Prop) : Prop :=
  ∃ opening watches, kernel.standing? list = some (opening, .list watches) ∧
    ∀ fd watch, watches.get? fd = some watch → P fd watch.token

/-- A descriptor is an open readiness list, and all its tokens have a property. -/
def WatchesOnly (kernel : Kernel) (list : Descriptor) (P : UInt64 → Prop) : Prop :=
  kernel.Watches list fun _ => P

/-- What a readiness list watches a descriptor for. -/
def watch? (kernel : Kernel) (list fd : Descriptor) : Option Watch :=
  (kernel.readyList? list).bind fun state => state.watches.get? fd

/-- No opening is ahead of the count. -/
def Numbered (kernel : Kernel) : Prop :=
  ∀ fd opening, kernel.opening? fd = some opening → opening < kernel.openings

/-- Nothing but the touched descriptors is closed, watches more than before, or watches less
of what has stayed open, and every timer that is not touched goes on. -/
structure Spares (touched : Descriptor → Prop) (before after : Kernel) : Prop where
  openings : before.openings ≤ after.openings
  numbered : Numbered before → Numbered after
  /-- What was not open under its number before has a new opening. -/
  reopened : ∀ fd opening, after.opening? fd = some opening →
    before.opening? fd = some opening ∨ before.openings ≤ opening
  opened : ∀ fd opening, ¬touched fd → before.opening? fd = some opening →
    after.opening? fd = some opening
  watching : ∀ list P, ¬touched list → Watches before list P → Watches after list P
  /-- What stays open under its number is watched by an open list as before. -/
  keeping : Numbered before → ∀ list fd opening, ¬touched list → before.opening? list ≠ none →
    before.opening? fd = some opening → after.opening? fd = some opening →
    after.watch? list fd = before.watch? list fd
  ticks : Ticks touched before after

theorem opening?_eq (kernel : Kernel) (fd : Descriptor) :
    kernel.opening? fd = (kernel.standing? fd).map Prod.fst := by
  unfold opening? standing?
  rw [Option.map_map]
  rfl

theorem Still.opening? (still : Still kernel after) (fd : Descriptor) :
    after.opening? fd = kernel.opening? fd := by
  rw [opening?_eq, opening?_eq, still.standing]

/-- What a role watches a descriptor for. -/
def Role.watch? (fd : Descriptor) : Role → Option Watch
  | .list watches => watches.get? fd
  | _ => none

/-- What a list watches depends only on where it stands. -/
theorem watch?_eq (kernel : Kernel) (list fd : Descriptor) :
    kernel.watch? list fd = (kernel.standing? list).bind fun standing => standing.2.watch? fd := by
  unfold watch? readyList? resource? standing?
  cases kernel.opened.get? list with
  | none => rfl
  | some opened => rcases opened with ⟨_ | _ | _ | _ | _, _, _⟩ <;> rfl

theorem watch?_congr (same : after.standing? list = kernel.standing? list) (fd : Descriptor) :
    after.watch? list fd = kernel.watch? list fd := by
  rw [watch?_eq, watch?_eq, same]

theorem Watches.still (watches : Watches kernel list P) (still : Still kernel after) :
    Watches after list P := by
  unfold Watches
  rw [still.standing list]
  exact watches

theorem Watches.opened (watches : Watches kernel list P) : kernel.opening? list ≠ none := by
  rcases watches with ⟨opening, table, stands, _⟩
  rw [opening?_eq, stands]
  exact Option.some_ne_none opening

theorem Still.spares (still : Still kernel after) : Spares touched kernel after where
  openings := Nat.le_of_eq still.openings.symm
  numbered numbered fd opening found := by
    rw [still.opening?] at found
    rw [still.openings]
    exact numbered fd opening found
  reopened fd opening found := by
    rw [still.opening?] at found
    exact .inl found
  opened fd opening _ found := by
    rw [still.opening?]
    exact found
  watching _ _ _ watches := watches.still still
  keeping _ list fd _ _ _ _ _ := watch?_congr (still.standing list) fd
  ticks := still.ticks.beside

namespace Spares

/-- A second call that touches only what the first may touch or has opened. -/
theorem andThen {middle : Kernel} {touched' : Descriptor → Prop}
    (first : Spares touched kernel middle) (second : Spares touched' middle after)
    (within : ∀ fd, touched' fd → touched fd ∨ kernel.opening? fd = none) :
    Spares touched kernel after where
  openings := Nat.le_trans first.openings second.openings
  numbered numbered := second.numbered (first.numbered numbered)
  reopened fd opening found := by
    rcases second.reopened fd opening found with earlier | new
    · exact first.reopened fd opening earlier
    · exact .inr (Nat.le_trans first.openings new)
  opened fd opening untouched found := by
    refine second.opened fd opening ?_ (first.opened fd opening untouched found)
    intro touched'
    rcases within fd touched' with here | closed
    · exact untouched here
    · exact Option.some_ne_none opening (found.symm.trans closed)
  watching list P untouched watches := by
    refine second.watching list P ?_ (first.watching list P untouched watches)
    intro touched'
    rcases within list touched' with here | closed
    · exact untouched here
    · exact watches.opened closed
  keeping numbered list fd opening untouched listed found found' := by
    -- An opening that there was before has not been over in the meantime.
    have between : middle.opening? fd = some opening := by
      rcases second.reopened fd opening found' with earlier | new
      · exact earlier
      · have old := Nat.lt_of_lt_of_le (numbered fd opening found) first.openings
        exact absurd new (Nat.not_le_of_lt old)
    rcases Option.ne_none_iff_exists'.mp listed with ⟨here, listed'⟩
    have stays := first.opened list here untouched listed'
    rw [← first.keeping numbered list fd opening untouched listed found between]
    refine second.keeping (first.numbered numbered) list fd opening (fun touched' => ?_) ?_ between
      found'
    · rcases within list touched' with here | closed
      · exact untouched here
      · exact listed closed
    · rw [stays]
      exact Option.some_ne_none here
  ticks := first.ticks.andThen second.ticks within

theorem weaken {touched' : Descriptor → Prop} (spares : Spares touched kernel after)
    (weaker : ∀ fd, touched fd → touched' fd) : Spares touched' kernel after :=
  andThen (refl_of Still kernel).spares spares fun fd here => .inl (weaker fd here)

instance : IsPreorder Kernel (Spares touched) where
  refl kernel := (refl_of Still kernel).spares
  trans _ _ _ first second := first.andThen second fun _ here => .inl here

end Spares

/-! ## Opening -/

theorem leastDescriptor?_free (found : kernel.leastDescriptor? = some fd) :
    kernel.opened.get? fd = none := by
  unfold leastDescriptor? at found
  dsimp only at found
  split at found
  next free =>
      rw [← Option.some.inj found]
      exact Option.not_isSome_iff_eq_none.mp (by simpa [Table.contains] using free.2)
  next => cases found

theorem freeDescriptor?_free (found : kernel.freeDescriptor? = some fd) :
    kernel.opened.get? fd = none := by
  unfold freeDescriptor? at found
  split at found
  next offer rest offers =>
      split at found
      next free =>
          rw [← Option.some.inj found]
          exact Option.not_isSome_iff_eq_none.mp (by simpa [Table.contains] using free.2)
      next => exact leastDescriptor?_free found
  next => exact leastDescriptor?_free found

/-- What a descriptor that is taken into use looks like. -/
structure Opens (before after : Kernel) (fd : Descriptor) : Prop where
  free : before.opening? fd = none
  openings : after.openings = before.openings + 1
  opened : after.opening? fd = some before.openings
  others : ∀ other, fd ≠ other → after.standing? other = before.standing? other
  ticks : Ticks (fun _ => False) before after

theorem openResource_opens {resource : Resource} {nonblocking : Bool}
    (made : kernel.openResource resource nonblocking = (some fd, after)) :
    Opens kernel after fd := by
  unfold openResource at made
  split at made
  next other free =>
      rcases made with ⟨rfl, rfl⟩
      have closed := freeDescriptor?_free free
      constructor
      case free =>
          rw [opening?, closed]
          rfl
      case openings => rfl
      case opened =>
          rw [opening?, Table.get?_insert, if_pos rfl]
          rfl
      case others =>
          intro other different
          rw [standing?, standing?, Table.get?_insert, if_neg different]
      case ticks =>
          refine ticks_of_timers (Nat.le_refl _) fun other timer _ found => ?_
          rw [resource?, Table.get?_insert, if_neg]
          · exact found
          · rintro rfl
            rw [resource?, closed] at found
            cases found
  next => cases made

theorem openResource_of_none {resource : Resource} {nonblocking : Bool}
    (made : kernel.openResource resource nonblocking = (none, after)) : after = kernel := by
  unfold openResource at made
  split at made
  next => cases made
  next => exact (congrArg Prod.snd made).symm

namespace Opens

theorem spares (opens : Opens kernel after fd) : Spares touched kernel after where
  openings := by
    rw [opens.openings]
    exact Nat.le_succ _
  numbered numbered other opening found := by
    rw [opens.openings]
    by_cases same : fd = other
    · subst same
      rw [opens.opened] at found
      rw [← Option.some.inj found]
      exact Nat.lt_succ_self _
    · rw [opening?_eq, opens.others other same, ← opening?_eq] at found
      exact Nat.lt_succ_of_lt (numbered other opening found)
  reopened other opening found := by
    by_cases same : fd = other
    · subst same
      rw [opens.opened] at found
      exact .inr (Nat.le_of_eq (Option.some.inj found))
    · rw [opening?_eq, opens.others other same, ← opening?_eq] at found
      exact .inl found
  opened other opening _ found := by
    have different : fd ≠ other := by
      rintro rfl
      exact Option.some_ne_none opening (found.symm.trans opens.free)
    rw [opening?_eq, opens.others other different, ← opening?_eq]
    exact found
  watching other P _ watches := by
    have different : fd ≠ other := by
      rintro rfl
      exact watches.opened opens.free
    unfold Watches
    rw [opens.others other different]
    exact watches
  keeping _ list other _ _ listed _ _ := by
    have different : fd ≠ list := by
      rintro rfl
      exact listed opens.free
    exact watch?_congr (opens.others list different) other
  ticks := opens.ticks.beside

theorem after_still {before : Kernel} (still : Still before kernel)
    (opens : Opens kernel after fd) : Opens before after fd where
  free := by
    rw [← still.opening?]
    exact opens.free
  openings := by
    rw [opens.openings, still.openings]
  opened := by
    rw [opens.opened, still.openings]
  others other different := by
    rw [opens.others other different, still.standing]
  ticks := trans_of (Ticks _) still.ticks opens.ticks

/-- What happens only to the descriptor that has been opened. -/
theorem andThen {later : Kernel} (opens : Opens kernel after fd) (stands : Stands after later)
    (ticks : Ticks (fun other => other = fd) after later) : Opens kernel later fd where
  free := opens.free
  openings := by
    rw [stands.openings, opens.openings]
  opened := by
    rw [opening?_eq, stands.standing, ← opening?_eq, opens.opened]
  others other different := by
    rw [stands.standing, opens.others other different]
  ticks := opens.ticks.andThen ticks fun other same => .inr (same ▸ opens.free)

end Opens

/-- What the calls that make a descriptor for a new resource have in common. -/
def create (call : String) (resource : Resource) (nonblocking : Bool) :
    KernelCall Descriptor := do
  meetFault call
  match (← get).openResource resource nonblocking with
  | (some fd, kernel) =>
      set kernel
      pure fd
  | (none, _) => throw Errno.tooManyOpened

section Create

variable {call : String} {resource : Resource} {nonblocking : Bool}

theorem create_of_ok (made : create call resource nonblocking kernel = (.ok fd, after)) :
    ∃ middle, Still kernel middle ∧ middle.now = kernel.now ∧
      middle.openResource resource nonblocking = (some fd, after) := by
  unfold create at made
  rcases bind_eq_ok_iff.mp made with ⟨_, middle, met, made⟩
  have still := still_meetFault call kernel
  have passed := meetFault_now call kernel
  rw [met] at still passed
  rw [get_bind_eq] at made
  rcases opened : middle.openResource resource nonblocking with ⟨_ | other, later⟩
  · rw [opened] at made
    cases made
  · rw [opened] at made
    cases made
    exact ⟨middle, still, passed, opened⟩

theorem create_of_error {errno : Int}
    (made : create call resource nonblocking kernel = (.error errno, after)) :
    Still kernel after := by
  unfold create at made
  have still := still_meetFault call kernel
  rcases bind_eq_error_iff.mp made with met | ⟨_, middle, met, made⟩ <;> rw [met] at still
  · exact still
  · rw [get_bind_eq] at made
    rcases opened : middle.openResource resource nonblocking with ⟨_ | other, later⟩
    · rw [opened] at made
      cases made
      exact still
    · rw [opened] at made
      cases made

end Create

theorem now_openResource {resource : Resource} {nonblocking : Bool}
    (made : kernel.openResource resource nonblocking = (some fd, after)) :
    after.now = kernel.now := by
  unfold openResource at made
  split at made <;> cases made
  rfl

theorem createTimer_of_ok (made : createTimer kernel = (.ok fd, after)) :
    Opens kernel after fd ∧ after.now = kernel.now := by
  rcases create_of_ok made with ⟨middle, still, passed, opened⟩
  exact ⟨(openResource_opens opened).after_still still, (now_openResource opened).trans passed⟩

theorem createTimer_of_error {errno : Int} (made : createTimer kernel = (.error errno, after)) :
    Still kernel after :=
  create_of_error made

theorem createReadyList_of_ok (made : createReadyList kernel = (.ok fd, after)) :
    Opens kernel after fd ∧ Watches after fd P := by
  rcases create_of_ok made with ⟨middle, still, _, opened⟩
  refine ⟨(openResource_opens opened).after_still still, middle.openings, .empty, ?_, ?_⟩
  · unfold openResource at opened
    split at opened
    next other free =>
        rcases opened with ⟨rfl, rfl⟩
        rw [standing?, Table.get?_insert, if_pos rfl]
        rfl
    next => cases opened
  · intro other watch watched
    cases watched

theorem createReadyList_of_error {errno : Int}
    (made : createReadyList kernel = (.error errno, after)) : Still kernel after :=
  create_of_error made

theorem spares_openResource (kernel : Kernel) (resource : Resource) (nonblocking : Bool) :
    Spares touched kernel (kernel.openResource resource nonblocking).2 := by
  rcases made : kernel.openResource resource nonblocking with ⟨_ | fd, after⟩
  · rw [openResource_of_none made]
    exact refl_of _ kernel
  · exact (openResource_opens made).spares

theorem spares_openPipe (kernel : Kernel) : Spares touched kernel kernel.openPipe.2 := by
  have piped : Still kernel
      { kernel with pipes := kernel.pipes.insert kernel.pipes.size ⟨[], true, true⟩ } :=
    still_of_opened rfl rfl (Nat.le_refl _)
  exact trans_of _ piped.spares (trans_of _ (spares_openResource _ _ _) (spares_openResource _ _ _))

/-! ## Closing -/

/-- What a resource is to others when a descriptor has been closed. -/
def Role.without (fd : Descriptor) : Role → Role
  | .list watches => .list (watches.erase fd)
  | role => role

/-- Where a descriptor stands when another has been closed. -/
def unwatched (fd : Descriptor) (standing : Nat × Role) : Nat × Role :=
  (standing.1, standing.2.without fd)

theorem standing?_unwatch (kernel : Kernel) (fd other : Descriptor) :
    (kernel.unwatch fd).standing? other = (kernel.standing? other).map (unwatched fd) := by
  rw [standing?, standing?, unwatch, Table.get?_mapValues]
  cases kernel.opened.get? other with
  | none => rfl
  | some opened =>
      rcases opened with ⟨resource, nonblocking, opening⟩
      cases resource <;> rfl

theorem standing?_close (kernel : Kernel) (fd other : Descriptor) :
    (kernel.close fd).standing? other =
      if fd = other then none else
        if (kernel.opening? fd).isSome then (kernel.standing? other).map (unwatched fd)
        else kernel.standing? other := by
  unfold close
  cases found : kernel.resource? fd with
  | none =>
      have closed : kernel.opened.get? fd = none := Option.map_eq_none_iff.mp found
      dsimp only
      rw [opening?, closed]
      by_cases same : fd = other
      · subst same
        rw [standing?, closed, if_pos rfl]
        rfl
      · rw [if_neg same]
        rfl
  | some resource =>
      rcases resource?_eq_some found with ⟨opened, opened_fd, _⟩
      dsimp only
      rw [(still_hangUp _ resource).standing, standing?_unwatch, opening?, opened_fd]
      change Option.map _ (Option.map _ (Table.get? (Table.erase _ _) _)) = _
      rw [Table.get?_erase]
      split
      · rfl
      · rfl

theorem opening?_close (kernel : Kernel) (fd other : Descriptor) :
    (kernel.close fd).opening? other = if fd = other then none else kernel.opening? other := by
  rw [opening?_eq, standing?_close, opening?_eq kernel other]
  split
  · rfl
  · split
    · rw [Option.map_map]
      rfl
    · rfl

theorem openings_close (kernel : Kernel) (fd : Descriptor) :
    (kernel.close fd).openings = kernel.openings := by
  unfold close
  split
  · rfl
  · exact (still_hangUp _ _).openings

theorem opening?_close_self (kernel : Kernel) (fd : Descriptor) :
    (kernel.close fd).opening? fd = none := by
  rw [opening?_close, if_pos rfl]

/-- Closing takes what is closed off all lists, and nothing else. -/
theorem watch?_close (kernel : Kernel) {other : Descriptor} (here : fd ≠ list)
    (away : fd ≠ other) : (kernel.close fd).watch? list other = kernel.watch? list other := by
  rw [watch?_eq, watch?_eq, standing?_close, if_neg here]
  split
  · rw [Option.bind_map]
    congr 1
    funext standing
    rcases standing with ⟨opening, _ | watches | _⟩
    case list => exact (Table.get?_erase watches fd other).trans (if_neg away)
    all_goals rfl
  · rfl

theorem ticks_close (kernel : Kernel) (fd : Descriptor) :
    Ticks (fun other => other = fd) kernel (kernel.close fd) := by
  unfold close
  split
  next => exact refl_of (Ticks _) kernel
  next resource _ =>
      have erased : Ticks (fun other => other = fd) kernel
          { kernel with opened := kernel.opened.erase fd } :=
        ticks_of_timers (Nat.le_refl _) fun other timer different found => by
          rw [resource?, Table.get?_erase, if_neg fun same => different same.symm]
          exact found
      refine trans_of (Ticks _) erased (trans_of (Ticks _) (ticks_mapValues ?_)
        (still_hangUp _ resource).ticks.beside)
      intro other opened timer timed
      rw [timed]

theorem spares_close (kernel : Kernel) (fd : Descriptor) :
    Spares (fun other => other = fd) kernel (kernel.close fd) := by
  have older {other : Descriptor} {opening : Nat}
      (found : (kernel.close fd).opening? other = some opening) :
      kernel.opening? other = some opening := by
    rw [opening?_close] at found
    split at found
    · cases found
    · exact found
  constructor
  case openings => exact Nat.le_of_eq (openings_close kernel fd).symm
  case numbered =>
      intro numbered other opening found
      rw [openings_close]
      exact numbered other opening (older found)
  case reopened => exact fun other opening found => .inl (older found)
  case opened =>
      intro other opening different found
      rw [opening?_close, if_neg (Ne.symm different)]
      exact found
  case watching =>
      rintro other P different ⟨opening, watches, stands, all⟩
      unfold Watches
      rw [standing?_close, if_neg (Ne.symm different), stands]
      split
      · refine ⟨opening, watches.erase fd, rfl, fun watched watch found => ?_⟩
        rw [Table.get?_erase] at found
        split at found
        · cases found
        · exact all watched watch found
      · exact ⟨opening, watches, rfl, all⟩
  case keeping =>
      intro _ list other opening different _ _ found
      rw [opening?_close] at found
      split at found
      next => cases found
      next away => exact watch?_close kernel (Ne.symm different) away
  case ticks => exact ticks_close kernel fd

/-! ## Registrations -/

/-- What lies between two kernels may touch one readiness list, which keeps to watches
with a property. -/
structure Tends (list : Descriptor) (P : Descriptor → UInt64 → Prop) (before after : Kernel) : Prop where
  spares : Spares (fun other => other = list) before after
  watching : Watches before list P → Watches after list P

instance : IsPreorder Kernel (Tends list P) where
  refl kernel := ⟨refl_of _ kernel, id⟩
  trans _ _ _ first second :=
    ⟨trans_of _ first.spares second.spares, fun watches =>
      second.watching (first.watching watches)⟩

theorem Still.tends (still : Still kernel after) : Tends list P kernel after :=
  ⟨still.spares, fun watches => watches.still still⟩

theorem standing?_setResource_of_ne (kernel : Kernel) {other : Descriptor} (resource : Resource)
    (different : fd ≠ other) :
    (kernel.setResource fd resource).standing? other = kernel.standing? other := by
  rw [standing?, standing?, setResource, Table.get?_modify, if_neg different]

theorem opening?_setResource (kernel : Kernel) (fd other : Descriptor) (resource : Resource) :
    (kernel.setResource fd resource).opening? other = kernel.opening? other := by
  rw [opening?, opening?, setResource, Table.get?_modify]
  split
  · rw [Option.map_map]
    rfl
  · rfl

theorem spares_setResource (kernel : Kernel) (list : Descriptor) (resource : Resource) :
    Spares (fun other => other = list) kernel (kernel.setResource list resource) where
  openings := Nat.le_refl _
  numbered numbered fd opening found := by
    rw [opening?_setResource] at found
    exact numbered fd opening found
  reopened fd opening found := by
    rw [opening?_setResource] at found
    exact .inl found
  opened fd opening _ found := by
    rw [opening?_setResource]
    exact found
  watching other P different watches := by
    unfold Watches
    rw [standing?_setResource_of_ne kernel resource (Ne.symm different)]
    exact watches
  keeping _ other fd _ different _ _ _ :=
    watch?_congr (standing?_setResource_of_ne kernel resource (Ne.symm different)) fd
  ticks := ticks_of_timers (Nat.le_refl _) fun other timer different found => by
    rw [resource?_setResource, if_neg (Ne.symm different)]
    exact found

/-- The registrations of a list are those that it watches. -/
theorem standing?_of_readyList {state : ReadyList} (found : kernel.readyList? list = some state) :
    ∃ opening, kernel.standing? list = some (opening, .list state.watches) := by
  rcases resource?_eq_some (readyList?_eq_some found) with ⟨opened, open_list, same⟩
  refine ⟨opened.opening, ?_⟩
  rw [standing?, open_list, Option.map_some, Opened.standing, same]
  rfl

theorem Watches.token {state : ReadyList} (watches : Watches kernel list P)
    (found : kernel.readyList? list = some state) {watch : Watch}
    (watched : state.watches.get? fd = some watch) : P fd watch.token := by
  rcases watches with ⟨opening, table, stands, all⟩
  rcases standing?_of_readyList found with ⟨opening', stands'⟩
  have same : table = state.watches :=
    Role.list.inj (congrArg Prod.snd (Option.some.inj (stands.symm.trans stands')))
  rw [same] at all
  exact all fd watch watched

/-- Other registrations for a readiness list. -/
theorem tends_setWatches {state : ReadyList} (found : kernel.readyList? list = some state)
    (watches : Table Descriptor Watch) (queue : List Descriptor)
    (all : (∀ fd watch, state.watches.get? fd = some watch → P fd watch.token) →
      ∀ fd watch, watches.get? fd = some watch → P fd watch.token) :
    Tends list P kernel (kernel.setResource list (.readyList ⟨watches, queue⟩)) := by
  refine ⟨spares_setResource kernel list _, fun before => ?_⟩
  rcases resource?_eq_some (readyList?_eq_some found) with ⟨opened, open_list, _⟩
  refine ⟨opened.opening, watches, ?_, all fun fd watch watched => before.token found watched⟩
  rw [standing?, setResource, Table.get?_modify, if_pos rfl, open_list]
  rfl

/-- The checks that such calls start with meet a fault, if one is planned, and change nothing else. -/
theorem registrations_world (list fd : Descriptor) (kernel : Kernel) :
    (registrations list fd kernel).2 = (meetFault "epoll_ctl" kernel).2 := by
  unfold registrations
  rcases met : meetFault "epoll_ctl" kernel with ⟨errno | _, middle⟩
  · rw [bind_of_error met]
  · rw [bind_of_ok met, get_bind_eq]
    generalize middle.resource? fd = resource, middle.readyList? list = listed
    rcases resource with _ | _ | _ | _ | _ | _ <;> cases listed <;> rfl

theorem still_registrations (list fd : Descriptor) : Keeps Still (registrations list fd) := by
  intro kernel
  rw [registrations_world]
  exact still_meetFault "epoll_ctl" kernel

/-- The checks are passed where the list is there and the descriptor is open. -/
theorem registrations_of_ok {state : ReadyList}
    (ended : registrations list fd kernel = (.ok state, after)) :
    after.readyList? list = some state ∧ ∃ resource, after.resource? fd = some resource := by
  unfold registrations at ended
  rcases bind_eq_ok_iff.mp ended with ⟨_, middle, -, ended⟩
  rw [get_bind_eq] at ended
  generalize found : middle.resource? fd = resource, listed : middle.readyList? list = state? at ended
  rcases resource with _ | _ | _ | _ | _ | _ <;> cases state? <;> cases ended <;>
    exact ⟨listed, _, found⟩

/-- A registration with another token. -/
theorem tends_insert {state : ReadyList} {watch : Watch} (holds : P fd watch.token)
    (found : kernel.readyList? list = some state) :
    Tends list P kernel ((kernel.setResource list
      (.readyList { state with watches := state.watches.insert fd watch })).queueIfReady list fd) := by
  refine trans_of (Tends list P) ?_ (still_queueIfReady _ list fd).tends
  refine tends_setWatches found _ _ fun before other watched inserted => ?_
  rw [Table.get?_insert] at inserted
  split at inserted
  next same =>
      rw [← same, ← Option.some.inj inserted]
      exact holds
  next => exact before other watched inserted

theorem tends_watch (list fd : Descriptor) {token : UInt64} (holds : P fd token)
    (interest : Interest) : Keeps (Tends list P) (watch list fd token interest) := by
  intro kernel
  refine Keeps.bind_from (still_registrations list fd kernel).tends fun state after ended => ?_
  split
  · exact refl_of (Tends list P) after
  · exact tends_insert holds (registrations_of_ok ended).1

theorem tends_rewatch (list fd : Descriptor) {token : UInt64} (holds : P fd token)
    (interest : Interest) : Keeps (Tends list P) (rewatch list fd token interest) := by
  intro kernel
  refine Keeps.bind_from (still_registrations list fd kernel).tends fun state after ended => ?_
  split
  · exact refl_of (Tends list P) after
  · exact tends_insert holds (registrations_of_ok ended).1

theorem tends_forget (list fd : Descriptor) : Keeps (Tends list P) (forget list fd) := by
  intro kernel
  refine Keeps.bind_from (still_registrations list fd kernel).tends fun state after ended => ?_
  split
  · exact refl_of (Tends list P) after
  · refine tends_setWatches (registrations_of_ok ended).1 _ _ fun before other watch watched => ?_
    rw [Table.get?_erase] at watched
    split at watched
    · cases watched
    · exact before other watch watched

/-! ## Reports -/

/-- What a descriptor is like when it is reported to be ready: a timer has expired. -/
def Shows (kernel : Kernel) (fd : Descriptor) : Prop :=
  ∀ timer, kernel.resource? fd = some (.timer timer) → 0 < timer.count

theorem shows_of_heard {watch : Watch} (heard : (kernel.heard fd watch).bits ≠ 0) :
    kernel.Shows fd := by
  intro timer found
  refine Nat.pos_of_ne_zero fun none => heard ?_
  have unready : kernel.readiness fd = .nothing := by
    simp only [readiness, found, none]
    rfl
  rw [Kernel.heard, unready]
  exact UInt8.zero_and

/-- A readiness list is no timer, whatever is queued in it. -/
theorem Shows.requeue {state : ReadyList} (showing : kernel.Shows fd) (list : Descriptor) :
    (kernel.setResource list (.readyList state)).Shows fd := by
  intro timer found
  rw [resource?_setResource] at found
  split at found
  next =>
      cases there : kernel.resource? fd <;> rw [there] at found <;> cases found
  next => exact showing timer found

/-- Every event is for something that is watched and shows it. -/
def Reports (P : Descriptor → UInt64 → Prop) (events : List Readiness) (after : Kernel) : Prop :=
  ∀ event ∈ events, ∃ fd, P fd event.token ∧ after.Shows fd

theorem reports_nil (after : Kernel) : Reports P [] after :=
  fun _ member => absurd member List.not_mem_nil

theorem walk_reports {watches : Table Descriptor Watch}
    (all : ∀ fd watch, watches.get? fd = some watch → P fd watch.token) (room : Nat)
    (queue : List Descriptor) : Reports P (kernel.walk watches room queue).events kernel := by
  induction queue generalizing room with
  | nil => cases room <;> exact reports_nil kernel
  | cons fd rest ih =>
      cases room with
      | zero => exact reports_nil kernel
      | succ room =>
          unfold walk
          split
          next watch watched =>
              dsimp only
              split
              next heard =>
                  intro event member
                  rcases List.mem_cons.mp member with rfl | later
                  · exact ⟨fd, all fd watch watched, shows_of_heard heard⟩
                  · exact ih room event later
              next => exact ih (room + 1)
          next => exact ih (room + 1)

theorem collect_reports (watches : Watches kernel list P) (room : Nat) :
    Reports P (kernel.collect list room).1 (kernel.collect list room).2 := by
  unfold collect
  split
  next state found =>
      intro event member
      rcases walk_reports (fun _ _ watched => watches.token found watched) room _ event member with
        ⟨fd, holds, showing⟩
      exact ⟨fd, holds, showing.requeue list⟩
  next => exact reports_nil kernel

theorem collectBy_reports {room : Nat} {deadline : Option Nat} {jumps : Nat}
    {events : List Readiness} (watches : Watches kernel list P)
    (ended : collectBy list room deadline jumps kernel = (.ok events, after)) :
    Reports P events after := by
  induction jumps generalizing kernel deadline with
  | zero => cases ended
  | succ jumps ih =>
      have reports := collect_reports watches room
      have collected := watches.still (still_collect kernel list room)
      unfold collectBy at ended
      rw [get_bind_eq] at ended
      generalize kernel.collect list room = found at reports collected ended
      rcases found with ⟨found, middle⟩
      dsimp only at reports collected ended
      rw [set_bind_eq] at ended
      split at ended
      · cases ended
        exact reports
      · generalize middle.nextAlarm? = next at ended
        rcases next with _ | ⟨armed, alarm⟩ <;> cases deadline
        case none.none => cases ended
        case none.some =>
            cases ended
            exact reports_nil _
        case some.none =>
            dsimp only at ended
            rw [set_bind_eq] at ended
            exact ih (collected.still (still_fire_at middle _)) ended
        case some.some deadline =>
            dsimp only at ended
            split at ended
            · rw [set_bind_eq] at ended
              exact ih (collected.still (still_fire_at middle _)) ended
            · cases ended
              exact reports_nil _

theorem wait_reports {room : Nat} {timeout : Option Nat} {events : List Readiness}
    (watches : Watches kernel list P)
    (ended : wait list room timeout kernel = (.ok events, after)) : Reports P events after := by
  unfold wait at ended
  rcases bind_eq_ok_iff.mp ended with ⟨_, middle, struck, ended⟩
  rw [get_bind_eq, set_bind_eq] at ended
  have met := watches.still (still_meetFault "epoll_wait" kernel)
  rw [struck] at met
  have counted : Watches { middle with waits := middle.waits + 1 } list P :=
    met.still (still_of_opened rfl rfl (Nat.le_refl _))
  generalize middle.waitLimit = limit at counted ended
  cases limit with
  | none =>
      dsimp only at ended
      exact collectBy_reports counted ended
  | some limit =>
      dsimp only at ended
      split at ended
      · cases ended
      · exact collectBy_reports counted ended

end ScriptHost.Kernel
