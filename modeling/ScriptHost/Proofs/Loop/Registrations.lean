import Mathlib.Algebra.Group.Nat.Defs
import ScriptHost.Proofs.Kernel.Watching

/-!
# Registrations and their tokens

A token carries its descriptor and its generation without loss, and as long as
generations do not come round again it names one registration in the whole history
of a loop.  The kernel reports only tokens that the loop has issued.  A registration
that is in force with an old number has been in force ever since, so an event that
finds the registration of its token finds the one that was in force when it was
reported.

The table of registrations and the list in the kernel say the same of what has not been
closed since it was registered, except where the kernel has refused to forget.
-/

namespace ScriptHost

namespace Token

theorem toNat_make (fd : Descriptor) (generation : UInt32) :
    (make fd generation).toNat = 2 ^ 32 * generation.toNat + fd.toUInt32.toNat := by
  have below : generation.toNat <<< 32 < 2 ^ 64 := by
    have := generation.toNat_lt
    rw [Nat.shiftLeft_eq]
    omega
  have shifted : (generation.toUInt64 <<< 32).toNat = 2 ^ 32 * generation.toNat := by
    rw [UInt64.toNat_shiftLeft, UInt32.toNat_toUInt64]
    change generation.toNat <<< 32 % 2 ^ 64 = _
    rw [Nat.mod_eq_of_lt below, Nat.shiftLeft_eq, Nat.mul_comm]
  rw [make, UInt64.toNat_or, shifted, UInt32.toNat_toUInt64]
  exact (Nat.two_pow_add_eq_or_of_lt fd.toUInt32.toNat_lt generation.toNat).symm

/-- A token gives its descriptor back, negative numbers included. -/
theorem descriptor_make (fd : Descriptor) (generation : UInt32) :
    descriptor (make fd generation) = fd := by
  have low : (make fd generation).toUInt32 = fd.toUInt32 := by
    apply UInt32.toNat_inj.mp
    rw [UInt64.toNat_toUInt32, toNat_make, Nat.mul_add_mod]
    exact Nat.mod_eq_of_lt fd.toUInt32.toNat_lt
  rw [descriptor, low]
  exact Int32.toInt32_toUInt32 fd

theorem make_injective {fd fd' : Descriptor} {generation generation' : UInt32}
    (same : make fd generation = make fd' generation') : fd = fd' ∧ generation = generation' := by
  have descriptors : fd = fd' := by
    rw [← descriptor_make fd generation, same, descriptor_make]
  subst descriptors
  refine ⟨rfl, UInt32.toNat_inj.mp ?_⟩
  have numbers := congrArg UInt64.toNat same
  rw [toNat_make, toNat_make] at numbers
  exact Nat.eq_of_mul_eq_mul_left (by decide) (Nat.add_right_cancel numbers)

/-- The token of a registration for a descriptor that comes after so many others. -/
def nth (fd : Descriptor) (serial : Nat) : Token :=
  make fd (UInt32.ofNat (serial + 1))

theorem nth_injective {fd fd' : Descriptor} {serial serial' : Nat} (early : serial < 2 ^ 32)
    (early' : serial' < 2 ^ 32) (same : nth fd serial = nth fd' serial') :
    fd = fd' ∧ serial = serial' := by
  rcases make_injective same with ⟨descriptors, generations⟩
  have numbers := congrArg UInt32.toNat generations
  rw [UInt32.toNat_ofNat', UInt32.toNat_ofNat'] at numbers
  exact ⟨descriptors, by omega⟩

end Token

theorem Kernel.WatchesOnly.mono {kernel : Kernel} {list : Descriptor} {P Q : UInt64 → Prop}
    (watches : kernel.WatchesOnly list P) (weaker : ∀ token, P token → Q token) :
    kernel.WatchesOnly list Q := by
  rcases watches with ⟨opening, table, stands, all⟩
  exact ⟨opening, table, stands, fun fd watch watched => weaker _ (all fd watch watched)⟩

namespace EventLoop

open Kernel

variable {η : Type} {kernel : Kernel} {loop loop' : EventLoop η} {token : Token}

/-- The loop has made the token for a registration that it was asked for. -/
def Issued (loop : EventLoop η) (token : Token) : Prop :=
  ∃ fd serial, serial < loop.serial ∧ token = Token.nth fd serial

/-- What holds of a loop and the kernel between any two calls. -/
structure Sound (kernel : Kernel) (loop : EventLoop η) : Prop where
  generation : loop.generation = UInt32.ofNat (loop.serial + 1)
  registered : ∀ fd registration, loop.registrations.get? fd = some registration →
    registration.serial < loop.serial ∧ registration.token = Token.nth fd registration.serial
  apart : ∀ fd fd' registration registration', loop.registrations.get? fd = some registration →
    loop.registrations.get? fd' = some registration' →
    registration.serial = registration'.serial → fd = fd'
  watching : kernel.WatchesOnly loop.poller.list loop.Issued

/-- What the list of a loop watches is watched with a token of its own. -/
def Sited (kernel : Kernel) (loop : EventLoop η) : Prop :=
  kernel.Watches loop.poller.list fun fd token => Token.descriptor token = fd

/-- The registrations of a loop and what the kernel watches for it are the same. -/
structure Mirrors (kernel : Kernel) (loop : EventLoop η) : Prop where
  numbered : kernel.Numbered
  /-- What is registered was open when it was registered. -/
  opened : ∀ fd registration, loop.registrations.get? fd = some registration →
    ∃ opening, registration.opening = some opening ∧ opening < kernel.openings
  /-- What is registered is watched with its token, unless it has been closed since. -/
  watched : ∀ fd registration, loop.registrations.get? fd = some registration →
    kernel.opening? fd = registration.opening →
    ∃ interest, kernel.watch? loop.poller.list fd = some ⟨registration.token, interest⟩
  /-- What is watched is registered with that token, unless the kernel refused to forget it. -/
  registered : kernel.Watches loop.poller.list fun fd token =>
    (∀ registration, loop.registrations.get? fd = some registration →
      registration.token = token) ∧
    (loop.registrations.get? fd = none → fd ∈ loop.refused)

/-- What a loop keeps from one time to a later one. -/
structure Grown (before after : EventLoop η) : Prop where
  poller : after.poller = before.poller
  serial : before.serial ≤ after.serial
  /-- A registration with an old number was never out of force. -/
  kept : ∀ fd registration, after.registrations.get? fd = some registration →
    registration.serial < before.serial → before.registrations.get? fd = some registration
  running : ∀ serial ∈ before.running, serial ∈ after.running

instance : IsPreorder (EventLoop η) Grown where
  refl _ := ⟨rfl, Nat.le_refl _, fun _ _ found _ => found, fun _ member => member⟩
  trans _ _ _ first second :=
    { poller := second.poller.trans first.poller
      serial := Nat.le_trans first.serial second.serial
      kept := fun fd registration found old =>
        first.kept fd registration
          (second.kept fd registration found (Nat.lt_of_lt_of_le old first.serial)) old
      running := fun serial member => second.running serial (first.running serial member) }

theorem Issued.grown (issued : loop.Issued token) (grown : Grown loop loop') :
    loop'.Issued token := by
  rcases issued with ⟨fd, serial, old, same⟩
  exact ⟨fd, serial, Nat.lt_of_lt_of_le old grown.serial, same⟩

/-! ## Events -/

theorem addressee?_eq_some {event : Readiness} {registration : Registration η}
    (found : loop.addressee? event = some registration) :
    loop.registrations.get? (Token.descriptor event.token) = some registration ∧
      registration.token = event.token ∧ registration.serial ∉ loop.running := by
  unfold addressee? at found
  split at found
  next other present =>
      split at found
      next fits =>
          rw [← Option.some.inj found]
          exact ⟨present, fits⟩
      next => cases found
  next => cases found

/-- The registration that a reported event finds was in force for its descriptor when it was
reported. -/
theorem Grown.kept_of_addressee? {event : Readiness} {registration : Registration η}
    (grown : Grown loop loop') (sound : Sound kernel loop')
    (few : loop'.serial ≤ 2 ^ 32) (issued : loop.Issued event.token)
    (found : loop'.addressee? event = some registration) :
    loop.registrations.get? (Token.descriptor event.token) = some registration := by
  rcases addressee?_eq_some found with ⟨present, fits, _⟩
  rcases sound.registered _ registration present with ⟨early, named⟩
  rcases issued with ⟨fd, serial, old, made⟩
  have same : registration.serial = serial := by
    refine (Token.nth_injective (Nat.lt_of_lt_of_le early few) ?_
      (named.symm.trans (fits.trans made))).2
    exact Nat.lt_of_lt_of_le old (Nat.le_trans grown.serial few)
  exact grown.kept _ registration present (same ▸ old)

/-- The registration that a reported event finds is in force as it was when it was reported. -/
theorem Grown.inForce?_of_addressee? {event : Readiness} {registration : Registration η}
    (grown : Grown loop loop') (sound : Sound kernel loop')
    (few : loop'.serial ≤ 2 ^ 32) (issued : loop.Issued event.token)
    (found : loop'.addressee? event = some registration) :
    loop.inForce? (Token.descriptor event.token) = some registration.serial ∧
      loop'.inForce? (Token.descriptor event.token) = some registration.serial := by
  have kept := grown.kept_of_addressee? sound few issued found
  have present := (addressee?_eq_some found).1
  exact ⟨congrArg (Option.map Registration.serial) kept,
    congrArg (Option.map Registration.serial) present⟩

/-- An event reaches nobody when the registration that was in force at its report has been
removed since, or replaced. -/
theorem Grown.addressee?_eq_none {event : Readiness} (grown : Grown loop loop')
    (sound : Sound kernel loop') (few : loop'.serial ≤ 2 ^ 32) (issued : loop.Issued event.token)
    (changed : loop'.inForce? (Token.descriptor event.token) ≠
      loop.inForce? (Token.descriptor event.token)) :
    loop'.addressee? event = none := by
  cases found : loop'.addressee? event with
  | none => rfl
  | some registration =>
      have same := grown.inForce?_of_addressee? sound few issued found
      exact absurd (same.2.trans same.1.symm) changed

/-! ## Calls -/

/-- What a call leaves of a sound loop: it is sound again, and nothing in the kernel was
touched but the list of the loop. -/
structure Kept (before after : Kernel × EventLoop η) : Prop where
  sound : Sound after.1 after.2
  grown : Grown before.2 after.2
  spares : Spares (fun fd => fd = before.2.poller.list) before.1 after.1
  sited : Sited before.1 before.2 → Sited after.1 after.2
  mirrors : Mirrors before.1 before.2 → Mirrors after.1 after.2

/-- A call on a sound loop keeps it. -/
def Upholds (before after : Kernel × EventLoop η) : Prop :=
  Sound before.1 before.2 → Kept before after

theorem Sound.kept (sound : Sound kernel loop) : Kept (kernel, loop) (kernel, loop) :=
  ⟨sound, refl_of Grown loop, refl_of (Spares _) kernel, id, id⟩

instance : IsPreorder (Kernel × EventLoop η) Upholds where
  refl _ sound := sound.kept
  trans _ _ _ first second sound := by
    have earlier := first sound
    have later := second earlier.sound
    refine ⟨later.sound, trans_of Grown earlier.grown later.grown, ?_,
      later.sited ∘ earlier.sited, later.mirrors ∘ earlier.mirrors⟩
    refine trans_of (Spares _) earlier.spares (later.spares.weaken fun fd same => ?_)
    rw [same, earlier.grown.poller]

theorem Sound.still (sound : Sound kernel loop) {after : Kernel} (still : Still kernel after) :
    Sound after loop :=
  { sound with watching := sound.watching.still still }

/-- The loop after a registration was asked for. -/
def asked (loop : EventLoop η) : EventLoop η :=
  { loop with generation := loop.generation + 1, serial := loop.serial + 1 }

/-- The registration that a loop makes next. -/
def nextFor (loop : EventLoop η) (kernel : Kernel) (fd : Descriptor) (handler : η) :
    Registration η :=
  ⟨Token.make fd loop.generation, loop.serial, kernel.opening? fd, handler⟩

/-- The loop with a registration in force. -/
def enlisted (loop : EventLoop η) (fd : Descriptor) (registration : Registration η) :
    EventLoop η :=
  { loop with registrations := loop.registrations.insert fd registration }

/-- The loop without the registration of a descriptor. -/
def delisted (loop : EventLoop η) (fd : Descriptor) : EventLoop η :=
  { loop with registrations := loop.registrations.erase fd }

/-- The loop after the kernel has refused to forget a descriptor. -/
def denied (loop : EventLoop η) (fd : Descriptor) : EventLoop η :=
  { loop with refused := fd :: loop.refused }

variable {α β : Type} {after : Kernel} {cause : SystemError} {fd : Descriptor}

theorem below_of_ok {call : SystemCall α} {value : α} (ended : call kernel = (.ok value, after)) :
    below call (kernel, loop) = (.ok value, (after, loop)) := by
  simp only [below, ended]

theorem below_of_error {call : SystemCall α} (ended : call kernel = (.error cause, after)) :
    below call (kernel, loop) = (.error (.system cause), (after, loop)) := by
  simp only [below, ended]

theorem current_bind_eq (f : EventLoop η → LoopCall η α) (kernel : Kernel) (loop : EventLoop η) :
    (current >>= f) (kernel, loop) = f loop (kernel, loop) :=
  bind_of_ok rfl

theorem change_bind_eq (f : EventLoop η → EventLoop η) (g : Unit → LoopCall η α)
    (kernel : Kernel) (loop : EventLoop η) :
    (change f >>= g) (kernel, loop) = g () (kernel, f loop) :=
  bind_of_ok rfl

theorem add_of_ok {interest : Interest} {handler : η}
    (ended : loop.poller.register fd (loop.nextFor kernel fd handler).token interest kernel =
      (.ok (), after)) :
    add fd interest handler (kernel, loop) =
      (.ok (), (after, loop.asked.enlisted fd (loop.nextFor kernel fd handler))) := by
  rw [add, get_bind_eq]
  exact (change_bind_eq _ _ kernel loop).trans (bind_of_ok (below_of_ok ended))

theorem add_of_error {interest : Interest} {handler : η}
    (ended : loop.poller.register fd (loop.nextFor kernel fd handler).token interest kernel =
      (.error cause, after)) :
    add fd interest handler (kernel, loop) = (.error (.system cause), (after, loop.asked)) := by
  rw [add, get_bind_eq]
  exact (change_bind_eq _ _ kernel loop).trans (bind_of_error (below_of_error ended))

/-- A descriptor is registered just if the kernel comes to watch it. -/
theorem add_eq_ok_iff {interest : Interest} {handler : η} {later : EventLoop η} :
    add fd interest handler (kernel, loop) = (.ok (), (after, later)) ↔
      loop.poller.register fd (loop.nextFor kernel fd handler).token interest kernel =
          (.ok (), after) ∧
        later = loop.asked.enlisted fd (loop.nextFor kernel fd handler) := by
  constructor
  · intro ended
    rcases registered : loop.poller.register fd (loop.nextFor kernel fd handler).token interest
      kernel with ⟨cause | _, after⟩
    · cases (add_of_error registered).symm.trans ended
    · cases (add_of_ok registered).symm.trans ended
      exact ⟨rfl, rfl⟩
  · rintro ⟨registered, rfl⟩
    exact add_of_ok registered

/-- A registration fails just if the kernel refuses it, and only uses up a number. -/
theorem add_eq_error_iff {interest : Interest} {handler : η} {error : Error}
    {later : EventLoop η} :
    add fd interest handler (kernel, loop) = (.error error, (after, later)) ↔
      ∃ cause, error = .system cause ∧
        loop.poller.register fd (loop.nextFor kernel fd handler).token interest kernel =
          (.error cause, after) ∧ later = loop.asked := by
  constructor
  · intro ended
    rcases registered : loop.poller.register fd (loop.nextFor kernel fd handler).token interest
      kernel with ⟨cause | _, after⟩
    · cases (add_of_error registered).symm.trans ended
      exact ⟨cause, rfl, rfl, rfl⟩
    · cases (add_of_ok registered).symm.trans ended
  · rintro ⟨cause, rfl, registered, rfl⟩
    exact add_of_error registered

/-- Whether the registration succeeds or not. -/
theorem add_kernel (fd : Descriptor) (interest : Interest) (handler : η) (kernel : Kernel)
    (loop : EventLoop η) :
    (add fd interest handler (kernel, loop)).2.1 =
      (loop.poller.register fd (loop.nextFor kernel fd handler).token interest kernel).2 := by
  rcases ended : loop.poller.register fd (loop.nextFor kernel fd handler).token interest kernel with
    ⟨cause | _, after⟩
  · rw [add_of_error ended]
  · rw [add_of_ok ended]

theorem remove_of_absent (absent : loop.registrations.contains fd = false) :
    remove fd (kernel, loop) = (.ok false, (kernel, loop)) := by
  rw [remove, current_bind_eq, absent]
  rfl

theorem remove_of_ok (present : loop.registrations.contains fd = true)
    (ended : loop.poller.deregister fd kernel = (.ok (), after)) :
    remove fd (kernel, loop) = (.ok true, (after, loop.delisted fd)) := by
  have forgotten : forget fd (kernel, loop.delisted fd) = (.ok (), (after, loop.delisted fd)) := by
    rw [forget, delisted, ended]
  rw [remove, current_bind_eq, if_pos present, change_bind_eq]
  exact bind_of_ok forgotten

theorem remove_of_error (present : loop.registrations.contains fd = true)
    (ended : loop.poller.deregister fd kernel = (.error cause, after)) :
    remove fd (kernel, loop) =
      (.error (.system cause), (after, (loop.delisted fd).denied fd)) := by
  have refused : forget fd (kernel, loop.delisted fd) =
      (.error (.system cause), (after, (loop.delisted fd).denied fd)) := by
    rw [forget, delisted, ended]
    rfl
  rw [remove, current_bind_eq, if_pos present, change_bind_eq]
  exact bind_of_error refused

/-- Whether the removal succeeds or not. -/
theorem remove_world (kernel : Kernel) (present : loop.registrations.contains fd = true) :
    ∃ refused, (remove fd (kernel, loop)).2 =
      ((loop.poller.deregister fd kernel).2, { loop.delisted fd with refused }) := by
  rcases ended : loop.poller.deregister fd kernel with ⟨cause | _, after⟩
  · rw [remove_of_error present ended]
    exact ⟨_, rfl⟩
  · rw [remove_of_ok present ended]
    exact ⟨_, rfl⟩

theorem remove_kernel (present : loop.registrations.contains fd = true) :
    (remove fd (kernel, loop)).2.1 = (loop.poller.deregister fd kernel).2 := by
  rcases remove_world kernel present with ⟨refused, world⟩
  rw [world]

/-! ## What calls uphold -/

theorem Sound.asked (sound : Sound kernel loop)
    (watching : after.WatchesOnly loop.poller.list loop.asked.Issued) :
    Sound after loop.asked where
  generation := by
    change loop.generation + 1 = UInt32.ofNat (loop.serial + 1 + 1)
    rw [sound.generation, UInt32.ofNat_add (loop.serial + 1)]
    rfl
  registered fd registration found := by
    rcases sound.registered fd registration found with ⟨early, named⟩
    exact ⟨Nat.lt_succ_of_lt early, named⟩
  apart := sound.apart
  watching := watching

theorem Sound.enlisted {handler : η} (sound : Sound kernel loop)
    (watching : after.WatchesOnly loop.poller.list loop.asked.Issued) :
    Sound after (loop.asked.enlisted fd (loop.nextFor kernel fd handler)) := by
  have before := sound.asked watching
  have entry {other : Descriptor} {registration : Registration η}
      (found : (loop.registrations.insert fd (loop.nextFor kernel fd handler)).get? other =
        some registration) :
      fd = other ∧ registration = loop.nextFor kernel fd handler ∨
        loop.registrations.get? other = some registration := by
    rw [Table.get?_insert] at found
    split at found
    next same => exact .inl ⟨same, (Option.some.inj found).symm⟩
    next => exact .inr found
  constructor
  case generation => exact before.generation
  case registered =>
      intro other registration found
      rcases entry found with ⟨rfl, rfl⟩ | old
      · refine ⟨Nat.lt_succ_self loop.serial, ?_⟩
        change Token.make fd loop.generation = _
        rw [sound.generation]
        rfl
      · exact before.registered other registration old
  case apart =>
      intro other other' registration registration' found found' same
      rcases entry found with ⟨rfl, rfl⟩ | old <;> rcases entry found' with ⟨rfl, rfl⟩ | old'
      · rfl
      · exact absurd same.symm (Nat.ne_of_lt (sound.registered _ _ old').1)
      · exact absurd same (Nat.ne_of_lt (sound.registered _ _ old).1)
      · exact sound.apart _ _ _ _ old old' same
  case watching => exact watching

theorem Sound.delisted (sound : Sound kernel loop) (fd : Descriptor) :
    Sound kernel (loop.delisted fd) := by
  have entry {other : Descriptor} {registration : Registration η}
      (found : (loop.delisted fd).registrations.get? other = some registration) :
      loop.registrations.get? other = some registration := by
    unfold EventLoop.delisted at found
    rw [Table.get?_erase] at found
    split at found
    · cases found
    · exact found
  exact
    { generation := sound.generation
      registered := fun other registration found => sound.registered _ _ (entry found)
      apart := fun _ _ _ _ found found' => sound.apart _ _ _ _ (entry found) (entry found')
      watching := sound.watching }

/-! ## What the kernel mirrors -/

theorem Mirrors.spared {touched : Descriptor → Prop} (mirrors : Mirrors kernel loop)
    (spares : Spares touched kernel after) (untouched : ¬touched loop.poller.list) :
    Mirrors after loop where
  numbered := spares.numbered mirrors.numbered
  opened fd registration found := by
    rcases mirrors.opened fd registration found with ⟨opening, same, old⟩
    exact ⟨opening, same, Nat.lt_of_lt_of_le old spares.openings⟩
  watched fd registration found unclosed := by
    rcases mirrors.opened fd registration found with ⟨opening, same, old⟩
    rw [same] at unclosed
    have before : kernel.opening? fd = some opening := by
      rcases spares.reopened fd opening unclosed with earlier | new
      · exact earlier
      · exact absurd new (Nat.not_le_of_lt old)
    rw [spares.keeping mirrors.numbered _ fd opening untouched mirrors.registered.opened before
      unclosed]
    exact mirrors.watched fd registration found (before.trans same.symm)
  registered := spares.watching _ _ untouched mirrors.registered

theorem Mirrors.still (mirrors : Mirrors kernel loop) (still : Still kernel after) :
    Mirrors after loop := by
  have spares : Spares (fun _ => False) kernel after := still.spares
  exact mirrors.spared spares id

/-- A loop that differs in nothing that the kernel knows of. -/
theorem Mirrors.of_same (mirrors : Mirrors kernel loop) (poller : loop'.poller = loop.poller)
    (registrations : loop'.registrations = loop.registrations)
    (refused : loop'.refused = loop.refused) : Mirrors kernel loop' := by
  rcases loop with ⟨_, _, _, _, _, _, _⟩
  rcases loop' with ⟨_, _, _, _, _, _, _⟩
  cases poller
  cases registrations
  cases refused
  exact ⟨mirrors.numbered, mirrors.opened, mirrors.watched, mirrors.registered⟩

/-- The list and the table change for one descriptor, and to the same. -/
theorem Mirrors.sets {wanted : Option Watch} (mirrors : Mirrors kernel loop)
    (sets : Sets loop.poller.list fd wanted kernel after) (poller : loop'.poller = loop.poller)
    (refused : ∀ other ∈ loop.refused, other ∈ loop'.refused)
    (others : ∀ other, fd ≠ other →
      loop'.registrations.get? other = loop.registrations.get? other)
    (registered : ∀ registration, loop'.registrations.get? fd = some registration →
      (∃ opening, registration.opening = some opening ∧ opening < kernel.openings) ∧
        ∃ interest, wanted = some ⟨registration.token, interest⟩)
    (removed : loop'.registrations.get? fd = none → wanted = none) : Mirrors after loop' where
  numbered := sets.numbered mirrors.numbered
  opened other registration found := by
    rw [sets.openings]
    by_cases same : fd = other
    · subst same
      exact (registered registration found).1
    · rw [others other same] at found
      exact mirrors.opened other registration found
  watched other registration found unclosed := by
    rw [poller, sets.watch?]
    by_cases same : fd = other
    · subst same
      rw [if_pos rfl]
      exact (registered registration found).2
    · rw [others other same] at found
      rw [sets.opening?] at unclosed
      rw [if_neg same]
      exact mirrors.watched other registration found unclosed
  registered := by
    rw [poller]
    refine sets.watches fun other watch watched => ?_
    rw [sets.watch?] at watched
    by_cases same : fd = other
    · subst same
      rw [if_pos rfl] at watched
      subst watched
      refine ⟨fun registration found => ?_, fun gone => nomatch removed gone⟩
      rcases (registered registration found).2 with ⟨interest, same⟩
      exact (congrArg Watch.token (Option.some.inj same)).symm
    · rw [if_neg same] at watched
      rw [others other same]
      have before := mirrors.registered.token_of_watch? watched
      exact ⟨before.1, fun gone => refused other (before.2 gone)⟩

theorem Mirrors.enlisted {handler : η} {interest : Interest} (mirrors : Mirrors kernel loop)
    (opened : kernel.opening? fd ≠ none)
    (sets : Sets loop.poller.list fd (some ⟨(loop.nextFor kernel fd handler).token, interest⟩)
      kernel after) : Mirrors after (loop.asked.enlisted fd (loop.nextFor kernel fd handler)) := by
  have entry (other : Descriptor) :
      (loop.asked.enlisted fd (loop.nextFor kernel fd handler)).registrations.get? other =
        if fd = other then some (loop.nextFor kernel fd handler)
        else loop.registrations.get? other :=
    Table.get?_insert loop.registrations fd other _
  refine mirrors.sets sets rfl (fun _ member => member) (fun other away => ?_)
    (fun registration found => ?_) fun gone => ?_
  · rw [entry, if_neg away]
  · rw [entry, if_pos rfl] at found
    rw [← Option.some.inj found]
    rcases Option.ne_none_iff_exists'.mp opened with ⟨opening, here⟩
    exact ⟨⟨opening, here, mirrors.numbered fd opening here⟩, interest, rfl⟩
  · rw [entry, if_pos rfl] at gone
    cases gone

/-- Another interest in what is registered, under the same token. -/
theorem Mirrors.rewatched {registration : Registration η} {interest : Interest}
    (mirrors : Mirrors kernel loop) (found : loop.registrations.get? fd = some registration)
    (sets : Sets loop.poller.list fd (some ⟨registration.token, interest⟩) kernel after) :
    Mirrors after loop := by
  refine mirrors.sets sets rfl (fun _ member => member) (fun _ _ => rfl)
    (fun registration' found' => ?_) fun gone => ?_
  · rw [← Option.some.inj (found.symm.trans found')]
    exact ⟨mirrors.opened fd registration found, interest, rfl⟩
  · cases found.symm.trans gone

theorem get?_delisted (loop : EventLoop η) (fd other : Descriptor) :
    (loop.delisted fd).registrations.get? other =
      if fd = other then none else loop.registrations.get? other :=
  Table.get?_erase loop.registrations fd other

theorem Mirrors.delisted (mirrors : Mirrors kernel loop)
    (sets : Sets loop.poller.list fd none kernel after) : Mirrors after (loop.delisted fd) := by
  refine mirrors.sets sets rfl (fun _ member => member) (fun other away => ?_)
    (fun registration found => ?_) fun _ => rfl
  · rw [get?_delisted, if_neg away]
  · rw [get?_delisted, if_pos rfl] at found
    cases found

theorem Mirrors.denied (mirrors : Mirrors kernel loop) (fd : Descriptor) :
    Mirrors kernel ((loop.delisted fd).denied fd) := by
  have entry {other : Descriptor} {registration : Registration η}
      (found : (loop.delisted fd).registrations.get? other = some registration) :
      loop.registrations.get? other = some registration := by
    rw [get?_delisted] at found
    split at found
    · cases found
    · exact found
  refine ⟨mirrors.numbered, fun other registration found => mirrors.opened _ _ (entry found),
    fun other registration found => mirrors.watched _ _ (entry found), ?_⟩
  rcases mirrors.registered with ⟨opening, watches, stands, all⟩
  refine ⟨opening, watches, stands, fun other watch watched => ?_⟩
  have before := all other watch watched
  refine ⟨fun registration found => before.1 registration (entry found), fun gone => ?_⟩
  by_cases same : fd = other
  · exact List.mem_cons.mpr (.inl same.symm)
  · change (loop.delisted fd).registrations.get? other = none at gone
    rw [get?_delisted, if_neg same] at gone
    exact List.mem_cons_of_mem fd (before.2 gone)

theorem grown_asked (loop : EventLoop η) : Grown loop loop.asked :=
  ⟨rfl, Nat.le_succ _, fun _ _ found _ => found, fun _ member => member⟩

theorem grown_enlisted (loop : EventLoop η) (kernel : Kernel) (fd : Descriptor) (handler : η) :
    Grown loop (loop.asked.enlisted fd (loop.nextFor kernel fd handler)) := by
  refine ⟨rfl, Nat.le_succ _, fun other registration found old => ?_, fun _ member => member⟩
  unfold enlisted at found
  rw [Table.get?_insert] at found
  split at found
  · rw [← Option.some.inj found] at old
    exact absurd old (Nat.lt_irrefl loop.serial)
  · exact found

theorem grown_delisted (loop : EventLoop η) (fd : Descriptor) : Grown loop (loop.delisted fd) := by
  refine ⟨rfl, Nat.le_refl _, fun other registration found _ => ?_, fun _ member => member⟩
  unfold delisted at found
  rw [Table.get?_erase] at found
  split at found
  · cases found
  · exact found

theorem upholds_add (fd : Descriptor) (interest : Interest) (handler : η) :
    Keeps Upholds (add fd interest handler) := by
  rintro ⟨kernel, loop⟩ sound
  have issued : loop.asked.Issued (loop.nextFor kernel fd handler).token := by
    refine ⟨fd, loop.serial, Nat.lt_succ_self _, ?_⟩
    change Token.make fd loop.generation = _
    rw [sound.generation]
    rfl
  have tends {P : Descriptor → UInt64 → Prop} (holds : P fd (loop.nextFor kernel fd handler).token) :
      Tends loop.poller.list P kernel
        (loop.poller.register fd (loop.nextFor kernel fd handler).token interest kernel).2 :=
    keeps_named "epoll_ctl" (tends_watch loop.poller.list fd holds interest) kernel
  have listed := tends (P := fun _ => loop.asked.Issued) issued
  have watching := listed.watching (sound.watching.mono fun _ issued => issued.grown (grown_asked loop))
  have sited := (tends (P := fun fd token => Token.descriptor token = fd)
    (Token.descriptor_make fd loop.generation)).watching
  rcases ended : loop.poller.register fd (loop.nextFor kernel fd handler).token interest kernel with
    ⟨cause | _, after⟩
  · rw [ended] at listed watching sited
    rw [add_of_error ended]
    have still := (registers_watch ..).of_named_error ended
    exact ⟨sound.asked watching, grown_asked loop, listed.spares, sited,
      fun mirrors => (mirrors.still still).of_same rfl rfl rfl⟩
  · rw [ended] at listed watching sited
    rw [add_of_ok ended]
    rcases (registers_watch ..).of_named_ok ended with ⟨opened, _, sets⟩
    exact ⟨sound.enlisted watching, grown_enlisted loop kernel fd handler, listed.spares, sited,
      fun mirrors => mirrors.enlisted opened sets⟩

theorem upholds_remove (fd : Descriptor) : Keeps Upholds (remove fd : LoopCall η Bool) := by
  rintro ⟨kernel, loop⟩ sound
  cases present : loop.registrations.contains fd with
  | false =>
      rw [remove_of_absent present]
      exact sound.kept
  | true =>
      have tends (P : Descriptor → UInt64 → Prop) :
          Tends loop.poller.list P kernel (loop.poller.deregister fd kernel).2 :=
        keeps_named "epoll_ctl" (tends_forget loop.poller.list fd) kernel
      have listed := (tends fun _ => loop.Issued).watching sound.watching
      have sited := (tends fun fd token => Token.descriptor token = fd).watching
      have spares := (tends fun _ _ => True).spares
      have delisted := sound.delisted fd
      rcases ended : loop.poller.deregister fd kernel with ⟨cause | _, after⟩ <;>
        rw [ended] at listed sited spares
      · rw [remove_of_error present ended]
        have still := (registers_forget ..).of_named_error ended
        exact ⟨⟨delisted.generation, delisted.registered, delisted.apart, listed⟩,
          ⟨rfl, Nat.le_refl _, (grown_delisted loop fd).kept, fun _ member => member⟩, spares, sited,
          fun mirrors => (mirrors.still still).denied fd⟩
      · rw [remove_of_ok present ended]
        rcases (registers_forget ..).of_named_ok ended with ⟨_, _, sets⟩
        exact ⟨{ delisted with watching := listed }, grown_delisted loop fd, spares, sited,
          fun mirrors => mirrors.delisted sets⟩

theorem below_world (call : SystemCall α) (kernel : Kernel) (loop : EventLoop η) :
    (below call (kernel, loop)).2 = ((call kernel).2, loop) := by
  rcases ended : call kernel with ⟨cause | value, after⟩
  · rw [below_of_error ended]
  · rw [below_of_ok ended]

theorem modify_of_none {interest : Interest} (absent : loop.registrations.get? fd = none) :
    modify fd interest (kernel, loop) =
      (.error (.ofSystem "epoll_ctl" Errno.noEntry), (kernel, loop)) := by
  rw [modify, current_bind_eq, absent]
  rfl

theorem modify_of_some {interest : Interest} {registration : Registration η}
    (found : loop.registrations.get? fd = some registration) :
    modify fd interest (kernel, loop) =
      below (loop.poller.modify fd registration.token interest) (kernel, loop) := by
  rw [modify, current_bind_eq, found]

theorem modify_world (fd : Descriptor) (interest : Interest) (kernel : Kernel)
    (loop : EventLoop η) :
    (modify fd interest (kernel, loop)).2.2 = loop := by
  cases found : loop.registrations.get? fd with
  | none => rw [modify_of_none found]
  | some registration => rw [modify_of_some found, below_world]

theorem upholds_modify (fd : Descriptor) (interest : Interest) :
    Keeps Upholds (modify fd interest : LoopCall η Unit) := by
  rintro ⟨kernel, loop⟩ sound
  cases found : loop.registrations.get? fd with
  | none =>
      rw [modify_of_none found]
      exact sound.kept
  | some registration =>
      rcases sound.registered fd registration found with ⟨early, named⟩
      have issued : loop.Issued registration.token := ⟨fd, registration.serial, early, named⟩
      have sited : Token.descriptor registration.token = fd := by
        rw [named]
        exact Token.descriptor_make fd _
      have tends {P : Descriptor → UInt64 → Prop} (holds : P fd registration.token) :
          Tends loop.poller.list P kernel
            (loop.poller.modify fd registration.token interest kernel).2 :=
        keeps_named "epoll_ctl" (tends_rewatch loop.poller.list fd holds interest) kernel
      have listed := tends (P := fun _ => loop.Issued) issued
      have again := tends (P := fun fd token => Token.descriptor token = fd) sited
      rw [modify_of_some found, below_world]
      refine ⟨{ sound with watching := listed.watching sound.watching }, refl_of Grown loop,
        listed.spares, again.watching, fun mirrors => ?_⟩
      rcases ended : loop.poller.modify fd registration.token interest kernel with ⟨cause | _, after⟩
      · exact mirrors.still ((registers_rewatch ..).of_named_error ended)
      · exact mirrors.rewatched found ((registers_rewatch ..).of_named_ok ended).2.2

end EventLoop

end ScriptHost
