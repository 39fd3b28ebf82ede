import ScriptHost.Proofs.Loop.Delivery

/-!
# Registrations mirror what the kernel watches

The table of a loop and its list in the kernel are changed one after the other, and the
second change may fail.  Registering asks the kernel first and removing asks it last, so
as long as the kernel forgets what it is told to, and nothing that is registered is
closed, a descriptor is registered exactly if it is watched, and with the same token.
Calls that fail to register a descriptor or to change its interest leave everything in
force as it was.
-/

namespace ScriptHost

open World Kernel

variable {σ η : Type}

namespace EventLoop

variable {kernel after : Kernel} {loop later : EventLoop η} {fd : Descriptor}

/-- What is registered for a descriptor, if anything, is for the opening that it comes from. -/
def Unclosed (kernel : Kernel) (loop : EventLoop η) (fd : Descriptor) : Prop :=
  ∀ registration, loop.registrations.get? fd = some registration →
    kernel.opening? fd = registration.opening

/-- The same is registered, and every list watches what it watched. -/
structure Unaltered (before after : Kernel × EventLoop η) : Prop where
  registrations : after.2.registrations = before.2.registrations
  watches : ∀ list fd, after.1.watch? list fd = before.1.watch? list fd

/-- What is registered, and what is watched, is the same for all descriptors but one. -/
structure Elsewhere (fd : Descriptor) (before after : Kernel × EventLoop η) : Prop where
  registrations : ∀ other, fd ≠ other →
    after.2.registrations.get? other = before.2.registrations.get? other
  watches : ∀ other, fd ≠ other →
    after.1.watch? before.2.poller.list other = before.1.watch? before.2.poller.list other

/-- The kernel refuses to forget a descriptor only if it does not watch it. -/
def Forgets (kernel : Kernel) (loop : EventLoop η) (fd : Descriptor) : Prop :=
  ∀ cause after, loop.poller.deregister fd kernel = (.error cause, after) →
    kernel.watch? loop.poller.list fd = none

/-- The table of a loop and its list in the kernel agree, and calls keep them so. -/
structure Agrees (kernel : Kernel) (loop : EventLoop η) : Prop where
  /-- What is registered is what is watched. -/
  keys : ∀ fd, Unclosed kernel loop fd → fd ∉ loop.refused →
    (loop.contains fd = true ↔ ∃ watch, kernel.watch? loop.poller.list fd = some watch)
  /-- The tokens are the same. -/
  tokens : ∀ fd registration watch, loop.registrations.get? fd = some registration →
    kernel.watch? loop.poller.list fd = some watch → registration.token = watch.token
  /-- Only what is not registered is added, with the handler and the interest given. -/
  added : ∀ fd interest handler state, Unclosed kernel loop fd →
    add fd interest handler (kernel, loop) = (.ok (), state) →
    loop.contains fd = false ∧ Elsewhere fd (kernel, loop) state ∧
      ∃ registration, state.2.registrations.get? fd = some registration ∧
        registration.handler = handler ∧
        state.1.watch? loop.poller.list fd = some ⟨registration.token, interest.requested⟩
  /-- A failure to add leaves everything in force. -/
  notAdded : ∀ fd interest handler error state,
    add fd interest handler (kernel, loop) = (.error error, state) →
    Unaltered (kernel, loop) state
  /-- A change of interest changes neither token nor handler. -/
  modified : ∀ fd interest state, modify fd interest (kernel, loop) = (.ok (), state) →
    state.2 = loop ∧ Elsewhere fd (kernel, loop) state ∧
      ∃ registration watch, loop.registrations.get? fd = some registration ∧
        kernel.watch? loop.poller.list fd = some watch ∧ watch.token = registration.token ∧
        state.1.watch? loop.poller.list fd = some ⟨registration.token, interest.requested⟩
  /-- A failure to change the interest leaves everything in force. -/
  notModified : ∀ fd interest error state,
    modify fd interest (kernel, loop) = (.error error, state) →
    state.2 = loop ∧ Unaltered (kernel, loop) state
  /-- A removal says whether there was something to remove, and removes it from both. -/
  removed : ∀ fd, Unclosed kernel loop fd → Forgets kernel loop fd →
    ∃ state, remove fd (kernel, loop) = (.ok (loop.contains fd), state) ∧
      Elsewhere fd (kernel, loop) state ∧ state.2.contains fd = false ∧
      (fd ∉ loop.refused → state.1.watch? loop.poller.list fd = none)

theorem contains_iff (loop : EventLoop η) (fd : Descriptor) :
    loop.contains fd = true ↔ ∃ registration, loop.registrations.get? fd = some registration :=
  Option.isSome_iff_exists

theorem unaltered_of_still (still : Still kernel after)
    (registrations : later.registrations = loop.registrations) :
    Unaltered (kernel, loop) (after, later) :=
  ⟨registrations, fun list fd => watch?_congr (still.standing list) fd⟩

theorem elsewhere_of_sets {wanted : Option Watch}
    (sets : Sets loop.poller.list fd wanted kernel after)
    (registrations : ∀ other, fd ≠ other →
      later.registrations.get? other = loop.registrations.get? other) :
    Elsewhere fd (kernel, loop) (after, later) :=
  ⟨registrations, fun other away => (sets.watch? other).trans (if_neg away)⟩

/-! ## Agreement -/

namespace Mirrors

variable (mirrors : Mirrors kernel loop)

include mirrors

/-- What is registered and was not closed is watched. -/
theorem watched_of_contains (unclosed : Unclosed kernel loop fd)
    (present : loop.contains fd = true) :
    ∃ watch, kernel.watch? loop.poller.list fd = some watch := by
  rcases (loop.contains_iff fd).mp present with ⟨registration, found⟩
  rcases mirrors.watched fd registration found (unclosed registration found) with
    ⟨interest, watched⟩
  exact ⟨_, watched⟩

theorem contains_of_watched {watch : Watch} (forgotten : fd ∉ loop.refused)
    (watched : kernel.watch? loop.poller.list fd = some watch) : loop.contains fd = true := by
  apply Decidable.byContradiction
  intro absent
  have gone : loop.registrations.get? fd = none := Option.not_isSome_iff_eq_none.mp absent
  exact forgotten ((mirrors.registered.token_of_watch? watched).2 gone)

theorem token_eq {registration : Registration η} {watch : Watch}
    (found : loop.registrations.get? fd = some registration)
    (watched : kernel.watch? loop.poller.list fd = some watch) :
    registration.token = watch.token :=
  (mirrors.registered.token_of_watch? watched).1 registration found

/-! ## Calls -/

theorem added {interest : Interest} {handler : η} {state : Kernel × EventLoop η}
    (unclosed : Unclosed kernel loop fd)
    (ended : add fd interest handler (kernel, loop) = (.ok (), state)) :
    loop.contains fd = false ∧ Elsewhere fd (kernel, loop) state ∧
      ∃ registration, state.2.registrations.get? fd = some registration ∧
        registration.handler = handler ∧
        state.1.watch? loop.poller.list fd = some ⟨registration.token, interest.requested⟩ := by
  rcases state with ⟨after, later⟩
  rcases add_eq_ok_iff.mp ended with ⟨asked, rfl⟩
  rcases (registers_watch ..).of_named_ok asked with ⟨_, unwatched, sets⟩
  refine ⟨?_, elsewhere_of_sets sets fun other away => ?_, loop.nextFor kernel fd handler, ?_, rfl, ?_⟩
  · apply Bool.eq_false_iff.mpr
    intro present
    rcases mirrors.watched_of_contains unclosed present with ⟨watch, watched⟩
    cases unwatched.symm.trans watched
  · exact (Table.get?_insert loop.registrations fd other _).trans (if_neg away)
  · exact (Table.get?_insert loop.registrations fd fd _).trans (if_pos rfl)
  · exact (sets.watch? fd).trans (if_pos rfl)

omit mirrors in
theorem notAdded {interest : Interest} {handler : η} {error : Error}
    {state : Kernel × EventLoop η}
    (ended : add fd interest handler (kernel, loop) = (.error error, state)) :
    Unaltered (kernel, loop) state := by
  rcases state with ⟨after, later⟩
  rcases add_eq_error_iff.mp ended with ⟨_, _, asked, rfl⟩
  exact unaltered_of_still ((registers_watch ..).of_named_error asked) rfl

theorem modified {interest : Interest} {state : Kernel × EventLoop η}
    (ended : modify fd interest (kernel, loop) = (.ok (), state)) :
    state.2 = loop ∧ Elsewhere fd (kernel, loop) state ∧
      ∃ registration watch, loop.registrations.get? fd = some registration ∧
        kernel.watch? loop.poller.list fd = some watch ∧ watch.token = registration.token ∧
        state.1.watch? loop.poller.list fd = some ⟨registration.token, interest.requested⟩ := by
  cases found : loop.registrations.get? fd with
  | none =>
      rw [modify_of_none found] at ended
      cases ended
  | some registration =>
      rw [modify_of_some found] at ended
      rcases asked : loop.poller.modify fd registration.token interest kernel with
        ⟨cause | _, after⟩
      · rw [below_of_error asked] at ended
        cases ended
      · rw [below_of_ok asked] at ended
        cases ended
        rcases (registers_rewatch ..).of_named_ok asked with ⟨_, listed, sets⟩
        rcases Option.ne_none_iff_exists'.mp listed with ⟨watch, watched⟩
        exact ⟨rfl, elsewhere_of_sets sets fun _ _ => rfl, registration, watch, rfl, watched,
          (mirrors.token_eq found watched).symm, (sets.watch? fd).trans (if_pos rfl)⟩

omit mirrors in
theorem notModified {interest : Interest} {error : Error} {state : Kernel × EventLoop η}
    (ended : modify fd interest (kernel, loop) = (.error error, state)) :
    state.2 = loop ∧ Unaltered (kernel, loop) state := by
  cases found : loop.registrations.get? fd with
  | none =>
      rw [modify_of_none found] at ended
      cases ended
      exact ⟨rfl, rfl, fun _ _ => rfl⟩
  | some registration =>
      rw [modify_of_some found] at ended
      rcases asked : loop.poller.modify fd registration.token interest kernel with
        ⟨cause | _, after⟩
      · rw [below_of_error asked] at ended
        cases ended
        exact ⟨rfl, unaltered_of_still ((registers_rewatch ..).of_named_error asked) rfl⟩
      · rw [below_of_ok asked] at ended
        cases ended

theorem removed (unclosed : Unclosed kernel loop fd) (forgets : Forgets kernel loop fd) :
    ∃ state, remove fd (kernel, loop) = (.ok (loop.contains fd), state) ∧
      Elsewhere fd (kernel, loop) state ∧ state.2.contains fd = false ∧
      (fd ∉ loop.refused → state.1.watch? loop.poller.list fd = none) := by
  cases present : loop.contains fd with
  | false =>
      refine ⟨_, remove_of_absent present, ⟨fun _ _ => rfl, fun _ _ => rfl⟩, present,
        fun forgotten => ?_⟩
      refine Option.eq_none_iff_forall_ne_some.mpr fun watch watched => ?_
      rw [mirrors.contains_of_watched forgotten watched] at present
      cases present
  | true =>
      rcases mirrors.watched_of_contains unclosed present with ⟨watch, watched⟩
      rcases asked : loop.poller.deregister fd kernel with ⟨cause | _, after⟩
      · cases (forgets cause after asked).symm.trans watched
      · rcases (registers_forget ..).of_named_ok asked with ⟨_, _, sets⟩
        refine ⟨_, remove_of_ok present asked, elsewhere_of_sets sets fun other away => ?_, ?_,
          fun _ => (sets.watch? fd).trans (if_pos rfl)⟩
        · rw [get?_delisted, if_neg away]
        · rw [contains, Table.contains, get?_delisted, if_pos rfl]
          rfl

theorem agrees : Agrees kernel loop where
  keys _ unclosed forgotten :=
    ⟨mirrors.watched_of_contains unclosed, fun ⟨_, watched⟩ =>
      mirrors.contains_of_watched forgotten watched⟩
  tokens _ _ _ := mirrors.token_eq
  added _ _ _ _ := mirrors.added
  notAdded _ _ _ _ _ := notAdded
  modified _ _ _ := mirrors.modified
  notModified _ _ _ _ := notModified
  removed _ := mirrors.removed

end Mirrors

end EventLoop

/-! ## Sessions -/

theorem Session.mirrored_world (session : Session σ) (steps : Nat)
    (unseized : ∀ fd, .seized fd ∉ session.history steps) : (session.world steps).Mirrored :=
  (session.keeps (World.orderly_rules session.engine) steps).mirrors unseized
    (session.sound_start steps) fun _ _ found => nomatch found

/-- At every moment of every session in which nobody else closes or drives what a loop or a
timer owns, each loop and the kernel agree, whatever calls have been made from outside and
from inside handlers and whichever of them have failed, and whatever is called next. -/
theorem Session.registrations_mirror_interests (session : Session σ) (steps : Nat)
    (unseized : ∀ fd, .seized fd ∉ session.history steps) (id : Nat)
    (loop : EventLoop (Handler σ)) (present : (session.world steps).loop? id = some loop) :
    EventLoop.Agrees (session.world steps).kernel loop := by
  rcases Option.map_eq_some_iff.mp present with ⟨reactor, found, rfl⟩
  exact (session.mirrored_world steps unseized id reactor found).agrees

/-- A session in which the kernel refuses to register a pipe, takes it, and calls the handler,
which registers it once more in vain, is refused another interest, removes it twice, registers
it again with another handler and changes its interest. -/
def juggling : Session Unit where
  engine := ⟨fun _ _ => .ok fun _ => .done .null, fun _ _ => .done .null, fun _ _ => .done .null⟩
  script :=
    .ask (.newReactor 8) fun _ => .ask .pipe fun ends => .ask (.write ends.2 [0]) fun _ =>
      .ask (.plan ⟨"epoll_ctl", 0, 28⟩) fun _ =>
      .listen 0 ends.1 .readable (fun _ _ => .done .null) fun _ =>
      .listen 0 ends.1 .readable
        (fun fd _ =>
          .listen 0 fd .writable (fun _ _ => .done .null) fun _ =>
          .ask (.plan ⟨"epoll_ctl", 0, 12⟩) fun _ => .ask (.modify 0 fd .writable) fun _ =>
          .ask (.unlisten 0 fd) fun _ => .ask (.unlisten 0 fd) fun _ =>
          .listen 0 fd .readable (fun _ _ => .done .null) fun _ =>
          .ask (.modify 0 fd .writable) fun _ => .done .null)
        fun _ => .poll 0 none fun _ => .done .null
  fuel := 2
  input := []
  waitLimit := none
  offers := []
  disk := .empty
  environment := .empty
  memory := ()

/-- While the handler is still being run, the pipe is registered and watched with the token of
the last registration, and one more removal would find it. -/
theorem juggling_agrees :
    ∃ loop, (juggling.world 14).loop? 0 = some loop ∧ loop.running = [1] ∧
      EventLoop.Agrees (juggling.world 14).kernel loop ∧
      (juggling.world 14).kernel.watch? loop.poller.list 4 = some ⟨17179869188, .writable⟩ ∧
      ∃ state, EventLoop.remove 4 ((juggling.world 14).kernel, loop) = (.ok true, state) ∧
        state.2.contains 4 = false ∧ state.1.watch? loop.poller.list 4 = none := by
  have history : juggling.history 14 =
      [.handling ⟨0, 1, some 1, some 1, 2, 8589934596, 0⟩] := by decide +kernel
  have unseized : ∀ fd, .seized fd ∉ juggling.history 14 := by
    intro fd member
    rw [history] at member
    cases List.mem_singleton.mp member
  have there : ((juggling.world 14).loop? 0).map (fun loop =>
      (loop.running, loop.contains 4, loop.refused,
        (loop.registrations.get? 4).map Registration.opening)) =
      some ([1], true, [], some (some 2)) := by decide +kernel
  have opened : (juggling.world 14).kernel.opening? 4 = some 2 := by decide +kernel
  have watched : ((juggling.world 14).loop? 0).map (fun loop =>
      ((juggling.world 14).kernel.watch? loop.poller.list 4,
        (loop.poller.deregister 4 (juggling.world 14).kernel).1.toOption)) =
      some (some ⟨17179869188, .writable⟩, some ()) := by decide +kernel
  rcases Option.map_eq_some_iff.mp there with ⟨loop, present, same⟩
  rw [present] at watched
  rcases Prod.mk.inj (Option.some.inj watched) with ⟨watch, taken⟩
  rcases Prod.mk.inj same with ⟨running, rest⟩
  rcases Prod.mk.inj rest with ⟨contained, rest⟩
  rcases Prod.mk.inj rest with ⟨refused, opening⟩
  have agrees := juggling.registrations_mirror_interests 14 unseized 0 loop present
  have unclosed : EventLoop.Unclosed (juggling.world 14).kernel loop 4 := by
    intro registration found
    rw [found] at opening
    exact opened.trans (Option.some.inj opening).symm
  have forgets : EventLoop.Forgets (juggling.world 14).kernel loop 4 := by
    intro cause after failed
    rw [failed] at taken
    cases taken
  rcases agrees.removed 4 unclosed forgets with ⟨state, removed, _, gone, forgotten⟩
  rw [contained] at removed
  refine ⟨loop, present, running, agrees, watch, state, removed, gone, forgotten ?_⟩
  rw [refused]
  exact List.not_mem_nil

end ScriptHost
