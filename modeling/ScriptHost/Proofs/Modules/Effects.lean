import ScriptHost.Proofs.Modules.Sources

/-!
# What a require leaves in the caches

A require may fail at any depth, and each body on the way may swallow the error or
pass it on.  Whatever happens, the entries that were there stay, and an entry that
comes belongs to an evaluation that was begun and ended well meanwhile: an eviction
takes only the entry that the same evaluation has made.

That holds of requires that come back.  One that is cut off leaves the entries of the
evaluations that it was in the middle of, so the relation is followed to ends that are
not cut off.
-/

namespace ScriptHost.Modules

open World

variable {σ α : Type} {before middle after world : World σ} {news early late : List Event}
  {loader record : Nat} {key : List Component} {path : Path} {part : Part}

/-! ## Evaluations among the news -/

/-- The news hold an evaluation of a key from its start to its good end. -/
def Completed (news : List Event) (loader : Nat) (key : List Component) (record : Nat) : Prop :=
  ∃ first during last container exports path,
    news = first ++ .evaluating loader record container path ::
      (during ++ .evaluated loader record exports path :: last) ∧
    path.components = key

theorem Completed.preceded (completed : Completed news loader key record) (early : List Event) :
    Completed (early ++ news) loader key record := by
  obtain ⟨first, during, last, container, exports, path, rfl, same⟩ := completed
  exact ⟨early ++ first, during, last, container, exports, path,
    (List.append_assoc early first _).symm, same⟩

theorem Completed.followed (completed : Completed news loader key record) (late : List Event) :
    Completed (news ++ late) loader key record := by
  obtain ⟨first, during, last, container, exports, path, rfl, same⟩ := completed
  refine ⟨first, during, last ++ late, container, exports, path, ?_, same⟩
  simp only [List.append_assoc, List.cons_append]

/-! ## The relation -/

/-- What a call that came back, with such news, has left in the caches. -/
structure Settled (before after : World σ) (news : List Event) : Prop where
  grown : after.journal.toList = before.journal.toList ++ news
  records : before.records.size ≤ after.records.size
  remembers : Remembers before after
  /-- An entry is old or was evaluated. -/
  complete : ∀ loader key record, cached? after loader key = some record →
    cached? before loader key = some record ∨ Completed news loader key record
  /-- What was evaluated is new, and is kept. -/
  stays : ∀ loader record container path, .evaluated loader record container path ∈ news →
    before.records.size ≤ record ∧ cached? after loader path.components = some record

/-- The relation between the start of a call and the end that it came to. -/
def Settles (before after : World σ) : Prop :=
  Tracked before → Tracked after ∧ ∃ news, Settled before after news

theorem Settled.trans (first : Settled before middle early)
    (second : Settled middle after late) : Settled before after (early ++ late) where
  grown := by rw [second.grown, first.grown, List.append_assoc]
  records := Nat.le_trans first.records second.records
  remembers loader key record kept :=
    second.remembers loader key record (first.remembers loader key record kept)
  complete := by
    intro loader key record kept
    rcases second.complete loader key record kept with old | new
    · rcases first.complete loader key record old with older | completed
      · exact .inl older
      · exact .inr (completed.followed late)
    · exact .inr (new.preceded early)
  stays := by
    intro loader record container path member
    rcases List.mem_append.mp member with old | new
    · obtain ⟨fresh, kept⟩ := first.stays loader record container path old
      exact ⟨fresh, second.remembers loader path.components record kept⟩
    · obtain ⟨fresh, kept⟩ := second.stays loader record container path new
      exact ⟨Nat.le_trans first.records fresh, kept⟩

/-- A change of the caches that evaluates nothing and adds no entry. -/
theorem settles_of_quiet (tracks : Tracks before after)
    (grown : after.journal.toList = before.journal.toList ++ news)
    (records : before.records.size ≤ after.records.size)
    (quiet : ∀ loader record container path, .evaluated loader record container path ∉ news)
    (old : ∀ loader key record, cached? after loader key = some record →
      cached? before loader key = some record) : Settles before after := by
  intro tracked
  obtain ⟨tracked', remembers⟩ := tracks tracked
  refine ⟨tracked', news, grown, records, remembers, ?_, ?_⟩
  · exact fun loader key record kept => .inl (old loader key record kept)
  · exact fun loader record container path member =>
      absurd member (quiet loader record container path)

instance : IsPreorder (World σ) Settles where
  refl world :=
    settles_of_quiet (refl_of Tracks world) (List.append_nil _).symm (Nat.le_refl _) (by simp)
      fun _ _ _ kept => kept
  trans _ _ _ first second := by
    intro tracked
    obtain ⟨tracked', early, settled⟩ := first tracked
    obtain ⟨tracked'', late, settled'⟩ := second tracked'
    exact ⟨tracked'', early ++ late, settled.trans settled'⟩

/-! ## Single changes -/

theorem settles_of_changes (other : part ≠ .modules) (before after : World σ)
    (changes : Changes part before after) : Settles before after := by
  obtain ⟨news, grown, about⟩ := changes.journal
  obtain ⟨loaders, records⟩ := changes.modules other
  refine settles_of_quiet (tracks_of_changes other before after changes) grown ?_ ?_ ?_
  · exact Nat.le_of_eq (congrArg Array.size records.symm)
  · intro loader record container path member
    rcases about _ member with same | same
    · exact other same.symm
    · cases same
  · intro loader key record kept
    rwa [cached?, loaders] at kept

/-- Events of modules that are not the end of an evaluation. -/
theorem settles_told (tracks : Tracks before after) (loaders : after.loaders = before.loaders)
    (records : after.records.size = before.records.size)
    (grown : after.journal.toList = before.journal.toList ++ news)
    (quiet : ∀ loader record container path, .evaluated loader record container path ∉ news) :
    Settles before after := by
  refine settles_of_quiet tracks grown (Nat.le_of_eq records.symm) quiet ?_
  intro loader key record kept
  rwa [cached?, loaders] at kept

theorem settles_newLoader (resources : Table String String) (paths : ModulePaths) :
    Keeps Settles (newLoader resources paths : Action σ Nat) := by
  intro world
  refine settles_of_quiet (tracks_newLoader resources paths world) (List.append_nil _).symm
    (Nat.le_refl _) (by simp) ?_
  intro loader key record kept
  change (Option.bind ((world.loaders.insert world.fresh _).get? loader) _) = _ at kept
  rw [Table.get?_insert] at kept
  split at kept
  next => cases kept
  next => exact kept

theorem settles_changeRecord (record : Nat) {f : ModuleRecord → ModuleRecord}
    (same : ∀ r, (f r).exports = r.exports) :
    Keeps Settles (changeRecord record f : Action σ Unit) :=
  fun world => settles_told (tracks_changeRecord record same world) rfl Array.size_modify
    (List.append_nil _).symm (by simp)

theorem settles_answer (request : Request) (concerns : request.part? = some .modules) :
    Keeps Settles (Script.answer request : Action σ request.Reply) := by
  cases request <;> cases concerns
  case newLoader resources paths => exact settles_newLoader resources paths
  case setExports record container =>
      intro world
      exact settles_told (tracks_setExports record container world) rfl Array.size_modify
        Array.toList_push (by simp)

theorem tracks_search (absent : cached? world loader path.components = none)
    (report? : Option LogRecord) : Tracks world (searched world loader path report?) := by
  have told := tracks_searched loader path absent
  cases report? with
  | none => exact told
  | some report => exact trans_of Tracks told (tracks_rest_tell (.log report) rfl _)

theorem settles_searched (absent : cached? world loader path.components = none)
    (report? : Option LogRecord) : Settles world (searched world loader path report?) := by
  refine settles_told (tracks_search absent report?) rfl rfl
    (journal_searched world loader path report?) ?_
  cases report? <;> simp [searchEvents]

/-! ## One evaluation -/

section Evaluation

variable {state : ModuleLoader} {source : Source} {last : World σ}
  (present : world.loaders.get? loader = some state)
  (absent : cached? world loader path.components = none)
  (body : Settled (entered world loader path source) last news)

/-- The entry of an evaluation that has begun. -/
theorem cached?_entered (present : world.loaders.get? loader = some state) (path : Path)
    (source : Source) (owner : Nat) (key : List Component) :
    cached? (entered world loader path source) owner key =
      if loader = owner ∧ path.components = key then some world.records.size
      else cached? world owner key :=
  enter_keeps path source.directory source.kind source.origin source.text present owner key

theorem size_entered (world : World σ) (loader : Nat) (path : Path) (source : Source) :
    (entered world loader path source).records.size = world.records.size + 1 :=
  Array.size_push _

include present body

/-- The body has left the entry of its own module alone. -/
theorem own_entry : cached? last loader path.components = some world.records.size := by
  apply body.remembers
  rw [cached?_entered present]
  exact if_pos ⟨rfl, rfl⟩

/-- An entry after the body is that of the module, or was there before, or is the body's. -/
theorem entry_after_body {owner : Nat} (kept : cached? last owner key = some record) :
    ((loader = owner ∧ path.components = key) ∧ record = world.records.size) ∨
      cached? world owner key = some record ∨ Completed news owner key record := by
  rcases body.complete owner key record kept with old | new
  · rw [cached?_entered present] at old
    split at old
    next own => exact .inl ⟨own, (Option.some.inj old).symm⟩
    next => exact .inr (.inl old)
  · exact .inr (.inr new)

include absent

/-- What was there before belongs to another key and is there after the body. -/
theorem old_entry {owner : Nat} (kept : cached? world owner key = some record) :
    ¬(loader = owner ∧ path.components = key) ∧ cached? last owner key = some record := by
  have other : ¬(loader = owner ∧ path.components = key) := by
    rintro ⟨rfl, rfl⟩
    exact absurd (kept.symm.trans absent) (Option.some_ne_none record)
  refine ⟨other, body.remembers owner key record ?_⟩
  rw [cached?_entered present, if_neg other]
  exact kept

/-- An evaluation that ended well leaves its own entry and what its body left. -/
theorem settled_finished :
    Settled world (finished last loader world.records.size path)
      ((.evaluating loader world.records.size world.containers.size path :: news) ++
        [.evaluated loader world.records.size (last.exportsOf world.records.size) path]) where
  grown := by
    change (last.journal.push _).toList = _
    rw [Array.toList_push, body.grown, journal_entered]
    simp only [List.append_assoc, List.cons_append, List.nil_append]
  records := by
    have size := size_entered world loader path source
    have grown : _ ≤ last.records.size := body.records
    change _ ≤ last.records.size
    omega
  remembers owner key record kept := (old_entry present absent body kept).2
  complete := by
    intro owner key record kept
    rcases entry_after_body present body kept with ⟨⟨rfl, rfl⟩, rfl⟩ | old | new
    · exact .inr ⟨[], news, [], _, _, path, rfl, rfl⟩
    · exact .inl old
    · exact .inr ((new.preceded [_]).followed [_])
  stays := by
    intro owner record container other member
    rcases List.mem_append.mp member with inside | ended
    · rcases List.mem_cons.mp inside with impossible | inside
      · cases impossible
      · obtain ⟨fresh, kept⟩ := body.stays owner record container other inside
        rw [size_entered] at fresh
        exact ⟨Nat.le_of_succ_le fresh, kept⟩
    · cases List.mem_singleton.mp ended
      have kept := own_entry present body
      exact ⟨Nat.le_refl _, kept⟩

/-- An evaluation that failed takes its own entry away and leaves what its body left. -/
theorem settled_forgotten :
    Settled world (forgotten last loader world.records.size path)
      ((.evaluating loader world.records.size world.containers.size path :: news) ++
        [.evaluationFailed loader world.records.size path]) where
  grown := by
    change (last.journal.push _).toList = _
    rw [Array.toList_push, body.grown, journal_entered]
    simp only [List.append_assoc, List.cons_append, List.nil_append]
  records := by
    have size := size_entered world loader path source
    have grown : _ ≤ last.records.size := body.records
    change _ ≤ last.records.size
    omega
  remembers owner key record kept := by
    obtain ⟨other, kept'⟩ := old_entry present absent body kept
    rw [forgotten_keeps, if_neg other]
    exact kept'
  complete := by
    intro owner key record kept
    rw [forgotten_keeps] at kept
    split at kept
    next => cases kept
    next other =>
        rcases entry_after_body present body kept with ⟨own, _⟩ | old | new
        · exact absurd own other
        · exact .inl old
        · exact .inr ((new.preceded [_]).followed [_])
  stays := by
    intro owner record container other member
    rcases List.mem_append.mp member with inside | ended
    · rcases List.mem_cons.mp inside with impossible | inside
      · cases impossible
      · obtain ⟨fresh, kept⟩ := body.stays owner record container other inside
        rw [size_entered] at fresh
        refine ⟨Nat.le_of_succ_le fresh, ?_⟩
        -- The entry that goes is older than all that the body evaluated.
        have different : ¬(loader = owner ∧ path.components = other.components) := by
          rintro ⟨rfl, same⟩
          rw [← same, own_entry present body] at kept
          cases kept
          exact absurd fresh (Nat.not_succ_le_self _)
        rw [forgotten_keeps, if_neg different]
        exact kept
    · cases List.mem_singleton.mp ended

end Evaluation

/-! ## Demands -/

section Demands

variable (engine : Engine σ) {run : Script σ → Action σ Value}
  (ran : ∀ script, Ends False Settles (run script))

include ran

theorem settles_evaluate (loader id : Nat) (record : ModuleRecord) :
    Ends False Settles (evaluate engine run loader id record) :=
  ends_evaluate (settles_of_changes (by decide)) (fun id => settles_changeRecord id fun _ => rfl)
    ran loader id record

/-- What follows a search, where nothing is kept for its path. -/
theorem settles_proceed {state : ModuleLoader} (present : world.loaders.get? loader = some state)
    (absent : cached? world loader path.components = none)
    (answer : Except FileError (Option Source))
    (counts : (proceed engine run loader path answer world).1 ≠ .error .exhausted) :
    Settles world (proceed engine run loader path answer world).2 := by
  rcases answer with cause | _ | source
  · exact refl_of Settles world
  · exact refl_of Settles world
  · intro tracked
    have entry : Tracks world (entered world loader path source) :=
      tracks_enter source.directory source.kind source.origin source.text present absent
    have evaluated := settles_evaluate engine ran loader world.records.size
      (recordOf world path source) (entered world loader path source)
    rcases ended : evaluate engine run loader world.records.size (recordOf world path source)
      (entered world loader path source) with ⟨(error | _) | _, last⟩ <;> rw [ended] at evaluated
    · rw [proceed_of_raised ended]
      obtain ⟨tracked', news, body⟩ := evaluated (fun impossible => nomatch impossible)
        (entry tracked).1
      exact ⟨tracked_forgotten tracked' (own_entry present body), _,
        settled_forgotten present absent body⟩
    · rw [proceed_of_exhausted ended] at counts
      exact absurd rfl counts
    · rw [proceed_of_ok ended]
      obtain ⟨tracked', news, body⟩ := evaluated (fun impossible => nomatch impossible)
        (entry tracked).1
      have kept := own_entry present body
      have told := tracks_tell
        (.evaluated loader world.records.size (last.exportsOf world.records.size) path) last
        (fun tracked => ⟨(tracked.cache _ _).symm.trans kept, tracked.exported kept⟩)
        (fun _ _ _ => rfl) (fun _ _ => rfl) tracked'
      exact ⟨told.1, _, settled_finished present absent body⟩

theorem settles_ask (demand : Demand) (loader : Nat) :
    Ends False Settles (demand.ask engine run loader) := by
  intro world counts
  cases present : world.loaders.get? loader with
  | none =>
      rw [demand.ask_of_gone engine run present]
      exact refl_of Settles world
  | some state =>
      have looked := cached?_eq_lookup? present (demand.aim world state).path
      cases found : state.lookup? (demand.aim world state).path with
      | some record =>
          have tracks := tracks_answerWith loader _ (looked.trans found)
          rw [← demand.target_eq] at found
          rw [demand.ask_of_kept engine run present found, demand.target_eq]
          exact settles_told tracks rfl rfl Array.toList_push (by simp)
      | none =>
          rw [demand.ask_of_absent engine run present found] at counts ⊢
          have begun := settles_searched (looked.trans found)
            ((stockOf world state).find (demand.aim world state)).2
          generalize looks : searched world loader (demand.aim world state).path
            ((stockOf world state).find (demand.aim world state)).2 = start at begun counts ⊢
          have present' : start.loaders.get? loader = some state := looks ▸ present
          have absent' : cached? start loader (demand.aim world state).path.components = none :=
            looks ▸ looked.trans found
          exact trans_of Settles begun (settles_proceed engine ran present' absent' _ counts)

end Demands

/-! ## Runs -/

/-- The caches at the end of every run that is not cut off. -/
theorem settles_endings (engine : Engine σ) :
    Endings False engine (Settles : World σ → World σ → Prop) where
  rest := settles_of_changes (by decide)
  runtimes := .of_changes (settles_of_changes (by decide))
  request := Script.keeps_answer settles_of_changes settles_answer
  require _ ran loader requester specifier :=
    settles_ask engine ran (.module requester specifier) loader
  requireNative _ ran loader name := settles_ask engine ran (.native name) loader
  input _ := (changes_system _).mono (settles_of_changes (by decide))
  listen := Dispatch.keeps_listenFor (settles_of_changes (by decide))
  schedule := Dispatch.keeps_schedule (settles_of_changes (by decide))
  poll _ ran := Dispatch.ends_poll (settles_of_changes (by decide)) ran
  drive _ ran := Dispatch.ends_drive (settles_of_changes (by decide)) ran

/-! ## What a demand leaves in the caches -/

/-- No cache was touched, and nothing was compiled or evaluated: a search was told, with
what there was to report. -/
structure Untouched (before after : World σ) (news : List Event) : Prop where
  loaders : after.loaders = before.loaders
  records : after.records = before.records
  searched : ∀ event ∈ news,
    (∃ loader path, event = .searched loader path) ∨ ∃ report, event = .log report

/-- The evaluation of what was found at a path raised an error and its entry was taken away
again. -/
structure Evicted (engine : Engine σ) (run : Script σ → Action σ Value) (loader : Nat)
    (path : Path) (source : Source) (error : Error) (start after : World σ) : Prop where
  /-- The error is that of the evaluation of the key's own record. -/
  raised : ∃ last, evaluate engine run loader start.records.size (recordOf start path source)
    (entered start loader path source) = (.error (.raised error), last)
  /-- That it failed is the last thing that happened. -/
  failed : after.journal.toList.getLast? =
    some (.evaluationFailed loader start.records.size path)
  /-- Nothing is kept for the key. -/
  absent : cached? after loader path.components = none

/-- Why a demand came back with an error: the source could not be read, and then nothing was
touched, or the evaluation of its own key failed, and then the key is gone. -/
def FailedFor (demand : Demand) (engine : Engine σ) (run : Script σ → Action σ Value)
    (loader : Nat) (error : Error) (before after : World σ) (news : List Event) : Prop :=
  ∃ state, before.loaders.get? loader = some state ∧
    let aim := demand.aim before state
    let found := (stockOf before state).find aim
    (∃ cause, found.1 = .error cause ∧ error = .file cause ∧ Untouched before after news) ∨
      ∃ source, found.1 = .ok (some source) ∧
        Evicted engine run loader aim.path source error
          (searched before loader aim.path found.2) after

/-- What a demand has left in the caches when it came back. -/
structure CacheEffect (demand : Demand) (engine : Engine σ) (run : Script σ → Action σ Value)
    (loader : Nat) (outcome : Except Error (Option Nat)) (before after : World σ)
    (news : List Event) : Prop where
  /-- These are the news. -/
  grown : after.journal.toList = before.journal.toList ++ news
  /-- Every entry that was there is there, with the same record. -/
  kept : ∀ owner key record, cached? before owner key = some record →
    cached? after owner key = some record
  /-- Every new entry belongs to an evaluation that began and ended well meanwhile. -/
  new : ∀ owner key record, cached? before owner key = none →
    cached? after owner key = some record → Completed news owner key record
  /-- What was evaluated successfully stays, also if the demand failed. -/
  loaded : ∀ owner record container path, .evaluated owner record container path ∈ news →
    cached? after owner path.components = some record
  /-- An error has one of two causes. -/
  failed : ∀ error, outcome = .error error →
    FailedFor demand engine run loader error before after news
  /-- Where there is no module, nothing was touched. -/
  missing : outcome = .ok none → Untouched before after news

section Outcomes

variable {engine : Engine σ} {run : Script σ → Action σ Value} {demand : Demand}
  {outcome : Except Error (Option Nat)} {state : ModuleLoader}

theorem untouched_refl (world : World σ) : Untouched world world [] :=
  ⟨rfl, rfl, by simp⟩

theorem untouched_searched (world : World σ) (loader : Nat) (path : Path)
    (report? : Option LogRecord) :
    Untouched world (searched world loader path report?) (searchEvents loader path report?) := by
  refine ⟨rfl, rfl, ?_⟩
  cases report? with
  | none =>
      intro event member
      exact .inl ⟨loader, path, List.mem_singleton.mp member⟩
  | some report =>
      intro event member
      rcases List.mem_cons.mp member with same | member
      · exact .inl ⟨loader, path, same⟩
      · exact .inr ⟨report, List.mem_singleton.mp member⟩

/-- The news of a world that is known to have grown are determined. -/
theorem Untouched.of_grown {others : List Event} (untouched : Untouched before after others)
    (told : after.journal.toList = before.journal.toList ++ others)
    (grown : after.journal.toList = before.journal.toList ++ news) : Untouched before after news := by
  rwa [List.append_cancel_left (grown.symm.trans told)]

theorem evicted_forgotten {start last : World σ} {source : Source} {error : Error}
    (ended : evaluate engine run loader start.records.size (recordOf start path source)
      (entered start loader path source) = (.error (.raised error), last)) :
    Evicted engine run loader path source error start
      (forgotten last loader start.records.size path) where
  raised := ⟨last, ended⟩
  failed := by
    change (last.journal.push _).toList.getLast? = _
    rw [Array.toList_push, List.getLast?_concat]
  absent := by
    rw [forgotten_keeps]
    exact if_pos ⟨rfl, rfl⟩

/-- The ways in which a search goes on. -/
theorem proceed_cases {start : World σ} {answer : Except FileError (Option Source)}
    (ended : proceed engine run loader path answer start =
      (ofExcept outcome : Action σ (Option Nat)) after) :
    (∃ cause, answer = .error cause ∧ outcome = .error (.file cause) ∧ after = start) ∨
      (answer = .ok none ∧ outcome = .ok none ∧ after = start) ∨
      ∃ source, answer = .ok (some source) ∧
        ((∃ container, outcome = .ok (some container)) ∨
          ∃ error, outcome = .error error ∧
            Evicted engine run loader path source error start after) := by
  rcases answer with cause | _ | source
  · cases outcome with
    | ok value => cases ended
    | error error => cases ended; exact .inl ⟨cause, rfl, rfl, rfl⟩
  · cases outcome with
    | ok value => cases ended; exact .inr (.inl ⟨rfl, rfl, rfl⟩)
    | error error => cases ended
  · refine .inr (.inr ⟨source, rfl, ?_⟩)
    rcases evaluated : evaluate engine run loader start.records.size (recordOf start path source)
      (entered start loader path source) with ⟨(error | _) | _, last⟩
    · rw [proceed_of_raised evaluated] at ended
      cases outcome with
      | ok value => cases ended
      | error other => cases ended; exact .inr ⟨error, rfl, evicted_forgotten evaluated⟩
    · rw [proceed_of_exhausted evaluated] at ended
      cases outcome <;> cases ended
    · rw [proceed_of_ok evaluated] at ended
      cases outcome with
      | ok value => cases ended; exact .inl ⟨_, rfl⟩
      | error error => cases ended

/-- A demand that came back without a container touched nothing, or its own key failed. -/
theorem fruitless (grown : after.journal.toList = before.journal.toList ++ news)
    (ended : demand.ask engine run loader before =
      (ofExcept outcome : Action σ (Option Nat)) after) :
    (∀ error, outcome = .error error → FailedFor demand engine run loader error before after news) ∧
      (outcome = .ok none → Untouched before after news) := by
  cases present : before.loaders.get? loader with
  | none =>
      rw [demand.ask_of_gone engine run present] at ended
      have untouched := untouched_refl before
      cases outcome with
      | error error => cases ended
      | ok value =>
          cases ended
          exact ⟨by simp, fun _ => untouched.of_grown (List.append_nil _).symm grown⟩
  | some state =>
      cases found : state.lookup? (demand.aim before state).path with
      | some record =>
          rw [← demand.target_eq] at found
          rw [demand.ask_of_kept engine run present found] at ended
          cases outcome <;> cases ended
          exact ⟨by simp, by simp⟩
      | none =>
          rw [demand.ask_of_absent engine run present found] at ended
          have untouched := untouched_searched before loader (demand.aim before state).path
            ((stockOf before state).find (demand.aim before state)).2
          have told := journal_searched before loader (demand.aim before state).path
            ((stockOf before state).find (demand.aim before state)).2
          rcases proceed_cases ended with ⟨cause, answer, rfl, rfl⟩ | ⟨_, rfl, rfl⟩ |
            ⟨source, answer, ⟨container, rfl⟩ | ⟨error, rfl, evicted⟩⟩
          · refine ⟨?_, by simp⟩
            rintro error ⟨rfl⟩
            exact ⟨state, present, .inl ⟨cause, answer, rfl, untouched.of_grown told grown⟩⟩
          · exact ⟨by simp, fun _ => untouched.of_grown told grown⟩
          · exact ⟨by simp, by simp⟩
          · refine ⟨?_, by simp⟩
            rintro error ⟨rfl⟩
            exact ⟨state, present, .inr ⟨source, answer, evicted⟩⟩

end Outcomes

/-- Whatever world a session is in, also in the middle of the bodies of modules, and
whatever is demanded of its loaders: when the demand has come back, old entries are as they
were, new ones were evaluated successfully, and an error or a missing module leaves nothing
of its own. -/
theorem Demand.cache_effect (session : Session σ) (moment : Nat) (steps : Option Nat)
    (demand : Demand) (engine : Engine σ) (fuel loader : Nat)
    {outcome : Except Error (Option Nat)} {after : World σ}
    (returned : attempt (demand.ask engine (Script.exec engine fuel) loader)
      { session.world moment with steps } = (.ok outcome, after)) :
    ∃ news, CacheEffect demand engine (Script.exec engine fuel) loader outcome
      { session.world moment with steps } after news := by
  have ended := attempt_eq_ok_iff.mp returned
  have tracked : Tracked { session.world moment with steps } :=
    { tracked_world session moment with }
  generalize { session.world moment with steps } = before at ended tracked ⊢
  have settles := settles_ask engine ((settles_endings engine).exec fuel) demand loader before
  rw [ended, ofExcept_world] at settles
  obtain ⟨-, news, settled⟩ := settles (by cases outcome <;> exact fun cut => nomatch cut) tracked
  obtain ⟨failed, missing⟩ := fruitless settled.grown ended
  refine ⟨news, settled.grown, settled.remembers, ?_, ?_, failed, missing⟩
  · intro owner key record absent kept
    rcases settled.complete owner key record kept with old | new
    · exact absurd (old.symm.trans absent) (Option.some_ne_none record)
    · exact new
  · intro owner record container path member
    exact (settled.stays owner record container path member).2

/-- An engine for which the text of a module says which native module it requires before it
fails, and the empty text is a module that does nothing. -/
def failing : Engine Unit where
  compile source _ :=
    .ok fun scope =>
      if source = "" then .done .null
      else .requireNative scope.loader source fun _ => .fail (.config source)
  runScript _ _ := .done .null
  runModule _ _ := .done .null

/-- A session that has loaded one module. -/
def loadedOne : Session Unit where
  engine := failing
  script :=
    .ask (.newLoader ⟨[("lib/old.js", ""), ("lib/bad.js", "good"), ("lib/good.js", "")]⟩
        ⟨⟨"/app"⟩, ⟨"/installed"⟩⟩) fun loader =>
      .requireNative loader "old" fun _ => .done .null
  fuel := 2
  input := []
  waitLimit := none
  offers := []
  disk := .empty
  environment := .empty
  memory := ()

/-- The demand for a module that loads another and fails. -/
def loadBad : Except Failure (Except Error (Option Nat)) × World Unit :=
  attempt ((Demand.native "bad").ask failing (Script.exec failing 3) 0)
    { loadedOne.world 9 with steps := none }

/-- A module that fails after it has loaded another leaves the other, and takes only its own
entry away. -/
theorem broken_module_leaves_the_good_one :
    loadBad.1 = .ok (.error (.config "good")) ∧
      (∃ news, CacheEffect (.native "bad") failing (Script.exec failing 3) 0
        (.error (.config "good")) { loadedOne.world 9 with steps := none } loadBad.2 news) ∧
      cached? loadBad.2 0 (Path.mk "lib/old.js").components = some 0 ∧
      cached? loadBad.2 0 (Path.mk "lib/bad.js").components = none ∧
      cached? loadBad.2 0 (Path.mk "lib/good.js").components = some 2 := by
  have failed : loadBad.1 = .ok (.error (.config "good")) := by decide +kernel
  have returned : loadBad = (.ok (.error (.config "good")), loadBad.2) := by rw [← failed]
  refine ⟨failed, ?_, by decide +kernel, by decide +kernel, by decide +kernel⟩
  exact (Demand.native "bad").cache_effect loadedOne 9 none failing 3 0 returned

end ScriptHost.Modules
