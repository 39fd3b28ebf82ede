import ScriptHost.Proofs.Modules.Circular

/-!
# Modules that are running

While the body of a module runs, every require of the module is answered with its own
container, and the container holds what the body has written so far.  A body may be cut
anywhere: its first part takes the world to a middle from which the rest goes on, and
nothing that is required there touches the container or the entry of the cache.
-/

namespace ScriptHost.Modules

open World

variable {σ α : Type} {program : Program} {others : Engine σ} {fuel : Nat}
  {world middle : World σ}

/-! ## Parts of bodies -/

/-- A call comes back or is cut off. -/
theorem returns_or_cut (call : Action σ α) (world : World σ) :
    (∃ outcome after, call world = (World.ofExcept outcome : Action σ α) after) ∨
      ∃ after, call world = (.error .exhausted, after) := by
  rcases ended : call world with ⟨(error | _) | value, after⟩
  · exact .inl ⟨.error error, after, rfl⟩
  · exact .inr ⟨after, rfl⟩
  · exact .inl ⟨.ok value, after, rfl⟩

section Parts

variable {scope : ModuleScope} {value : Value}

theorem interpret_require_cut {want : Want} {after : World σ} (ignores : Bool)
    (next : Script σ) (unlimited : world.steps = none)
    (asked : (want.demand scope.record).ask (program.engine others)
      (Script.exec (program.engine others) fuel) scope.loader world =
        (.error .exhausted, after)) :
    Script.interpret (Script.context (program.engine others) fuel)
      ((Step.require want ignores).script scope next) world = (.error .exhausted, after) := by
  have attempted := attempt_eq_error_iff.mpr ⟨rfl, asked⟩
  cases want with
  | module specifier =>
      simp only [Step.script, Script.interpret]
      rw [bind_of_ok (tick_of_unlimited unlimited)]
      exact bind_of_error attempted
  | native name =>
      simp only [Step.script, Script.interpret]
      rw [bind_of_ok (tick_of_unlimited unlimited)]
      exact bind_of_error attempted

/-- What a container holds after a member was set. -/
theorem content_setMember {container : Nat} (bound : container < world.containers.size)
    (member : String) (value : Value) :
    (Script.answer (.setMember container member value) world).2.content container =
      Step.written (world.content container) (.write member value) := by
  unfold Script.answer
  simp only [Request.seizes?, Request.uses?, noticeSeizure, noticeUse, Request.perform, always,
    Step.written]
  cases (world.content container).set? member value with
  | none => rfl
  | some changed =>
      change ((world.containers.setIfInBounds container changed)[container]?).getD _ = changed
      rw [Array.getElem?_setIfInBounds_self_of_lt bound]
      rfl

/-- When a first part of a body has been run, its writes are there, and the body goes on
from there. -/
theorem interpret_append (front rest : Body) (unlimited : world.steps = none)
    (bound : scope.exports < world.containers.size)
    (ended : Script.interpret (Script.context (program.engine others) fuel)
      (Body.script scope front) world = (.ok value, middle)) :
    Script.interpret (Script.context (program.engine others) fuel)
        (Body.script scope (front ++ rest)) world =
      Script.interpret (Script.context (program.engine others) fuel) (Body.script scope rest)
        middle ∧
    middle.content scope.exports = front.written (world.content scope.exports) := by
  induction front generalizing world with
  | nil =>
      rw [interpret_nil unlimited] at ended
      cases ended
      exact ⟨rfl, rfl⟩
  | cons step front ih =>
      cases step with
      | throw error =>
          have fails : Script.interpret (Script.context (program.engine others) fuel)
              (Body.script scope (.throw error :: front)) world = _ :=
            interpret_fail unlimited
          rw [fails] at ended
          cases ended
      | write member written =>
          have leaves := leaves_setMember scope.exports member written world
          have content := content_setMember bound member written
          have goes (body : Body) : Script.interpret (Script.context (program.engine others) fuel)
              (Body.script scope (.write member written :: body)) world = _ :=
            interpret_write unlimited
          rw [goes] at ended
          rw [List.cons_append, goes]
          have later := ih (leaves.steps unlimited)
            (Nat.lt_of_lt_of_le bound leaves.moreContainers) ended
          rw [content] at later
          exact later
      | require want ignores =>
          rcases returns_or_cut ((want.demand scope.record).ask (program.engine others)
            (Script.exec (program.engine others) fuel) scope.loader) world with
            ⟨outcome, after, asked⟩ | ⟨after, cut⟩
          · have leaves : Leaves none world after :=
              (leaves_demand program.bodies others fuel (want.demand scope.record)
                scope.loader).of_returned asked
            have goes (body : Body) :
                Script.interpret (Script.context (program.engine others) fuel)
                  (Body.script scope (.require want ignores :: body)) world =
                Script.interpret (Script.context (program.engine others) fuel)
                  (Step.goOn ignores (Body.script scope body) outcome) after :=
              interpret_require ignores (Body.script scope body) unlimited asked
            rw [goes] at ended
            rw [List.cons_append, goes]
            rcases goOn_cases ignores outcome with on | ⟨error, fails⟩
            · rw [on] at ended ⊢
              have later := ih (leaves.steps unlimited)
                (Nat.lt_of_lt_of_le bound leaves.moreContainers) ended
              rw [leaves.content bound] at later
              exact later
            · rw [fails, interpret_fail (leaves.steps unlimited)] at ended
              cases ended
          · have impossible : Script.interpret (Script.context (program.engine others) fuel)
                (Body.script scope (.require want ignores :: front)) world = _ :=
              interpret_require_cut ignores (Body.script scope front) unlimited cut
            rw [impossible] at ended
            cases ended

theorem exec_append (front rest : Body) (unlimited : world.steps = none)
    (bound : scope.exports < world.containers.size)
    (ended : Script.exec (program.engine others) fuel (Body.script scope front) world =
      (.ok value, middle)) :
    Script.exec (program.engine others) fuel (Body.script scope (front ++ rest)) world =
      Script.exec (program.engine others) fuel (Body.script scope rest) middle ∧
    middle.content scope.exports = front.written (world.content scope.exports) := by
  cases fuel with
  | zero => cases ended
  | succ fuel => exact interpret_append front rest unlimited bound ended

end Parts

/-! ## Running -/

/-- What the body of the next module is given. -/
def nextScope (world : World σ) (loader : Nat) : ModuleScope :=
  ⟨loader, world.records.size, world.containers.size⟩

/-- The world in which the body of a module begins that was searched for and found. -/
def begun (world : World σ) (loader : Nat) (path : Path) (source : Source)
    (report? : Option LogRecord) : World σ :=
  marked (entered (searched world loader path report?) loader path source) path
    world.records.size

/-- What becomes of a demand when the body that it has run has ended. -/
def concluded (loader record : Nat) (path : Path) :
    Except Failure Value × World σ → Except Failure (Option Nat) × World σ
  | (.ok _, last) => (.ok (some (last.exportsOf record)), finished last loader record path)
  | (.error (.raised error), last) => (.error (.raised error), forgotten last loader record path)
  | (.error .exhausted, last) => (.error .exhausted, last)

section Running

variable {loader : Nat} {state : ModuleLoader} {demand : Demand} {source : Source}
  {report? : Option LogRecord} {body : Body}
  (present : world.loaders.get? loader = some state)
  (absent : state.lookup? (demand.aim world state).path = none)
  (found : (stockOf world state).find (demand.aim world state) = (.ok (some source), report?))
  (script : source.kind ≠ .json)
  (compiled : program.bodies source.text (demand.aim world state).path.text = .ok body)

include present absent found script compiled

/-- A demand that finds a source with a body runs the body. -/
theorem ask_of_body (run : Script σ → Action σ Value) :
    demand.ask (program.engine others) run loader world =
      concluded loader world.records.size (demand.aim world state).path
        (run (body.script (nextScope world loader))
          (begun world loader (demand.aim world state).path source report?)) := by
  rw [demand.ask_of_absent _ run present absent, found]
  generalize (demand.aim world state).path = path at compiled ⊢
  have evaluated : evaluate (program.engine others) run loader
      (searched world loader path report?).records.size
      (recordOf (searched world loader path report?) path source)
      (entered (searched world loader path report?) loader path source) =
      (run (body.script (nextScope world loader)) >>= fun _ => pure ())
        (begun world loader path source report?) := by
    have asScript : evaluateScript (program.engine others) run loader world.records.size
        (recordOf (searched world loader path report?) path source)
        (entered (searched world loader path report?) loader path source) = _ :=
      evaluateScript_of_body world.records.size run compiled _
    rcases source with ⟨directory, kind, origin, text⟩
    cases kind with
    | json => exact absurd rfl script
    | script => exact asScript
    | native => exact asScript
  rcases ended : run (body.script (nextScope world loader))
    (begun world loader path source report?) with ⟨(error | _) | value, last⟩
  · exact proceed_of_raised (evaluated.trans (bind_of_error ended))
  · exact proceed_of_exhausted (evaluated.trans (bind_of_error ended))
  · exact proceed_of_ok (evaluated.trans (bind_of_ok ended))

end Running

/-- A key is kept with a record that exports a container. -/
structure Exports (loader : Nat) (key : List Component) (record container : Nat)
    (now : World σ) : Prop where
  kept : cached? now loader key = some record
  exports : (now.records[record]?).map ModuleRecord.exports = some container
  bound : container < now.containers.size

namespace Exports

variable {loader record container : Nat} {key : List Component} {now later : World σ}

/-- That is so as long as nothing is forgotten. -/
theorem stays {own : Option Nat} (exports : Exports loader key record container now)
    (remembers : Remembers now later) (leaves : Leaves own now later) :
    Exports loader key record container later where
  kept := remembers _ _ _ exports.kept
  exports := by
    obtain ⟨r, known, same⟩ := Option.map_eq_some_iff.mp exports.exports
    obtain ⟨bound, -⟩ := Array.getElem?_eq_some_iff.mp known
    have left := leaves.records record bound
    rw [known] at left
    obtain ⟨r', known', fields⟩ := Option.map_eq_some_iff.mp left
    rw [known', ← same]
    exact congrArg some (Prod.mk.inj fields).2
  bound := Nat.lt_of_lt_of_le exports.bound leaves.moreContainers

/-- It is so when the evaluation of a module has begun. -/
theorem entered {state : ModuleLoader} (present : world.loaders.get? loader = some state)
    (path : Path) (source : Source) :
    Exports loader path.components world.records.size world.containers.size
      (entered world loader path source) where
  kept := by
    rw [cached?_entered present]
    exact if_pos ⟨rfl, rfl⟩
  exports := by
    change ((world.records.push _)[world.records.size]?).map _ = _
    rw [Array.getElem?_push_size]
    rfl
  bound := by
    change _ < (world.containers.push _).size
    rw [Array.size_push]
    exact Nat.lt_succ_self _

/-- A demand for the key is answered with the container. -/
theorem answers {state : ModuleLoader} (exports : Exports loader key record container now)
    (present : now.loaders.get? loader = some state) {demand : Demand}
    (same : (demand.aim now state).key = key) (engine : Engine σ)
    (run : Script σ → Action σ Value) :
    (demand.ask engine run loader now).1 = .ok (some container) := by
  have kept : state.lookup? (demand.target now state) = some record := by
    rw [demand.target_eq, ← cached?_eq_lookup? present]
    exact (congrArg _ same).trans exports.kept
  rw [demand.ask_of_kept engine run present kept]
  obtain ⟨r, known, same⟩ := Option.map_eq_some_iff.mp exports.exports
  change Except.ok (some (now.exportsOf record)) = _
  rw [exportsOf, known, ← same]
  rfl

end Exports

/-! ## Requires in circles -/

/-- What a demand has evaluated if none of its evaluations failed. -/
structure Toured (program : Program) (loader : Nat) (aim : Aim) (before after : World σ)
    (news : List Event) : Prop where
  /-- It is the depth-first preorder of what was not kept. -/
  preorder : Visits Aim.key program.next? (cachedKeys before loader) [aim]
    (startedKeys loader news)
  /-- Nothing was evaluated twice. -/
  once : (startedKeys loader news).Nodup
  /-- What was evaluated was not kept, and is reached past what was not kept. -/
  reached : ∀ key ∈ startedKeys loader news, key ∉ cachedKeys before loader ∧
    ∃ last, Relation.ReflTransGen (Leads Aim.key program.next? (cachedKeys before loader)) aim last ∧
      last.key = key
  /-- What was aimed at and what was required on the way is not there, or is kept now. -/
  complete : (program.next? aim = none ∨ aim.key ∈ cachedKeys after loader) ∧
    ∀ key ∈ startedKeys loader news, ∃ node children, Aim.key node = key ∧
      program.next? node = some children ∧
      ∀ child ∈ children, program.next? child = none ∨ child.key ∈ cachedKeys after loader
  /-- Nothing else is new in the cache. -/
  kept : cachedKeys after loader =
    cachedKeys before loader ∪ {key | key ∈ startedKeys loader news}

theorem Tours.toured {loader : Nat} {aim : Aim} {before after : World σ} {news : List Event}
    (tours : Tours program loader [aim] before after news)
    (unfailed : ∀ record path, .evaluationFailed loader record path ∉ news) :
    Toured program loader aim before after news := by
  obtain ⟨visits, kept⟩ := tours unfailed
  have settled (node : Aim) (closed : program.next? node = none ∨
      node.key ∈ cachedKeys before loader ∨ node.key ∈ startedKeys loader news) :
      program.next? node = none ∨ node.key ∈ cachedKeys after loader := by
    rw [kept]
    exact closed
  refine ⟨visits, visits.nodup, ?_, ⟨settled aim (visits.closed.1 aim List.mem_cons_self), ?_⟩, kept⟩
  · intro key member
    obtain ⟨root, among, last, path, same, -⟩ := visits.reached key member
    rw [List.mem_singleton.mp among] at path
    exact ⟨visits.not_mem_seen key member, last, path, same⟩
  · intro key member
    obtain ⟨node, children, same, leads, closed⟩ := visits.closed.2 key member
    exact ⟨node, children, same, leads, fun child among => settled child (closed child among)⟩

/-- What is the case while the body runs that a demand has found, cut anywhere. -/
structure Running (program : Program) (others : Engine σ) (fuel loader : Nat) (demand : Demand)
    (path : Path) (front rest : Body) (before begin : World σ) : Prop where
  /-- The demand runs the body, and ends as that does. -/
  whole : demand.ask (program.engine others) (Script.exec (program.engine others) fuel) loader
      before =
    concluded loader before.records.size path (Script.exec (program.engine others) fuel
      (Body.script (nextScope before loader) (front ++ rest)) begin)
  /-- The rest of the body goes on where its first part has led. -/
  part : ∀ value middle, Script.exec (program.engine others) fuel
      (Body.script (nextScope before loader) front) begin = (.ok value, middle) →
    Script.exec (program.engine others) fuel
        (Body.script (nextScope before loader) (front ++ rest)) begin =
      Script.exec (program.engine others) fuel (Body.script (nextScope before loader) rest) middle
  /-- Whatever is demanded there, at any time meanwhile a demand for the module that is
  running is answered with the module's container, with what its body has written. -/
  partly : ∀ value middle, Script.exec (program.engine others) fuel
      (Body.script (nextScope before loader) front) begin = (.ok value, middle) →
    ∀ (via again : Demand) (depth : Nat) (limit : Option Nat) (now : World σ)
      (state : ModuleLoader), now = (via.ask (program.engine others)
        (Script.exec (program.engine others) depth) loader { middle with steps := limit }).2 →
      now.loaders.get? loader = some state → (again.aim now state).key = path.components →
      (again.ask (program.engine others) (Script.exec (program.engine others) depth) loader
        now).1 = .ok (some before.containers.size) ∧
      now.content before.containers.size = front.written (.object [])

/-- What a demand does in a program of finite bodies that may require each other in circles
and may fail, if scripts may run on. -/
structure RequiresInCircles (program : Program) (others : Engine σ) (loader : Nat)
    (demand : Demand) (world : World σ) (state : ModuleLoader) : Prop where
  /-- Where paths are absolute, there are finitely many keys. -/
  finite : state.paths.appRoot.isAbsolute = true → (demand.aim world state).IsAbsolute →
    (program.resolvable (demand.aim world state)).Finite
  /-- The demand comes back, and its evaluations are nested no deeper than there are keys. -/
  returns : (program.resolvable (demand.aim world state)).Finite →
    ∀ fuel, (program.resolvable (demand.aim world state)).ncard ≤ fuel →
      ∃ outcome after news, demand.ask (program.engine others)
          (Script.exec (program.engine others) fuel) loader world =
            (World.ofExcept outcome : Action σ (Option Nat)) after ∧
        after.journal.toList = world.journal.toList ++ news ∧
        Nested (program.resolvable (demand.aim world state)).ncard news ∧
        ((∀ record path, .evaluationFailed loader record path ∉ news) →
          Toured program loader (demand.aim world state) world after news)
  /-- A module that is running is seen as far as it has come. -/
  running : ∀ source report? front rest, state.lookup? (demand.aim world state).path = none →
    (stockOf world state).find (demand.aim world state) = (.ok (some source), report?) →
    source.kind ≠ .json →
    program.bodies source.text (demand.aim world state).path.text = .ok (front ++ rest) →
    ∀ fuel, Running program others fuel loader demand (demand.aim world state).path front rest
      world (begun world loader (demand.aim world state).path source report?)

section Running

variable {loader : Nat} {state : ModuleLoader} {demand : Demand} {source : Source}
  {report? : Option LogRecord} {front rest : Body}

theorem Demand.running (fuel : Nat) (unlimited : world.steps = none) (tracked : Tracked world)
    (present : world.loaders.get? loader = some state)
    (absent : state.lookup? (demand.aim world state).path = none)
    (found : (stockOf world state).find (demand.aim world state) = (.ok (some source), report?))
    (script : source.kind ≠ .json)
    (compiled : program.bodies source.text (demand.aim world state).path.text =
      .ok (front ++ rest)) :
    Running program others fuel loader demand (demand.aim world state).path front rest world
      (begun world loader (demand.aim world state).path source report?) := by
  have whole : demand.ask (program.engine others) (Script.exec (program.engine others) fuel)
      loader world = _ :=
    ask_of_body present absent found script compiled _
  generalize (demand.aim world state).path = path at *
  have unkept : cached? world loader path.components = none := by
    rw [cached?_eq_lookup? present]
    exact absent
  -- The search and the beginning of the evaluation.
  have entering : Tracks world (entered (searched world loader path report?) loader path source) :=
    trans_of Tracks (tracks_search unkept report?)
      (tracks_enter source.directory source.kind source.origin source.text present unkept)
  have marking := tracks_marked (entered (searched world loader path report?) loader path source)
    path world.records.size
  have marked := leaves_marked (entered (searched world loader path report?) loader path source)
    path world.records.size
  have present' : (searched world loader path report?).loaders.get? loader = some state := present
  have runs := (Exports.entered present' path source).stays (marking (entering tracked).1).2 marked
  have empty : (begun world loader path source report?).content world.containers.size =
      .object [] := by
    change ((world.containers.push (.object []))[world.containers.size]?).getD _ = _
    rw [Array.getElem?_push_size]
    rfl
  have limitless : (begun world loader path source report?).steps = none := unlimited
  have trackedBegun := (marking (entering tracked).1).1
  refine ⟨whole, ?_, ?_⟩
  · intro value middle ended
    exact (exec_append front rest limitless runs.bound ended).1
  · rintro value middle ended via again depth limit now state' rfl present'' same
    have content := (exec_append front rest limitless runs.bound ended).2
    -- The first part of the body, and then the demand.
    have first : Tracks (begun world loader path source report?) middle ∧
        Leaves (some world.containers.size) (begun world loader path source report?) middle := by
      have tracks := (tracks_rules (program.engine others)).exec fuel
        (Body.script (nextScope world loader) front) (begun world loader path source report?)
      have leaves := leaves_exec program.bodies others fuel (nextScope world loader) front
        (begun world loader path source report?)
      rw [Program.engine] at ended tracks
      rw [ended] at tracks leaves
      exact ⟨tracks, leaves⟩
    have after := runs.stays (first.1 trackedBegun).2 first.2
    have tracked' : Tracked { middle with steps := limit } := { (first.1 trackedBegun).1 with }
    have tracks := tracks_ask program others via depth loader { middle with steps := limit }
    have leaves := leaves_demand program.bodies others depth via loader
      { middle with steps := limit }
    have runs' : Exports loader path.components world.records.size world.containers.size
        { middle with steps := limit } :=
      { after with }
    refine ⟨(runs'.stays (tracks tracked').2 leaves).answers present'' same _ _, ?_⟩
    refine (leaves.content after.bound).trans ?_
    rw [← empty]
    exact content

/-- Whatever world a session is in, also in the middle of the bodies of modules: what is
required there comes back, whatever circles there are and whatever fails; evaluations are
nested no deeper than there are keys; if none fails they are the depth-first preorder of
what the cache does not hold; and what is running is seen as far as it has come. -/
theorem Demand.requires_in_circles (session : Session σ) (moment : Nat) (bodies : Bodies)
    (others : Engine σ) (demand : Demand)
    (present : (session.world moment).loaders.get? loader = some state) :
    RequiresInCircles ⟨stockOf (session.world moment) state, bodies⟩ others loader demand
      { session.world moment with steps := none } state := by
  have tracked : Tracked { session.world moment with steps := none } :=
    { tracked_world session moment with }
  have present' : { session.world moment with steps := none }.loaders.get? loader = some state :=
    present
  change RequiresInCircles ⟨stockOf { session.world moment with steps := none } state, bodies⟩ _ _ _
    _ _
  have unlimited : { session.world moment with steps := none }.steps = none := rfl
  generalize { session.world moment with steps := none } = world at *
  refine ⟨fun root absolute => Program.finite_resolvable root absolute, ?_, ?_⟩
  · intro finite fuel enough
    have ready : Ready ⟨stockOf world state, bodies⟩ loader world :=
      ⟨unlimited, tracked, state, present', rfl⟩
    have few := Set.ncard_le_ncard (Set.sdiff_subset (t := cachedKeys world loader)) finite
    obtain ⟨outcome, after, news, came, grown, nested, tours⟩ :=
      ask_courses others enough ready present' finite few
    exact ⟨outcome, after, news, came, grown, nested, (tours trivial).toured⟩
  · intro source report? front rest absent found script compiled fuel
    exact Demand.running fuel unlimited tracked present' absent found script compiled

/-- Two native modules that require each other, the one when it has exported something. -/
def circle : Bodies :=
  fun text _ =>
    if text = "a" then
      .ok [.write "early" (.bool true), .require (.native "b") false, .write "late" (.bool true)]
    else .ok [.require (.native "a") false]

/-- A session in which nothing is loaded yet. -/
def unloaded : Session Unit where
  engine := circle.engine failing
  script :=
    .ask (.newLoader ⟨[("lib/a.js", "a"), ("lib/b.js", "b")]⟩ ⟨⟨"/app"⟩, ⟨"/installed"⟩⟩)
      fun _ => .done .null
  fuel := 1
  input := []
  waitLimit := none
  offers := []
  disk := .empty
  environment := .empty
  memory := ()

/-- The demand for the first of the two. -/
def loadCircle : Except Failure (Option Nat) × World Unit :=
  (Demand.native "a").ask (circle.engine failing) (Script.exec (circle.engine failing) 2) 0
    { unloaded.world 9 with steps := none }

/-- The modules are evaluated once each, the one that is required first before the other, and
both requires are answered. -/
theorem two_modules_in_a_circle :
    (∃ state, (unloaded.world 9).loaders.get? 0 = some state ∧
      RequiresInCircles ⟨stockOf (unloaded.world 9) state, circle⟩ failing 0 (.native "a")
        { unloaded.world 9 with steps := none } state) ∧
      loadCircle.1 = .ok (some 0) ∧
      startedKeys 0 loadCircle.2.journal.toList =
        [(Path.mk "lib/a.js").components, (Path.mk "lib/b.js").components] := by
  refine ⟨?_, by decide +kernel, by decide +kernel⟩
  have known : ((unloaded.world 9).loaders.get? 0).isSome = true := by decide +kernel
  obtain ⟨state, present⟩ := Option.isSome_iff_exists.mp known
  exact ⟨state, present,
    Demand.requires_in_circles unloaded 9 circle failing (.native "a") present⟩

end Running

end ScriptHost.Modules
