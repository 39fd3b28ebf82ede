import ScriptHost.Proofs.Startup.Starting
import ScriptHost.Script.Session

/-!
# What a build is given

Seen from outside, a build is a series of calls: modules are required, and methods of what they
export are called.  Each call is made in the world that the one before it has left, and how it
ends decides which is the next.  The module that builds is required first; then the configuration
is obtained, from one place of several; and only if nothing has failed by then is the method that
builds called with it, as the last call of the series.
-/

namespace ScriptHost.Startup

open World

variable {σ : Type} {context : Context σ} {runtime : Runtime} {loader : Nat}
  {world next last last' : World σ} {options : Options} {target : Option String}

/-! ## Calls -/

/-- A call that a build makes, and its answer. -/
inductive BuildCall where
  /-- A module is required.  The answer is a snapshot of what it exports, if it is there. -/
  | require (specifier : String) (answer : Except Failure (Option Value))
  /-- A method of a value is called. -/
  | call (target : Value) (method : String) (arguments : List Value)
      (answer : Except Failure Value)

/-- Calls that are made one after another, from a first world to a last, and are answered as they
say. -/
inductive Made (context : Context σ) (loader : Nat) :
    World σ → List BuildCall → World σ → Prop where
  | nothing {world : World σ} : Made context loader world [] world
  | required {world next last : World σ} {specifier : String}
      {answer : Except Failure (Option Nat)} {calls : List BuildCall}
      (ended : Modules.require context.engine context.run loader none specifier world =
        (answer, next))
      (rest : Made context loader next calls last) :
      Made context loader world
        (.require specifier (answer.map (Option.map next.content)) :: calls) last
  | called {world next last : World σ} {target : Value} {method : String}
      {arguments : List Value} {answer : Except Failure Value} {calls : List BuildCall}
      (ended : callMethod context target method arguments world = (answer, next))
      (rest : Made context loader next calls last) :
      Made context loader world (.call target method arguments answer :: calls) last

/-! ## Configurations -/

/-- The calls that obtain the configuration of a build, and what is obtained. -/
inductive Configures (options : Options) :
    Option String → List BuildCall → Except Failure Value → Prop where
  /-- With the flag, but nothing to require, the configuration is empty. -/
  | untargeted (flagged : options.flag "config" = true) :
      Configures options none [] (.ok (.object []))
  /-- With the flag, it is what the target exports, and empty without that module. -/
  | snapshot (flagged : options.flag "config" = true) {target answer} :
      Configures options (some target) [.require target answer]
        (answer.map fun exports => exports.getD (.object []))
  /-- Without the flag, a target cannot be configured if nothing configures targets. -/
  | unconfigurable (unflagged : options.flag "config" = false) {target} :
      Configures options (some target) [.require "configure" (.ok none)]
        (.error (.raised (.config "configure module not available")))
  /-- Nor if that cannot be required. -/
  | unconfigured (unflagged : options.flag "config" = false) {target failure} :
      Configures options (some target) [.require "configure" (.error failure)] (.error failure)
  /-- Otherwise the configuration is what it says about the target and the options. -/
  | configured (unflagged : options.flag "config" = false) {target exports answer} :
      Configures options (some target)
        [.require "configure" (.ok (some exports)),
          .call exports "run" [.string target, options.toValue] answer] answer
  /-- Without flag and target, it is the data that the application brings. -/
  | data (unflagged : options.flag "config" = false) {exports} :
      Configures options none [.require "config.json" (.ok (some exports))] (.ok exports)
  /-- Data that cannot be required is not made up for. -/
  | broken (unflagged : options.flag "config" = false) {failure} :
      Configures options none [.require "config.json" (.error failure)] (.error failure)
  /-- Without data, it is what the script exports, and empty without that script. -/
  | script (unflagged : options.flag "config" = false) {answer} :
      Configures options none
        [.require "config.json" (.ok none), .require "config.js" answer]
        (answer.map fun exports => exports.getD (.object []))

/-- The calls of a build, and how it ends. -/
inductive Builds (options : Options) (target : Option String) :
    List BuildCall → Except Failure Value → Prop where
  /-- There is no module that builds, and nothing else is required. -/
  | unavailable : Builds options target [.require "build" (.ok none)]
      (.error (.raised (.config "Build not available")))
  /-- That module cannot be required. -/
  | unloaded {failure} :
      Builds options target [.require "build" (.error failure)] (.error failure)
  /-- There is no configuration, and nothing is built. -/
  | unconfigured {exports calls failure}
      (configures : Configures options target calls (.error failure)) :
      Builds options target (.require "build" (.ok (some exports)) :: calls) (.error failure)
  /-- It is built with the configuration and the options, once and at the end. -/
  | built {exports calls configuration answer}
      (configures : Configures options target calls (.ok configuration)) :
      Builds options target
        (.require "build" (.ok (some exports)) ::
          (calls ++ [.call exports "run" [configuration, options.toValue] answer])) answer

/-! ## Series of calls -/

theorem Made.append {calls calls' : List BuildCall} (made : Made context loader world calls next)
    (made' : Made context loader next calls' last) :
    Made context loader world (calls ++ calls') last := by
  induction made with
  | nothing => exact made'
  | required ended _ inductionHypothesis => exact .required ended (inductionHypothesis made')
  | called ended _ inductionHypothesis => exact .called ended (inductionHypothesis made')

/-- What is required, and what it exports then. -/
theorem requireValue_eq (engine : Engine σ) (run : Script σ → Action σ Value) (loader : Nat)
    (specifier : String) {answer : Except Failure (Option Nat)}
    (ended : Modules.require engine run loader none specifier world = (answer, next)) :
    Modules.requireValue engine run loader specifier world =
      (answer.map (Option.map next.content), next) := by
  unfold Modules.requireValue
  rcases answer with failure | _ | container
  · exact bind_of_error ended
  · exact bind_of_ok ended
  · exact bind_of_ok ended

/-- Requiring a module is a call of its own, with the answer that the program sees. -/
theorem made_requireValue (specifier : String)
    {answer : Except Failure (Option Value)}
    (ended : Modules.requireValue context.engine context.run loader specifier world =
      (answer, next)) :
    Made context loader world [.require specifier answer] next := by
  rcases required : Modules.require context.engine context.run loader none specifier world with
    ⟨found, after⟩
  cases (requireValue_eq _ _ _ _ required).symm.trans ended
  exact .required required .nothing

theorem optionalModule_eq (name missing : String) {answer : Except Failure (Option Value)}
    (ended : Modules.requireValue context.engine context.run runtime.loader name world =
      (answer, next)) :
    optionalModule context runtime name missing world =
      (match answer with
        | .ok (some exports) => .ok exports
        | .ok none => .error (.raised (.config missing))
        | .error failure => .error failure, next) := by
  unfold optionalModule
  rcases answer with failure | _ | exports
  · exact bind_of_error ended
  · exact bind_of_ok ended
  · exact bind_of_ok ended

/-! ## Builds -/

/-- How a program obtains the configuration. -/
theorem configures_buildConfiguration (context : Context σ) (runtime : Runtime)
    (target : Option String) (world : World σ) :
    ∃ calls outcome next, Configures runtime.options target calls outcome ∧
      Made context runtime.loader world calls next ∧
      buildConfiguration context runtime target runtime.options.toValue world =
        (outcome, next) := by
  unfold buildConfiguration
  cases flagged : runtime.options.flag "config" with
  | true =>
      cases target with
      | none => exact ⟨_, _, _, .untargeted flagged, .nothing, rfl⟩
      | some target =>
          rcases ended : Modules.requireValue context.engine context.run runtime.loader target world
            with ⟨answer, next⟩
          refine ⟨_, _, _, .snapshot flagged, made_requireValue target ended, ?_⟩
          rcases answer with failure | exports
          · exact bind_of_error ended
          · exact bind_of_ok ended
  | false =>
      cases target with
      | some target =>
          rcases ended : Modules.requireValue context.engine context.run runtime.loader "configure"
            world with ⟨answer, next⟩
          have made := made_requireValue "configure" ended
          have offered := optionalModule_eq "configure" "configure module not available" ended
          rcases answer with failure | _ | exports
          · exact ⟨_, _, _, .unconfigured flagged, made, bind_of_error offered⟩
          · exact ⟨_, _, _, .unconfigurable flagged, made, bind_of_error offered⟩
          · rcases called : callMethod context exports "run"
              [.string target, runtime.options.toValue] next with ⟨answer, last⟩
            exact ⟨_, _, _, .configured flagged, made.append (.called called .nothing),
              (bind_of_ok offered).trans called⟩
      | none =>
          rcases ended : Modules.requireValue context.engine context.run runtime.loader
            "config.json" world with ⟨answer, next⟩
          have made := made_requireValue "config.json" ended
          rcases answer with failure | _ | exports
          · exact ⟨_, _, _, .broken flagged, made, bind_of_error ended⟩
          · rcases ended' : Modules.requireValue context.engine context.run runtime.loader
              "config.js" next with ⟨answer, last⟩
            refine ⟨_, _, _, .script flagged,
              made.append (made_requireValue "config.js" ended'), ?_⟩
            refine (bind_of_ok ended).trans ?_
            rcases answer with failure | exports
            · exact bind_of_error ended'
            · exact bind_of_ok ended'
          · exact ⟨_, _, _, .data flagged, made, bind_of_ok ended⟩

/-- Print the result of a build if that is asked for. -/
def dump (runtime : Runtime) (result : Value) : Action σ Unit := do
  if runtime.options.flag "dump" then
    modify fun world => { world with printed := world.printed ++ result.toJson.pretty ++ "\n" }

/-- What follows a build: its result is printed if that is asked for, and then the loop is
driven.  A build that failed is followed by nothing. -/
def conclude (context : Context σ) (runtime : Runtime) : Except Failure Value → Action σ Unit
  | .error failure => throw failure
  | .ok result => do
      dump runtime result
      Dispatch.drive context.run runtime.reactor context.turns

/-- How a program builds. -/
theorem builds_runBuild (context : Context σ) (runtime : Runtime) (target : Option String)
    (world : World σ) :
    ∃ calls outcome last, Builds runtime.options target calls outcome ∧
      Made context runtime.loader world calls last ∧
      runBuild context runtime target world =
        (match outcome with
          | .error failure => throw failure
          | .ok result => dump runtime result : Action σ Unit) last := by
  unfold runBuild
  rcases ended : Modules.requireValue context.engine context.run runtime.loader "build" world
    with ⟨answer, next⟩
  have made := made_requireValue "build" ended
  have offered := optionalModule_eq "build" "Build not available" ended
  rcases answer with failure | _ | exports
  · exact ⟨_, _, _, .unloaded, made, bind_of_error offered⟩
  · exact ⟨_, _, _, .unavailable, made, bind_of_error offered⟩
  · rcases configures_buildConfiguration context runtime target next with
      ⟨calls, outcome, middle, configures, made', configured⟩
    rcases outcome with failure | configuration
    · exact ⟨_, _, _, .unconfigured configures, made.append made',
        (bind_of_ok offered).trans (bind_of_error configured)⟩
    · rcases called : callMethod context exports "run"
        [configuration, runtime.options.toValue] middle with ⟨answer, last⟩
      refine ⟨_, _, _, .built configures,
        made.append (made'.append (.called called .nothing)), ?_⟩
      refine (bind_of_ok offered).trans ((bind_of_ok configured).trans ?_)
      rcases answer with failure | result
      · exact bind_of_error called
      · exact bind_of_ok called

theorem builds_follow (context : Context σ) (id : Nat) (runtime : Runtime)
    (target : Option String) (world : World σ) :
    ∃ calls outcome last, Builds runtime.options target calls outcome ∧
      Made context runtime.loader world calls last ∧
      follow context id runtime (.ok (.build target)) world =
        conclude context runtime outcome last := by
  rcases builds_runBuild context runtime target world with
    ⟨calls, outcome, last, builds, made, ran⟩
  refine ⟨calls, outcome, last, builds, made, ?_⟩
  have driven : follow context id runtime (.ok (.build target)) =
      (do
        runBuild context runtime target
        Dispatch.drive context.run runtime.reactor context.turns : Action σ Unit) := rfl
  rw [driven]
  rcases outcome with failure | result
  · exact bind_of_error ran
  · exact bind_congr_at ran

/-! ## No other calls -/

/-- A call from the same world with the same question has the same answer, and the calls after it
start from the same world. -/
theorem Made.require_unique {specifier : String} {answer answer' : Except Failure (Option Value)}
    {calls calls' : List BuildCall}
    (made : Made context loader world (.require specifier answer :: calls) last)
    (made' : Made context loader world (.require specifier answer' :: calls') last') :
    answer = answer' ∧ ∃ next, Made context loader next calls last ∧
      Made context loader next calls' last' := by
  cases made with
  | required ended rest =>
      cases made' with
      | required ended' rest' =>
          cases ended.symm.trans ended'
          exact ⟨rfl, _, rest, rest'⟩

theorem Made.call_unique {target : Value} {method : String} {arguments : List Value}
    {answer answer' : Except Failure Value} {calls calls' : List BuildCall}
    (made : Made context loader world (.call target method arguments answer :: calls) last)
    (made' : Made context loader world (.call target method arguments answer' :: calls') last') :
    answer = answer' ∧ ∃ next, Made context loader next calls last ∧
      Made context loader next calls' last' := by
  cases made with
  | called ended rest =>
      cases made' with
      | called ended' rest' =>
          cases ended.symm.trans ended'
          exact ⟨rfl, _, rest, rest'⟩

/-- There is one way to obtain the configuration, whatever is called afterwards. -/
theorem Configures.unique {calls calls' rest rest' : List BuildCall}
    {outcome outcome' : Except Failure Value}
    (configures : Configures options target calls outcome)
    (configures' : Configures options target calls' outcome')
    (made : Made context loader world (calls ++ rest) last)
    (made' : Made context loader world (calls' ++ rest') last') :
    calls = calls' ∧ outcome = outcome' ∧ ∃ next, Made context loader next rest last ∧
      Made context loader next rest' last' := by
  have apart {P : Prop} (flagged : options.flag "config" = true)
      (unflagged : options.flag "config" = false) : P :=
    absurd (flagged.symm.trans unflagged) (by decide)
  cases configures with
  | untargeted flagged =>
      cases configures' with
      | untargeted => exact ⟨rfl, rfl, world, made, made'⟩
      | data unflagged | broken unflagged | script unflagged => exact apart flagged unflagged
  | snapshot flagged =>
      cases configures' with
      | snapshot =>
          rcases made.require_unique made' with ⟨rfl, next, rests⟩
          exact ⟨rfl, rfl, next, rests⟩
      | unconfigurable unflagged | unconfigured unflagged | configured unflagged =>
          exact apart flagged unflagged
  | unconfigurable unflagged =>
      cases configures' with
      | snapshot flagged => exact apart flagged unflagged
      | unconfigured | configured => cases (made.require_unique made').1
      | unconfigurable =>
          rcases made.require_unique made' with ⟨-, next, rests⟩
          exact ⟨rfl, rfl, next, rests⟩
  | unconfigured unflagged =>
      cases configures' with
      | snapshot flagged => exact apart flagged unflagged
      | unconfigurable | configured => cases (made.require_unique made').1
      | unconfigured =>
          rcases made.require_unique made' with ⟨⟨⟩, next, rests⟩
          exact ⟨rfl, rfl, next, rests⟩
  | configured unflagged =>
      cases configures' with
      | snapshot flagged => exact apart flagged unflagged
      | unconfigurable | unconfigured => cases (made.require_unique made').1
      | configured =>
          rcases made.require_unique made' with ⟨⟨⟩, next, first, first'⟩
          rcases first.call_unique first' with ⟨rfl, next', rests⟩
          exact ⟨rfl, rfl, next', rests⟩
  | data unflagged =>
      cases configures' with
      | untargeted flagged => exact apart flagged unflagged
      | broken | script => cases (made.require_unique made').1
      | data =>
          rcases made.require_unique made' with ⟨⟨⟩, next, rests⟩
          exact ⟨rfl, rfl, next, rests⟩
  | broken unflagged =>
      cases configures' with
      | untargeted flagged => exact apart flagged unflagged
      | data | script => cases (made.require_unique made').1
      | broken =>
          rcases made.require_unique made' with ⟨⟨⟩, next, rests⟩
          exact ⟨rfl, rfl, next, rests⟩
  | script unflagged =>
      cases configures' with
      | untargeted flagged => exact apart flagged unflagged
      | data | broken => cases (made.require_unique made').1
      | script =>
          rcases made.require_unique made' with ⟨-, next, first, first'⟩
          rcases first.require_unique first' with ⟨rfl, next', rests⟩
          exact ⟨rfl, rfl, next', rests⟩

/-- There is one way to build. -/
theorem Builds.unique {calls calls' : List BuildCall} {outcome outcome' : Except Failure Value}
    (builds : Builds options target calls outcome)
    (builds' : Builds options target calls' outcome')
    (made : Made context loader world calls last)
    (made' : Made context loader world calls' last') :
    calls = calls' ∧ outcome = outcome' ∧ last = last' := by
  have ends {world last last' : World σ} (made : Made context loader world [] last)
      (made' : Made context loader world [] last') : last = last' := by
    cases made
    cases made'
    rfl
  cases builds with
  | unavailable =>
      cases builds' with
      | unloaded | unconfigured | built => cases (made.require_unique made').1
      | unavailable =>
          rcases made.require_unique made' with ⟨-, next, rest, rest'⟩
          exact ⟨rfl, rfl, ends rest rest'⟩
  | unloaded =>
      cases builds' with
      | unavailable | unconfigured | built => cases (made.require_unique made').1
      | unloaded =>
          rcases made.require_unique made' with ⟨⟨⟩, next, rest, rest'⟩
          exact ⟨rfl, rfl, ends rest rest'⟩
  | @unconfigured _ calls _ configures =>
      cases builds' with
      | unavailable | unloaded => cases (made.require_unique made').1
      | @unconfigured _ calls' _ configures' =>
          rcases made.require_unique made' with ⟨⟨⟩, next, rest, rest'⟩
          rw [← List.append_nil calls] at rest
          rw [← List.append_nil calls'] at rest'
          rcases configures.unique configures' rest rest' with ⟨rfl, ⟨⟩, _, nothing, nothing'⟩
          exact ⟨rfl, rfl, ends nothing nothing'⟩
      | @built _ calls' _ _ configures' =>
          rcases made.require_unique made' with ⟨⟨⟩, next, rest, rest'⟩
          rw [← List.append_nil calls] at rest
          cases (configures.unique configures' rest rest').2.1
  | @built _ calls _ _ configures =>
      cases builds' with
      | unavailable | unloaded => cases (made.require_unique made').1
      | @unconfigured _ calls' _ configures' =>
          rcases made.require_unique made' with ⟨⟨⟩, next, rest, rest'⟩
          rw [← List.append_nil calls'] at rest'
          cases (configures.unique configures' rest rest').2.1
      | built configures' =>
          rcases made.require_unique made' with ⟨⟨⟩, next, rest, rest'⟩
          rcases configures.unique configures' rest rest' with ⟨rfl, ⟨⟩, next', call, call'⟩
          rcases call.call_unique call' with ⟨rfl, last, nothing, nothing'⟩
          exact ⟨rfl, rfl, ends nothing nothing'⟩

/-! ## Runs -/

theorem onVault_eq {α : Type} (call : VaultCall α) (world : World σ) :
    ∃ value vault journal, onVault call world = (.ok value, { world with vault, journal }) :=
  ⟨_, _, _, rfl⟩

/-- Why there is no inspector is found out without requiring anything. -/
theorem inspectorError_eq (runtime : Runtime) (world : World σ) :
    ∃ text vault journal, inspectorError runtime world =
      (.ok (.config text), { world with vault, journal }) := by
  unfold inspectorError
  rw [get_bind_eq]
  rcases onVault_eq (Vault.load world.disk runtime.registry "inspector" none) world with
    ⟨_ | capability, vault, journal, loaded⟩
  · exact ⟨_, vault, journal, bind_of_ok loaded⟩
  · rcases onVault_eq (Vault.release capability) { world with vault, journal } with
      ⟨_, vault', journal', released⟩
    exact ⟨_, vault', journal', (bind_of_ok loaded).trans (bind_of_ok released)⟩

/-- Every run of a runtime in build mode obtains the configuration as it should, or fails.

Without the inspector flag it makes the calls of a build, each in the world that the one before
has left, and no others.  Where they fail, with whatever failure, that is how the run fails, and
nothing follows; else the result is printed if that is asked for and the loop is driven.  With the
inspector flag nothing is required at all. -/
theorem builds_as_configured (context : Context σ) (world : World σ) (id : Nat)
    (runtime : Runtime) (found : world.runtime? id = some runtime) (target : Option String)
    (building : StartupMode.select runtime.options runtime.worker.isSome = .ok (.build target)) :
    (runtime.options.flag "inspector" = false →
      ∃ calls outcome last, Builds runtime.options target calls outcome ∧
        Made context runtime.loader (held world id) calls last ∧
        start context id world = closing id (conclude context runtime outcome last) ∧
        (∀ failure, outcome = .error failure → (start context id world).1 = .error failure) ∧
        ∀ calls' outcome' last', Builds runtime.options target calls' outcome' →
          Made context runtime.loader (held world id) calls' last' →
          calls' = calls ∧ outcome' = outcome ∧ last' = last) ∧
    (runtime.options.flag "inspector" = true →
      ∃ text vault journal, start context id world =
        closing id (.error (.raised (.config text)), { held world id with vault, journal })) := by
  constructor
  · intro uninspected
    rcases builds_follow context id runtime target (held world id) with
      ⟨calls, outcome, last, builds, made, followed⟩
    have started := start_of_uninspected context found uninspected
    rw [building, followed] at started
    refine ⟨calls, outcome, last, builds, made, started, ?_, ?_⟩
    · rintro failure rfl
      rw [started, closing_answer]
      rfl
    · intro calls' outcome' last' builds' made'
      exact builds'.unique builds made' made
  · intro inspected
    rcases inspectorError_eq runtime (held world id) with ⟨text, vault, journal, cause⟩
    refine ⟨text, vault, journal, ?_⟩
    rw [start_of_inspected context found inspected, bind_of_ok cause]
    rfl

/-- An engine whose builder gives back what it is given, and whose other modules have a name. -/
def echoing : Engine Unit where
  compile source _ := .ok fun scope =>
    if source = "builder" then
      .define "run" (fun arguments => .done (.array arguments)) fun run =>
        .ask (.setMember scope.exports "run" run) fun _ => .done .null
    else
      .ask (.setMember scope.exports "name" (.string source)) fun _ => .done .null
  runScript _ _ := .done .null
  runModule _ _ := .done .null

/-- A session that makes a loop and a loader. -/
def workshop : Session Unit where
  engine := echoing
  script := .ask (.newReactor 8) fun _ =>
    .ask (.newLoader ⟨[("lib/build.js", "builder"), ("lib/app.js", "app")]⟩
      ⟨⟨"/app"⟩, ⟨"/installed"⟩⟩) fun _ => .done .null
  fuel := 2
  input := []
  waitLimit := none
  offers := []
  disk := .empty
  environment := .empty
  memory := ()

/-- A runtime in build mode, with the flag and a target. -/
def builder : Runtime where
  options := Options.parse ["ember", "build", "--config", "app"]
  settings := .default
  registry := 0
  services := []
  environment := .empty
  reactor := 0
  loader := 1
  worker := none

/-- How its scripts are run. -/
def workbench : Context Unit := ⟨echoing, Script.exec echoing 5, 5⟩

/-- The configuration is required, and the build comes to a result. -/
theorem workshop_builds :
    ∃ calls result last, Builds builder.options (some "app") calls (.ok result) ∧
      Made workbench 1 (held { workshop.world 9 with runtimes := ⟨[(2, .one builder)]⟩ } 2) calls
        last ∧
      start workbench 2 { workshop.world 9 with runtimes := ⟨[(2, .one builder)]⟩ } =
        closing 2 (conclude workbench builder (.ok result) last) := by
  have succeeded : (start workbench 2
      { workshop.world 9 with runtimes := ⟨[(2, .one builder)]⟩ }).1 = .ok () := by
    decide +kernel
  rcases (builds_as_configured workbench
    { workshop.world 9 with runtimes := ⟨[(2, .one builder)]⟩ } 2 builder rfl (some "app")
    (by decide +kernel)).1 (by decide +kernel) with
    ⟨calls, outcome, last, builds, made, started, failed, -⟩
  rcases outcome with failure | result
  · cases (failed failure rfl).symm.trans succeeded
  · exact ⟨calls, result, last, builds, made, started⟩

end ScriptHost.Startup
