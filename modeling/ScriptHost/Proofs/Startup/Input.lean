import ScriptHost.Proofs.Kernel.Reading
import ScriptHost.Proofs.Loop.Neighbours
import ScriptHost.Proofs.Text.Decoding
import ScriptHost.Startup.Run

/-!
# Standard input is read whole

What a source delivers is said without saying how many reads it takes: pieces until an empty one,
with interruptions in between, or a failure.  Reading to the end gives just that, in whatever
pieces it comes, and on a descriptor it always comes to an end.  So the script on standard input
is decoded as a whole, and the engine is given it once.
-/

namespace ScriptHost

namespace Streams

section Sources

variable {σ : Type}

/-- A source that is read until it ends or fails: what its pieces make up or its failure, and how
it is left. -/
inductive Delivers (read : σ → Except Int Bytes × σ) : σ → Except Int Bytes → σ → Prop where
  /-- An empty piece is the end. -/
  | ended {source rest : σ} : read source = (.ok [], rest) → Delivers read source (.ok []) rest
  /-- A piece comes before what is delivered after it. -/
  | piece {source next rest : σ} {piece : Bytes} {outcome : Except Int Bytes} :
      read source = (.ok piece, next) → piece ≠ [] → Delivers read next outcome rest →
      Delivers read source (outcome.map (piece ++ ·)) rest
  /-- An interruption has no part in what is delivered. -/
  | interrupted {source next rest : σ} {outcome : Except Int Bytes} :
      read source = (.error Errno.interrupted, next) → Delivers read next outcome rest →
      Delivers read source outcome rest
  /-- Any other failure is all that is delivered. -/
  | failed {source rest : σ} {errno : Int} :
      read source = (.error errno, rest) → errno ≠ Errno.interrupted →
      Delivers read source (.error errno) rest

variable {read : σ → Except Int Bytes × σ} {source rest rest' : σ}
  {outcome outcome' : Except Int Bytes}

/-! ## Gathering -/

theorem gather_ended (fuel : Nat) (pieces : List Bytes) (ended : read source = (.ok [], rest)) :
    gather read (fuel + 1) pieces source = (.ok pieces.reverse.flatten, rest) := by
  rw [gather, ended]

theorem gather_piece (fuel : Nat) (pieces : List Bytes) {piece : Bytes} {next : σ}
    (given : read source = (.ok piece, next)) (some : piece ≠ []) :
    gather read (fuel + 1) pieces source = gather read fuel (piece :: pieces) next := by
  cases piece with
  | nil => exact absurd rfl some
  | cons b piece => rw [gather, given]

theorem gather_interrupted (fuel : Nat) (pieces : List Bytes) {next : σ}
    (cut : read source = (.error Errno.interrupted, next)) :
    gather read (fuel + 1) pieces source = gather read fuel pieces next := by
  rw [gather, cut]
  exact if_pos rfl

theorem gather_failed (fuel : Nat) (pieces : List Bytes) {errno : Int}
    (failed : read source = (.error errno, rest)) (other : errno ≠ Errno.interrupted) :
    gather read (fuel + 1) pieces source = (.error errno, rest) := by
  rw [gather, failed]
  exact if_neg other

/-- What follows a piece is gathered behind it. -/
theorem map_flatten (outcome : Except Int Bytes) (piece : Bytes) (pieces : List Bytes) :
    outcome.map ((piece :: pieces).reverse.flatten ++ ·) =
      (outcome.map (piece ++ ·)).map (pieces.reverse.flatten ++ ·) := by
  cases outcome with
  | error => rfl
  | ok bytes =>
      simp only [Except.map, List.reverse_cons, List.flatten_append, List.flatten_singleton,
        List.append_assoc]

/-- All that a source delivers is gathered, if enough reads are made. -/
theorem gather_of_delivers (delivers : Delivers read source outcome rest) :
    ∃ enough, ∀ fuel, enough ≤ fuel → ∀ pieces : List Bytes,
      gather read fuel pieces source = (outcome.map (pieces.reverse.flatten ++ ·), rest) := by
  induction delivers with
  | ended ended =>
      refine ⟨1, fun fuel enough pieces => ?_⟩
      obtain ⟨fuel, rfl⟩ := Nat.exists_eq_add_of_le' enough
      rw [gather_ended fuel pieces ended, Except.map, List.append_nil]
  | piece given some _ ih =>
      obtain ⟨fewer, ih⟩ := ih
      refine ⟨fewer + 1, fun fuel enough pieces => ?_⟩
      obtain ⟨fuel, rfl⟩ := Nat.exists_eq_add_of_le' ((Nat.le_add_left 1 fewer).trans enough)
      rw [gather_piece fuel pieces given some, ih fuel (Nat.le_of_succ_le_succ enough), map_flatten]
  | interrupted cut _ ih =>
      obtain ⟨fewer, ih⟩ := ih
      refine ⟨fewer + 1, fun fuel enough pieces => ?_⟩
      obtain ⟨fuel, rfl⟩ := Nat.exists_eq_add_of_le' ((Nat.le_add_left 1 fewer).trans enough)
      rw [gather_interrupted fuel pieces cut, ih fuel (Nat.le_of_succ_le_succ enough)]
  | failed failed other =>
      refine ⟨1, fun fuel enough pieces => ?_⟩
      obtain ⟨fuel, rfl⟩ := Nat.exists_eq_add_of_le' enough
      rw [gather_failed fuel pieces failed other]
      rfl

theorem map_flatten_nil (outcome : Except Int Bytes) :
    outcome.map (([] : List Bytes).reverse.flatten ++ ·) = outcome := by
  cases outcome <;> rfl

/-- A source delivers one thing. -/
theorem Delivers.unique (first : Delivers read source outcome rest)
    (second : Delivers read source outcome' rest') : outcome = outcome' ∧ rest = rest' := by
  obtain ⟨enough, gathered⟩ := gather_of_delivers first
  obtain ⟨enough', gathered'⟩ := gather_of_delivers second
  have same := (gathered _ (Nat.le_max_left enough enough') []).symm.trans
    (gathered' _ (Nat.le_max_right enough enough') [])
  rw [map_flatten_nil, map_flatten_nil] at same
  exact Prod.mk.inj same

end Sources

/-! ## Descriptors -/

section Descriptors

variable {kernel : Kernel} {fd : Descriptor} {length : Nat} {stream : Bytes}

/-- A descriptor delivers something, and gathering comes to the end of it in fewer reads than
something waits and faults are planned. -/
theorem delivers_read (positive : 0 < length) (fuel : Nat) (kernel : Kernel)
    (enough : kernel.waiting fd + kernel.faults.length < fuel) (pieces : List Bytes) :
    ∃ outcome rest, Delivers (Kernel.read fd length) kernel outcome rest ∧
      gather (Kernel.read fd length) fuel pieces kernel =
        (outcome.map (pieces.reverse.flatten ++ ·), rest) := by
  induction fuel generalizing kernel pieces with
  | zero => exact absurd enough (Nat.not_lt_zero _)
  | succ fuel ih =>
      rcases ended : Kernel.read fd length kernel with ⟨outcome, next⟩
      obtain ⟨left, cases⟩ := Kernel.read_cases positive ended
      have fewer := left.fewer
      cases outcome with
      | error errno =>
          by_cases cut : errno = Errno.interrupted
          · subst cut
            rcases cases with ⟨_, -, -, used, same⟩ | ⟨_, is, other⟩ | ⟨_, is, -⟩
            · obtain ⟨outcome, rest, delivers, gathered⟩ := ih next (by omega) pieces
              exact ⟨outcome, rest, .interrupted ended delivers,
                (gather_interrupted fuel pieces ended).trans gathered⟩
            · cases is
              exact absurd rfl other
            · cases is
          · exact ⟨_, next, .failed ended cut, gather_failed fuel pieces ended cut⟩
      | ok piece =>
          by_cases empty : piece = []
          · subst empty
            refine ⟨_, next, .ended ended, (gather_ended fuel pieces ended).trans ?_⟩
            rw [Except.map, List.append_nil]
          · rcases cases with ⟨_, is, -⟩ | ⟨_, is, -⟩ | ⟨_, is, shorter⟩
            · cases is
            · cases is
            · cases is
              have shorter := shorter empty
              obtain ⟨outcome, rest, delivers, gathered⟩ := ih next (by omega) (piece :: pieces)
              refine ⟨_, rest, .piece ended empty delivers, ?_⟩
              rw [gather_piece fuel pieces ended empty, gathered, map_flatten]

theorem waiting_lt_readsLeft (kernel : Kernel) (fd : Descriptor) :
    kernel.waiting fd + kernel.faults.length < readsLeft kernel fd := by
  unfold Kernel.waiting readsLeft
  rcases kernel.resource? fd with _ | _ | _ | timer | _ | _
  case some.timer =>
    dsimp only
    split <;> omega
  all_goals
    dsimp only
    omega

/-- Reading a descriptor to its end gives what it delivers, a failure under the name of the call. -/
theorem readToEnd_delivers (kernel : Kernel) (fd : Descriptor) (chunk : Nat) :
    ∃ outcome rest, Delivers (Kernel.read fd (max chunk 1)) kernel outcome rest ∧
      readToEnd fd chunk kernel = (outcome.mapError (SystemError.mk "read"), rest) := by
  obtain ⟨outcome, rest, delivers, gathered⟩ := delivers_read
    (Nat.le_max_right chunk 1) _ kernel (waiting_lt_readsLeft kernel fd) []
  refine ⟨outcome, rest, delivers, ?_⟩
  rw [map_flatten_nil] at gathered
  rw [readToEnd, Kernel.named, gathered]
  cases outcome <;> rfl

theorem readToEnd_of_delivers {chunk : Nat} {outcome : Except Int Bytes} {rest : Kernel}
    (delivers : Delivers (Kernel.read fd (max chunk 1)) kernel outcome rest) :
    readToEnd fd chunk kernel = (outcome.mapError (SystemError.mk "read"), rest) := by
  obtain ⟨outcome', rest', delivers', ended⟩ := readToEnd_delivers kernel fd chunk
  obtain ⟨rfl, rfl⟩ := delivers.unique delivers'
  exact ended

/-- A stream whose end can be seen is delivered whole, if nothing but interruptions is planned. -/
theorem delivers_of_stream (positive : 0 < length) (kernel : Kernel) (stream : Bytes)
    (finite : kernel.streamOf? fd = some stream)
    (calm : ∀ errno, Kernel.PlansRead kernel.faults errno → errno = Errno.interrupted) :
    ∃ rest, Delivers (Kernel.read fd length) kernel (.ok stream) rest := by
  obtain ⟨next, left, ⟨errno, ended, plans, fewer, finite'⟩ | ⟨ended, finite'⟩⟩ :=
    Kernel.read_of_stream finite positive
  · obtain ⟨rest, delivers⟩ := delivers_of_stream positive next stream finite' fun errno plans =>
      calm errno (left.plansRead plans)
    rw [calm errno plans] at ended
    exact ⟨rest, .interrupted ended delivers⟩
  · by_cases empty : stream = []
    · subst empty
      rw [List.take_nil] at ended
      exact ⟨next, .ended ended⟩
    · have some : stream.take length ≠ [] := by
        rw [Ne, List.take_eq_nil_iff]
        exact not_or.mpr ⟨by omega, empty⟩
      have shorter : (stream.drop length).length < stream.length := by
        have := List.length_pos_iff.mpr empty
        rw [List.length_drop]
        omega
      have fewer := left.fewer
      obtain ⟨rest, delivers⟩ := delivers_of_stream positive next _ finite' fun errno plans =>
        calm errno (left.plansRead plans)
      have whole := Delivers.piece ended some delivers
      rw [Except.map, List.take_append_drop] at whole
      exact ⟨rest, whole⟩
termination_by stream.length + kernel.faults.length

end Descriptors

end Streams

/-! ## The script on standard input -/

namespace Startup

open Streams World

variable {τ : Type} {world : World τ} {stream : Bytes} {rest : Kernel} {errno : Int}

theorem readStdin_of_delivers {kernel : Kernel} {outcome : Except Int Bytes}
    (delivers : Delivers (Kernel.read Kernel.stdin stdinChunk) kernel outcome rest) :
    readToEnd Kernel.stdin stdinChunk kernel =
      (outcome.mapError (SystemError.mk "read"), rest) := by
  have positive : max stdinChunk 1 = stdinChunk := by decide
  rw [← positive] at delivers
  exact readToEnd_of_delivers delivers

/-- The whole input is given to the engine at once, as one script. -/
theorem runStdin_of_stream (context : Context τ)
    (delivers : Delivers (Kernel.read Kernel.stdin stdinChunk) world.kernel (.ok stream) rest) :
    runStdin context world =
      (do let _ ← context.run
            (context.engine.runScript (String.ofList (Text.Utf8.decodeLossy stream)) "stdin")
          : Action τ Unit)
        { world with
          kernel := rest
          journal := world.journal.push
            (.script "stdin" (String.ofList (Text.Utf8.decodeLossy stream))) } := by
  have ended := readStdin_of_delivers delivers
  unfold runStdin
  rw [bind_of_ok (system_of_ok ended), Text.Utf8.textLossy_eq]
  rfl

/-- Input that cannot be read is not run. -/
theorem runStdin_of_failure (context : Context τ)
    (delivers : Delivers (Kernel.read Kernel.stdin stdinChunk) world.kernel (.error errno) rest) :
    runStdin context world =
      (.error (.raised (.system ⟨"read", errno⟩)), { world with kernel := rest }) := by
  have ended := readStdin_of_delivers delivers
  exact bind_of_error (system_of_error ended)

/-- What a source delivers is gathered, in whatever pieces it comes.  A descriptor always delivers
something, and reading it to its end gives just that; the stream of a file, or of a pipe that
nobody writes to any more, is read whole whatever the size of the pieces, if nothing but
interruptions is planned.  In particular the engine is given the decoding of all of standard
input, once and under its name, or nothing if reading fails. -/
theorem streams_are_read_whole (context : Context τ) (id : Nat) (runtime : Runtime)
    (world : World τ) :
    (∀ (σ : Type) (read : Nat → σ → Except Int Bytes × σ) (source rest : σ)
      (outcome : Except Int Bytes) (chunk : Nat),
      Delivers (read (max chunk 1)) source outcome rest →
        ∃ enough, ∀ fuel, enough ≤ fuel →
          gather (read (max chunk 1)) fuel [] source = (outcome, rest)) ∧
    (∀ (kernel : Kernel) (fd : Descriptor) (chunk : Nat),
      (∃ outcome rest, Delivers (Kernel.read fd (max chunk 1)) kernel outcome rest) ∧
      ∀ outcome rest, Delivers (Kernel.read fd (max chunk 1)) kernel outcome rest →
        readToEnd fd chunk kernel = (outcome.mapError (SystemError.mk "read"), rest)) ∧
    (∀ (kernel : Kernel) (fd : Descriptor) (stream : Bytes),
      kernel.streamOf? fd = some stream →
      (∀ errno, Kernel.PlansRead kernel.faults errno → errno = Errno.interrupted) →
      ∀ chunk, (readToEnd fd chunk kernel).1 = .ok stream) ∧
    (∀ stream rest,
      Delivers (Kernel.read Kernel.stdin stdinChunk) world.kernel (.ok stream) rest →
      dispatch context id runtime .stdin world =
        (do let _ ← context.run
              (context.engine.runScript (String.ofList (Text.Utf8.decodeLossy stream)) "stdin")
            : Action τ Unit)
          { world with
            kernel := rest
            journal := world.journal.push
              (.script "stdin" (String.ofList (Text.Utf8.decodeLossy stream))) }) ∧
    ∀ errno rest,
      Delivers (Kernel.read Kernel.stdin stdinChunk) world.kernel (.error errno) rest →
      dispatch context id runtime .stdin world =
        (.error (.raised (.system ⟨"read", errno⟩)), { world with kernel := rest }) := by
  refine ⟨fun σ read source rest outcome chunk delivers => ?_, fun kernel fd chunk => ⟨?_, ?_⟩,
    fun kernel fd stream finite calm chunk => ?_, fun stream rest => runStdin_of_stream context,
    fun errno rest => runStdin_of_failure context⟩
  · obtain ⟨enough, gathered⟩ := gather_of_delivers delivers
    refine ⟨enough, fun fuel more => ?_⟩
    rw [gathered fuel more, map_flatten_nil]
  · obtain ⟨outcome, rest, delivers, -⟩ := readToEnd_delivers kernel fd chunk
    exact ⟨outcome, rest, delivers⟩
  · exact fun outcome rest => readToEnd_of_delivers
  · obtain ⟨rest, delivers⟩ := delivers_of_stream (Nat.le_max_right chunk 1) kernel stream finite calm
    rw [readToEnd_of_delivers delivers]
    rfl

/-- An engine whose scripts write down their name and source. -/
def clerk : Engine (List (String × String)) where
  compile _ _ := .ok fun _ => .done .null
  runScript source name := .fetch fun seen => .store (seen ++ [(name, source)]) (.done .null)
  runModule source name := .fetch fun seen => .store (seen ++ [(name, source)]) (.done .null)

/-- A runtime that takes its script from standard input. -/
def listener : Runtime :=
  { options := .parse ["host", "--"], settings := .default, registry := 0, services := []
    environment := .empty, reactor := 0, loader := 0, worker := none }

/-- The bytes of a character and of one that takes two. -/
def spelling : Bytes := [0x6E, 0xC3, 0xA9]

theorem spelling_decodes : String.ofList (Text.Utf8.decodeLossy spelling) = "né" := by
  have spelled : "né".toUTF8.toList = spelling := (Text.Utf8.toList_toUTF8 _).trans (by decide)
  rw [← spelled, Text.Utf8.decodeLossy_toUTF8, String.ofList_toList]

/-- Input of which the second read is cut off. -/
def cutInput (errno : Int) : Kernel :=
  (Kernel.start spelling none).plan ⟨"read", 1, errno⟩

/-- Where the second read fails, that is what is delivered. -/
theorem cutInput_delivers {length : Nat} (some : length = 2 ∨ length = stdinChunk) :
    ∃ rest, Delivers (Kernel.read Kernel.stdin length) (cutInput 5) (.error 5) rest := by
  rcases some with rfl | rfl
  · have first : ∃ next rest, Kernel.read Kernel.stdin 2 (cutInput 5) = (.ok [0x6E, 0xC3], next) ∧
        Kernel.read Kernel.stdin 2 next = (.error 5, rest) := ⟨_, _, rfl, rfl⟩
    obtain ⟨next, rest, given, failed⟩ := first
    exact ⟨rest, (Delivers.piece given (by decide) (.failed failed (by decide)) :)⟩
  · have first : ∃ next rest, Kernel.read Kernel.stdin stdinChunk (cutInput 5) =
        (.ok spelling, next) ∧ Kernel.read Kernel.stdin stdinChunk next = (.error 5, rest) :=
      ⟨_, _, rfl, rfl⟩
    obtain ⟨next, rest, given, failed⟩ := first
    exact ⟨rest, (Delivers.piece given (by decide) (.failed failed (by decide)) :)⟩

theorem interrupted_input_is_read_whole :
    (cutInput Errno.interrupted).streamOf? Kernel.stdin = some spelling ∧
    (∀ errno, Kernel.PlansRead (cutInput Errno.interrupted).faults errno →
      errno = Errno.interrupted) ∧
    (readToEnd Kernel.stdin 2 (cutInput Errno.interrupted)).1 = .ok spelling ∧
    (∃ rest, Delivers (Kernel.read Kernel.stdin (max 2 1)) (cutInput 5) (.error 5) rest ∧
      (∃ enough, ∀ fuel, enough ≤ fuel →
        gather (Kernel.read Kernel.stdin (max 2 1)) fuel [] (cutInput 5) = (.error 5, rest)) ∧
      readToEnd Kernel.stdin 2 (cutInput 5) = (.error ⟨"read", 5⟩, rest)) ∧
    (∃ rest, Delivers (Kernel.read Kernel.stdin stdinChunk) (cutInput Errno.interrupted)
        (.ok spelling) rest ∧
      (dispatch ⟨clerk, Script.exec clerk 1, 1⟩ 0 listener .stdin
        (World.start (cutInput Errno.interrupted) .empty .empty [])).2.memory =
          [("stdin", "né")]) ∧
    ∃ rest, Delivers (Kernel.read Kernel.stdin stdinChunk) (cutInput 5) (.error 5) rest ∧
      (dispatch ⟨clerk, Script.exec clerk 1, 1⟩ 0 listener .stdin
        (World.start (cutInput 5) .empty .empty [])).2.memory = [] := by
  have calm : ∀ errno, Kernel.PlansRead (cutInput Errno.interrupted).faults errno →
      errno = Errno.interrupted := by
    rintro errno ⟨fault, among, -, rfl⟩
    rw [List.mem_singleton.mp among]
  have finite : (cutInput Errno.interrupted).streamOf? Kernel.stdin = some spelling := rfl
  have all := streams_are_read_whole ⟨clerk, Script.exec clerk 1, 1⟩ 0 listener
  have here := all (.start (cutInput Errno.interrupted) .empty .empty [])
  have there := all (.start (cutInput 5) .empty .empty [])
  obtain ⟨rest, whole⟩ := delivers_of_stream (by decide : 0 < stdinChunk)
    (cutInput Errno.interrupted) spelling finite calm
  obtain ⟨short, failed⟩ := cutInput_delivers (.inl rfl)
  obtain ⟨long, failed'⟩ := cutInput_delivers (.inr rfl)
  refine ⟨finite, calm, here.2.2.1 _ _ _ finite calm 2,
    ⟨short, failed, there.1 _ (Kernel.read Kernel.stdin) _ _ _ 2 failed,
      (there.2.1 _ _ 2).2 _ _ failed⟩, ⟨rest, whole, ?_⟩, long, failed', ?_⟩
  · rw [here.2.2.2.1 spelling rest whole, spelling_decodes]
    rfl
  · rw [there.2.2.2.2 5 long failed']
    rfl

end Startup

end ScriptHost
