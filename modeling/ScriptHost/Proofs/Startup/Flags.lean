import Mathlib.Data.List.Sort
import Mathlib.Data.String.Basic
import ScriptHost.Proofs.Values.RoundTrip
import ScriptHost.Startup.Mode

/-!
# Flags stand anywhere

Of an argument vector its options keep the positional tokens in order and the set of the flag
names, and nothing else.  So flags may be moved, repeated or put before the name of the program,
and what a runtime does when it starts follows from the positionals alone.
-/

namespace ScriptHost

namespace Options

variable {name token : String} {argv names : List String} {options : Options}

/-! ## Tokens -/

/-- A token of two dashes and a name is a flag of that name. -/
def IsFlag (name token : String) : Prop :=
  name ≠ "" ∧ token = "--" ++ name

/-- A token that is no flag, like two dashes alone. -/
def IsPositional (token : String) : Prop :=
  ∀ name, ¬IsFlag name token

/-- The names of the flags among some tokens. -/
def flagNames (argv : List String) : Set String :=
  {name | ∃ token ∈ argv, IsFlag name token}

theorem flagName?_eq_some_iff : flagName? token = some name ↔ IsFlag name token := by
  unfold flagName? IsFlag
  split
  next c rest dashes =>
    rw [Option.some.injEq]
    constructor
    · rintro rfl
      refine ⟨fun empty => ?_, ?_⟩
      · exact List.cons_ne_nil c rest (String.ofList_eq_empty_iff.mp empty)
      · rw [← String.toList_inj, dashes, String.toList_append, String.toList_ofList,
          String.toList_ofList]
        rfl
    · rintro ⟨-, rfl⟩
      rw [String.toList_append] at dashes
      have same : name.toList = c :: rest := by
        injection dashes with _ dashes
        injection dashes
      rw [← same, String.ofList_toList]
  next short =>
    refine iff_of_false (Option.some_ne_none name).symm ?_
    rintro ⟨nonempty, rfl⟩
    obtain ⟨c, rest, same⟩ := List.exists_cons_of_ne_nil
      (fun empty => nonempty (String.toList_eq_nil_iff.mp empty) : name.toList ≠ [])
    exact short c rest (by rw [String.toList_append, same]; rfl)

theorem isPositional_iff : IsPositional token ↔ flagName? token = none := by
  rw [Option.eq_none_iff_forall_ne_some]
  exact forall_congr' fun name => not_congr flagName?_eq_some_iff.symm

instance : DecidablePred IsPositional := fun _ =>
  decidable_of_iff _ isPositional_iff.symm

/-! ## Names in order -/

theorem mem_insertName {other : String} :
    other ∈ insertName name names ↔ other = name ∨ other ∈ names := by
  induction names with
  | nil => exact List.mem_singleton.trans (or_iff_left List.not_mem_nil).symm
  | cons first rest ih =>
      rw [insertName]
      split
      next => exact List.mem_cons
      next =>
        split
        next same =>
          rw [same, List.mem_cons, ← or_assoc, or_self]
        next => rw [List.mem_cons, ih, List.mem_cons, or_left_comm]

theorem ordered_insertName (ordered : names.Pairwise (· < ·)) :
    (insertName name names).Pairwise (· < ·) := by
  induction names with
  | nil => exact List.pairwise_singleton _ name
  | cons first rest ih =>
      have least := (List.pairwise_cons.mp ordered).1
      rw [insertName]
      split
      next before =>
        refine List.pairwise_cons.mpr ⟨fun other among => ?_, ordered⟩
        rcases List.mem_cons.mp among with rfl | later
        · exact before
        · exact lt_trans before (least other later)
      next notBefore =>
        split
        next => exact ordered
        next different =>
          refine List.pairwise_cons.mpr ⟨fun other among => ?_, ih ordered.of_cons⟩
          rcases mem_insertName.mp among with rfl | later
          · exact lt_of_le_of_ne (le_of_not_gt notBefore) (Ne.symm different)
          · exact least other later

/-! ## What options keep of an argument vector -/

theorem add_of_isFlag (isFlag : IsFlag name token) (options : Options) :
    options.add token = { options with flags := insertName name options.flags } := by
  rw [add, flagName?_eq_some_iff.mpr isFlag]

theorem add_of_isPositional (isPositional : IsPositional token) (options : Options) :
    options.add token = { options with positionals := options.positionals ++ [token] } := by
  rw [add, isPositional_iff.mp isPositional]

theorem exists_isFlag (notPositional : ¬IsPositional token) : ∃ name, IsFlag name token :=
  not_forall_not.mp notPositional

theorem positionals_foldl_add (argv : List String) (options : Options) :
    (argv.foldl add options).positionals = options.positionals ++ argv.filter (IsPositional ·) := by
  induction argv generalizing options with
  | nil => exact (List.append_nil _).symm
  | cons token rest ih =>
      rw [List.foldl_cons, ih]
      by_cases isPositional : IsPositional token
      · rw [add_of_isPositional isPositional, List.filter_cons, if_pos (decide_eq_true isPositional),
          List.append_assoc, List.singleton_append]
      · obtain ⟨name, isFlag⟩ := exists_isFlag isPositional
        rw [add_of_isFlag isFlag, List.filter_cons, if_neg (by simpa using isPositional)]

theorem mem_flags_foldl_add (argv : List String) (options : Options) :
    name ∈ (argv.foldl add options).flags ↔ name ∈ options.flags ∨ name ∈ flagNames argv := by
  induction argv generalizing options with
  | nil => exact (or_iff_left fun ⟨_, among, _⟩ => List.not_mem_nil among).symm
  | cons token rest ih =>
      have split : name ∈ flagNames (token :: rest) ↔ IsFlag name token ∨ name ∈ flagNames rest :=
        List.exists_mem_cons_iff ..
      rw [List.foldl_cons, ih, split, ← or_assoc]
      refine or_congr_left ?_
      by_cases isPositional : IsPositional token
      · rw [add_of_isPositional isPositional]
        exact (or_iff_left (isPositional name)).symm
      · obtain ⟨given, isFlag⟩ := exists_isFlag isPositional
        have same : IsFlag name token ↔ name = given := by
          rw [← flagName?_eq_some_iff, flagName?_eq_some_iff.mpr isFlag, Option.some.injEq, eq_comm]
        rw [add_of_isFlag isFlag, same, mem_insertName, or_comm]

theorem ordered_foldl_add (argv : List String) (ordered : options.flags.Pairwise (· < ·)) :
    (argv.foldl add options).flags.Pairwise (· < ·) := by
  induction argv generalizing options with
  | nil => exact ordered
  | cons token rest ih =>
      rw [List.foldl_cons]
      refine ih ?_
      by_cases isPositional : IsPositional token
      · rw [add_of_isPositional isPositional]
        exact ordered
      · obtain ⟨name, isFlag⟩ := exists_isFlag isPositional
        rw [add_of_isFlag isFlag]
        exact ordered_insertName ordered

theorem positionals_parse (argv : List String) :
    (parse argv).positionals = argv.filter (IsPositional ·) :=
  positionals_foldl_add argv _

theorem mem_flags_parse : name ∈ (parse argv).flags ↔ name ∈ flagNames argv :=
  (mem_flags_foldl_add argv _).trans (or_iff_right List.not_mem_nil)

theorem ordered_parse (argv : List String) : (parse argv).flags.Pairwise (· < ·) :=
  ordered_foldl_add argv List.Pairwise.nil

/-- Options are the positionals and the set of flag names. -/
theorem parse_eq_parse_iff {first second : List String} :
    parse first = parse second ↔
      first.filter (IsPositional ·) = second.filter (IsPositional ·) ∧
        flagNames first = flagNames second := by
  rw [← positionals_parse, ← positionals_parse]
  constructor
  · intro same
    refine ⟨congrArg positionals same, Set.ext fun name => ?_⟩
    rw [← mem_flags_parse, ← mem_flags_parse, same]
  · rintro ⟨positionals, flags⟩
    have same : (parse first).flags = (parse second).flags :=
      (ordered_parse first).eq_of_mem_iff (ordered_parse second) fun name => by
        rw [mem_flags_parse, mem_flags_parse, flags]
    cases first' : parse first
    cases second' : parse second
    rw [first', second'] at same positionals
    exact congr (congrArg Options.mk same) positionals

end Options

/-! ## Startup modes -/

/-- The mode follows from the positionals and from whether there is a worker script. -/
theorem StartupMode.select_congr {first second : Options}
    (same : first.positionals = second.positionals) (hasWorker : Bool) :
    select first hasWorker = select second hasWorker := by
  unfold select Options.positional?
  rw [same]

/-! ## Options as scripts see them -/

namespace Value

theorem mem_setMember_iff {key : String} {value : Value} {members : List (String × Value)}
    {member : String × Value} (distinct : (members.map Prod.fst).Nodup) :
    member ∈ setMember key value members ↔
      member = (key, value) ∨ member.1 ≠ key ∧ member ∈ members := by
  induction members with
  | nil => simp [setMember]
  | cons first rest ih =>
      rw [List.map_cons, List.nodup_cons] at distinct
      rw [setMember]
      split
      next same =>
        have away : member ∈ rest → member.1 ≠ key := by
          rintro among rfl
          exact distinct.1 (List.mem_map.mpr ⟨member, among, same.symm⟩)
        rw [List.mem_cons, List.mem_cons]
        constructor
        · exact Or.imp_right fun among => ⟨away among, .inr among⟩
        · rintro (here | ⟨other, rfl | among⟩)
          · exact .inl here
          · exact absurd same other
          · exact .inr among
      next different =>
        rw [List.mem_cons, List.mem_cons, ih distinct.2]
        constructor
        · rintro (rfl | here | ⟨other, among⟩)
          · exact .inr ⟨different, .inl rfl⟩
          · exact .inl here
          · exact .inr ⟨other, .inr among⟩
        · rintro (here | ⟨other, rfl | among⟩)
          · exact .inr (.inl here)
          · exact .inl rfl
          · exact .inr (.inr ⟨other, among⟩)

end Value

namespace Options

variable {options : Options}

/-- The members of options: the positionals under `args`, and every other flag. -/
theorem toValue_members (ordered : options.flags.Pairwise (· < ·)) :
    ∃ members, options.toValue = .object members ∧ (members.map Prod.fst).Nodup ∧
      ∀ name value, (name, value) ∈ members ↔
        name = "args" ∧ value = .array (options.positionals.map .string) ∨
          name ≠ "args" ∧ name ∈ options.flags ∧ value = .bool true := by
  have keys : ((options.flags.map fun name => (name, Value.bool true)).map Prod.fst).Nodup := by
    rw [List.map_map]
    exact (List.map_id options.flags).symm ▸ ordered.imp ne_of_lt
  refine ⟨_, rfl, Value.nodup_setMember keys, fun name value => ?_⟩
  rw [Value.mem_setMember_iff keys, Prod.mk.injEq]
  refine or_congr_right (and_congr_right fun _ => ?_)
  rw [List.mem_map]
  constructor
  · rintro ⟨flag, among, same⟩
    cases same
    exact ⟨among, rfl⟩
  · rintro ⟨among, rfl⟩
    exact ⟨name, among, rfl⟩

/-- Two argument vectors give the same options just if they have the same positionals in order
and the same flag names.  The startup mode follows from the positionals, so flags may be put in
anywhere.  Scripts see the positionals under `args`, and as further members the flags, a flag
called `args` apart. -/
theorem flags_stand_anywhere :
    (∀ first second, parse first = parse second ↔
      first.filter (IsPositional ·) = second.filter (IsPositional ·) ∧
        flagNames first = flagNames second) ∧
    (∀ first second hasWorker,
      first.filter (IsPositional ·) = second.filter (IsPositional ·) →
        StartupMode.select (parse first) hasWorker = StartupMode.select (parse second) hasWorker) ∧
    (∀ before flags after hasWorker, (∀ token ∈ flags, ¬IsPositional token) →
      StartupMode.select (parse (before ++ flags ++ after)) hasWorker =
        StartupMode.select (parse (before ++ after)) hasWorker) ∧
    (∀ argv, (parse argv).flags.Pairwise (· < ·)) ∧
    ∀ options : Options, options.flags.Pairwise (· < ·) →
      ∃ members, options.toValue = .object members ∧ (members.map Prod.fst).Nodup ∧
        ∀ name value, (name, value) ∈ members ↔
          name = "args" ∧ value = .array (options.positionals.map .string) ∨
            name ≠ "args" ∧ name ∈ options.flags ∧ value = .bool true := by
  have mode : ∀ first second hasWorker,
      first.filter (IsPositional ·) = second.filter (IsPositional ·) →
        StartupMode.select (parse first) hasWorker =
          StartupMode.select (parse second) hasWorker := by
    intro first second hasWorker same
    rw [← positionals_parse, ← positionals_parse] at same
    exact StartupMode.select_congr same hasWorker
  refine ⟨fun _ _ => parse_eq_parse_iff, mode, fun before flags after hasWorker allFlags => ?_,
    ordered_parse, fun _ => toValue_members⟩
  have none : flags.filter (IsPositional ·) = [] :=
    List.filter_eq_nil_iff.mpr fun token among => by simpa using allFlags token among
  refine mode _ _ hasWorker ?_
  rw [List.filter_append, List.filter_append, none, List.append_nil, List.filter_append]

/-- Flags before the program's name and after two dashes alone, and one called `args`. -/
def flagged : List String := ["--esm", "ember", "--", "--args", "--esm"]

theorem flagged_stands_anywhere :
    flagged.filter (IsPositional ·) = ["ember", "--"].filter (IsPositional ·) ∧
      StartupMode.select (parse flagged) false = StartupMode.select (parse ["ember", "--"]) false ∧
      StartupMode.select (parse flagged) false = .ok .stdin ∧
      (∀ token ∈ ["--esm"], ¬IsPositional token) ∧
      StartupMode.select (parse ([] ++ ["--esm"] ++ flagged)) true =
        StartupMode.select (parse ([] ++ flagged)) true ∧
      (parse flagged).flags.Pairwise (· < ·) ∧
      ∃ members, (parse flagged).toValue = .object members ∧
        (∀ value, ("args", value) ∈ members ↔
          value = .array ((parse flagged).positionals.map .string)) ∧
        ("esm", .bool true) ∈ members := by
  have same : flagged.filter (IsPositional ·) = ["ember", "--"].filter (IsPositional ·) := by
    decide
  have isFlag : ∀ token ∈ ["--esm"], ¬IsPositional token := by decide
  have ordered := flags_stand_anywhere.2.2.2.1 flagged
  obtain ⟨members, value, -, all⟩ := flags_stand_anywhere.2.2.2.2 _ ordered
  refine ⟨same, flags_stand_anywhere.2.1 _ _ false same, by decide, isFlag,
    flags_stand_anywhere.2.2.1 [] _ flagged true isFlag, ordered, members, value,
    fun value => ?_, ?_⟩
  · rw [all]
    simp
  · rw [all]
    exact .inr ⟨by decide, by decide, rfl⟩

end Options

end ScriptHost
