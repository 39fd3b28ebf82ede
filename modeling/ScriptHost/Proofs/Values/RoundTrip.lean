import Mathlib.Data.List.Perm.Basic
import Mathlib.Data.String.Basic
import ScriptHost.Value

/-!
# Values that go through JSON

What is written as a document and read again is the value without its functions and without its
numbers that are not finite, which became null.  Objects may have their members in another
order, since a document keeps them ordered by key, but they are the same maps.  A second time
nothing changes.
-/

namespace ScriptHost

namespace Value

variable {key : String} {value : Value} {items : List Value}
variable {members others : List (String × Value)}

/-! ## Values by their parts -/

/-- What holds of arrays if it holds of their items, and of objects if it holds of the values of
their members, holds of all values. -/
theorem induct {P : Value → Prop} (null : P null) (bool : ∀ value, P (bool value))
    (number : ∀ value, P (number value)) (string : ∀ value, P (string value))
    (array : ∀ items, (∀ item ∈ items, P item) → P (array items))
    (object : ∀ members, (∀ member ∈ members, P member.2) → P (object members))
    (function : ∀ name body, P (function name body)) (value : Value) : P value :=
  @Value.rec P (fun items => ∀ item ∈ items, P item) (fun members => ∀ member ∈ members, P member.2)
    (fun member => P member.2) null bool number string (fun items => array items)
    (fun members => object members) function (List.forall_mem_nil _)
    (fun _ _ first rest => List.forall_mem_cons.mpr ⟨first, rest⟩) (List.forall_mem_nil _)
    (fun _ _ first rest => List.forall_mem_cons.mpr ⟨first, rest⟩) (fun _ _ holds => holds) value

theorem itemsToJson_eq (items : List Value) : itemsToJson items = items.map toJson := by
  induction items with
  | nil => rfl
  | cons item rest ih => rw [itemsToJson, ih, List.map_cons]

theorem itemsOfJson_eq (items : List Json) : itemsOfJson items = items.map ofJson := by
  induction items with
  | nil => rfl
  | cons item rest ih => rw [itemsOfJson, ih, List.map_cons]

theorem membersOfJson_eq (members : List (String × Json)) :
    membersOfJson members = members.map fun member => (member.1, ofJson member.2) := by
  induction members with
  | nil => rfl
  | cons member rest ih => rw [membersOfJson, ih, List.map_cons]

/-! ## Members -/

theorem mem_of_member? (found : member? key members = some value) : (key, value) ∈ members := by
  induction members with
  | nil => cases found
  | cons member rest ih =>
      rw [member?] at found
      split at found
      next same =>
        cases found
        rw [← same]
        exact List.mem_cons_self
      next => exact List.mem_cons_of_mem _ (ih found)

/-- An object has the members whose keys are among its own. -/
theorem isSome_member? : (member? key members).isSome = true ↔ key ∈ members.map Prod.fst := by
  induction members with
  | nil => exact iff_of_false Bool.false_ne_true List.not_mem_nil
  | cons member rest ih =>
      rw [member?, List.map_cons, List.mem_cons]
      split
      next same => exact iff_of_true rfl (.inl same.symm)
      next other => rw [ih, or_iff_right (Ne.symm other)]

/-- The member of an object whose keys are distinct. -/
theorem member?_of_mem (distinct : (members.map Prod.fst).Nodup) (member : (key, value) ∈ members) :
    member? key members = some value := by
  induction members with
  | nil => cases member
  | cons first rest ih =>
      rw [List.map_cons, List.nodup_cons] at distinct
      rw [member?]
      rcases List.mem_cons.mp member with rfl | later
      · rw [if_pos rfl]
      · have other : first.1 ≠ key := by
          rintro rfl
          exact distinct.1 (List.mem_map.mpr ⟨_, later, rfl⟩)
        rw [if_neg other, ih distinct.2 later]

theorem member?_map (f : Value → Value) :
    member? key (members.map fun member => (member.1, f member.2)) =
      (member? key members).map f := by
  induction members with
  | nil => rfl
  | cons member rest ih =>
      rw [List.map_cons, member?, member?, ih]
      split <;> rfl

/-! ## Members of documents -/

section Documents

variable {document : Json} {entries : List (String × Json)}

/-- A document in which a member is put is read with that member. -/
theorem member?_insertMember (other : String) :
    member? other (membersOfJson (Json.insertMember key document entries)) =
      if key = other then some (ofJson document) else member? other (membersOfJson entries) := by
  induction entries with
  | nil => rfl
  | cons entry rest ih =>
      rw [Json.insertMember]
      split
      next => rfl
      next =>
        split
        next same =>
          rw [membersOfJson, membersOfJson, member?, member?, same]
          split <;> rfl
        next different =>
          rw [membersOfJson, membersOfJson, member?, member?, ih]
          split
          next here => rw [if_neg (here ▸ different)]
          next => rfl

/-- Keys in strict order. -/
def Ordered (entries : List (String × Json)) : Prop :=
  (entries.map Prod.fst).Pairwise (· < ·)

theorem mem_insertMember {entry : String × Json}
    (member : entry ∈ Json.insertMember key document entries) :
    entry = (key, document) ∨ entry ∈ entries := by
  induction entries with
  | nil => exact .inl (List.mem_singleton.mp member)
  | cons first rest ih =>
      rw [Json.insertMember] at member
      split at member
      · exact List.mem_cons.mp member
      · split at member
        · exact (List.mem_cons.mp member).imp_right (List.mem_cons_of_mem _)
        · rcases List.mem_cons.mp member with rfl | later
          · exact .inr List.mem_cons_self
          · exact (ih later).imp_right (List.mem_cons_of_mem _)

/-- A member is put at its place. -/
theorem ordered_insertMember (ordered : Ordered entries) :
    Ordered (Json.insertMember key document entries) := by
  induction entries with
  | nil => exact List.pairwise_singleton _ key
  | cons first rest ih =>
      rw [Ordered, List.map_cons, List.pairwise_cons] at ordered
      rcases ordered with ⟨least, ordered⟩
      rw [Json.insertMember, Ordered]
      split
      next before =>
        rw [List.map_cons, List.pairwise_cons, List.map_cons, List.pairwise_cons]
        refine ⟨fun other member => ?_, least, ordered⟩
        rcases List.mem_cons.mp member with rfl | later
        · exact before
        · exact lt_trans before (least other later)
      next notBefore =>
        split
        next same =>
          rw [List.map_cons, List.pairwise_cons, same]
          exact ⟨least, ordered⟩
        next different =>
          rw [List.map_cons, List.pairwise_cons]
          refine ⟨fun other member => ?_, ih ordered⟩
          rcases List.mem_map.mp member with ⟨entry, inserted, rfl⟩
          rcases mem_insertMember inserted with rfl | old
          · exact lt_of_le_of_ne (le_of_not_gt notBefore) (Ne.symm different)
          · exact least _ (List.mem_map.mpr ⟨entry, old, rfl⟩)

/-- What comes before all others is put in front. -/
theorem insertMember_of_ordered (ordered : Ordered ((key, document) :: entries)) :
    Json.insertMember key document entries = (key, document) :: entries := by
  cases entries with
  | nil => rfl
  | cons first rest =>
      rw [Ordered, List.map_cons, List.pairwise_cons] at ordered
      rw [Json.insertMember, if_pos (ordered.1 _ List.mem_cons_self)]

end Documents

theorem ordered_membersToJson (members : List (String × Value)) :
    Ordered (membersToJson members) := by
  induction members with
  | nil => exact List.Pairwise.nil
  | cons member rest ih => exact ordered_insertMember ih

theorem mem_membersToJson {entry : String × Json} (among : entry ∈ membersToJson members) :
    ∃ member ∈ members, entry = (member.1, member.2.toJson) := by
  induction members with
  | nil => cases among
  | cons member rest ih =>
      rcases mem_insertMember among with rfl | later
      · exact ⟨member, List.mem_cons_self, rfl⟩
      · rcases ih later with ⟨other, inside, same⟩
        exact ⟨other, List.mem_cons_of_mem _ inside, same⟩

/-- Each member of an object is read again as what becomes of its value. -/
theorem member?_membersToJson (members : List (String × Value)) :
    member? key (membersOfJson (membersToJson members)) =
      (member? key members).map fun value => ofJson value.toJson := by
  induction members with
  | nil => rfl
  | cons member rest ih =>
      rw [membersToJson, member?_insertMember, member?, ih]
      split <;> rfl

/-- A document whose members come from documents that are written as they were read is itself. -/
theorem membersToJson_membersOfJson {entries : List (String × Json)} (ordered : Ordered entries)
    (stay : ∀ entry ∈ entries, (ofJson entry.2).toJson = entry.2) :
    membersToJson (membersOfJson entries) = entries := by
  induction entries with
  | nil => rfl
  | cons entry rest ih =>
      have later : Ordered rest := (List.pairwise_cons.mp ordered).2
      rw [membersOfJson, membersToJson, ih later fun other inside => stay other (.tail _ inside),
        stay entry List.mem_cons_self]
      exact insertMember_of_ordered ordered

/-! ## What JSON keeps -/

mutual

/-- The value with null in the place of functions and of numbers that are not finite. -/
def plain : Value → Value
  | null => null
  | bool value => bool value
  | number value => if value.isFinite then number value else null
  | string value => string value
  | array items => array (plainItems items)
  | object members => object (plainMembers members)
  | function _ _ => null

/-- The same for each item of an array. -/
def plainItems : List Value → List Value
  | [] => []
  | item :: rest => item.plain :: plainItems rest

/-- The same for each member of an object. -/
def plainMembers : List (String × Value) → List (String × Value)
  | [] => []
  | (key, value) :: rest => (key, value.plain) :: plainMembers rest

end

/-- Values without functions whose numbers are finite. -/
inductive IsPlain : Value → Prop where
  | null : IsPlain null
  | bool (value : Bool) : IsPlain (bool value)
  | number {value : Binary64} (finite : value.isFinite = true) : IsPlain (number value)
  | string (value : String) : IsPlain (string value)
  | array {items : List Value} (all : ∀ item ∈ items, IsPlain item) : IsPlain (array items)
  | object {members : List (String × Value)} (all : ∀ member ∈ members, IsPlain member.2) :
      IsPlain (object members)

/-- Values whose objects are maps: no key occurs twice in one. -/
inductive Keyed : Value → Prop where
  | null : Keyed null
  | bool (value : Bool) : Keyed (bool value)
  | number (value : Binary64) : Keyed (number value)
  | string (value : String) : Keyed (string value)
  | array {items : List Value} (all : ∀ item ∈ items, Keyed item) : Keyed (array items)
  | object {members : List (String × Value)} (distinct : (members.map Prod.fst).Nodup)
      (all : ∀ member ∈ members, Keyed member.2) : Keyed (object members)
  | function (name : String) (body : Nat) : Keyed (function name body)

/-- Values that are the same but for the order of members: arrays with the same items, and objects
that are the same maps. -/
inductive Alike : Value → Value → Prop where
  | null : Alike null null
  | bool (value : Bool) : Alike (bool value) (bool value)
  | number (value : Binary64) : Alike (number value) (number value)
  | string (value : String) : Alike (string value) (string value)
  | array {items others : List Value} (length : items.length = others.length)
      (all : ∀ pair ∈ items.zip others, Alike pair.1 pair.2) : Alike (array items) (array others)
  | object {members others : List (String × Value)}
      (keys : ∀ key, (member? key members).isSome = (member? key others).isSome)
      (all : ∀ key value other, member? key members = some value → member? key others = some other →
        Alike value other) : Alike (object members) (object others)
  | function (name : String) (body : Nat) : Alike (function name body) (function name body)

theorem plainItems_eq (items : List Value) : plainItems items = items.map plain := by
  induction items with
  | nil => rfl
  | cons item rest ih => rw [plainItems, ih, List.map_cons]

theorem plainMembers_eq (members : List (String × Value)) :
    plainMembers members = members.map fun member => (member.1, member.2.plain) := by
  induction members with
  | nil => rfl
  | cons member rest ih => rw [plainMembers, ih, List.map_cons]

theorem isPlain_plain (value : Value) : value.plain.IsPlain := by
  induction value using induct with
  | null => exact .null
  | bool value => exact .bool value
  | number value =>
      rw [plain]
      split
      next finite => exact .number finite
      next => exact .null
  | string value => exact .string value
  | array items ih =>
      rw [plain, plainItems_eq]
      exact .array (List.forall_mem_map.mpr ih)
  | object members ih =>
      rw [plain, plainMembers_eq]
      exact .object (List.forall_mem_map.mpr ih)
  | function name body => exact .null

theorem IsPlain.plain_eq (isPlain : value.IsPlain) : value.plain = value := by
  induction isPlain with
  | null | bool | string => rfl
  | number finite => rw [plain, if_pos finite]
  | array all ih =>
      rw [plain, plainItems_eq]
      exact congrArg Value.array ((List.map_congr_left ih).trans (List.map_id _))
  | object all ih =>
      rw [plain, plainMembers_eq]
      congr 1
      refine (List.map_congr_left fun member inside => ?_).trans (List.map_id _)
      rw [ih member inside]
      rfl

theorem Keyed.plain (keyed : value.Keyed) : value.plain.Keyed := by
  induction keyed with
  | null => exact .null
  | bool value => exact .bool value
  | number value =>
      rw [Value.plain]
      split
      · exact .number value
      · exact .null
  | string value => exact .string value
  | array all ih =>
      rw [Value.plain, plainItems_eq]
      exact .array (List.forall_mem_map.mpr ih)
  | object distinct all ih =>
      rw [Value.plain, plainMembers_eq]
      refine .object ?_ (List.forall_mem_map.mpr ih)
      rwa [List.map_map]
  | function => exact .null

theorem mem_setMember {member : String × Value} (among : member ∈ setMember key value members) :
    member = (key, value) ∨ member ∈ members := by
  induction members with
  | nil => exact .inl (List.mem_singleton.mp among)
  | cons first rest ih =>
      rw [setMember] at among
      split at among
      · exact (List.mem_cons.mp among).imp_right (List.mem_cons_of_mem _)
      · rcases List.mem_cons.mp among with rfl | later
        · exact .inr List.mem_cons_self
        · exact (ih later).imp_right (List.mem_cons_of_mem _)

theorem nodup_setMember (distinct : (members.map Prod.fst).Nodup) :
    ((setMember key value members).map Prod.fst).Nodup := by
  induction members with
  | nil => exact List.pairwise_singleton _ key
  | cons first rest ih =>
      rw [List.map_cons, List.nodup_cons] at distinct
      rw [setMember]
      split
      next same =>
        rw [List.map_cons, List.nodup_cons, ← same]
        exact distinct
      next different =>
        rw [List.map_cons, List.nodup_cons]
        refine ⟨fun again => ?_, ih distinct.2⟩
        rcases List.mem_map.mp again with ⟨member, among, here⟩
        rcases mem_setMember among with rfl | old
        · exact different here.symm
        · exact distinct.1 (List.mem_map.mpr ⟨member, old, here⟩)

/-- Objects stay maps when a member is set. -/
theorem Keyed.set? {target result : Value} (keyed : target.Keyed) (keyed' : value.Keyed)
    (done : target.set? key value = some result) : result.Keyed := by
  cases keyed with
  | object distinct all =>
      cases done
      refine .object (nodup_setMember distinct) fun member among => ?_
      rcases mem_setMember among with rfl | old
      · exact keyed'
      · exact all member old
  | null | bool | number | string | array | function => cases done

/-! ## Once through JSON -/

/-- Through JSON a value becomes what is plain of it. -/
theorem alike_ofJson_toJson (value : Value) : Alike (ofJson value.toJson) value.plain := by
  induction value using induct with
  | null => exact .null
  | bool value => exact .bool value
  | number value =>
      rw [toJson, plain]
      split
      · exact .number value
      · exact .null
  | string value => exact .string value
  | array items ih =>
      rw [toJson, ofJson, itemsToJson_eq, itemsOfJson_eq, List.map_map, plain, plainItems_eq]
      refine .array (by rw [List.length_map, List.length_map]) ?_
      rw [List.zip_map']
      exact List.forall_mem_map.mpr ih
  | object members ih =>
      rw [toJson, ofJson, plain, plainMembers_eq]
      refine .object (fun key => ?_) fun key value other found found' => ?_
      · rw [member?_membersToJson, member?_map, Option.isSome_map, Option.isSome_map]
      · rw [member?_membersToJson] at found
        rw [member?_map] at found'
        rcases Option.map_eq_some_iff.mp found with ⟨source, here, rfl⟩
        rcases Option.map_eq_some_iff.mp found' with ⟨source', here', rfl⟩
        cases here.symm.trans here'
        exact ih _ (mem_of_member? here)
  | function name body => exact .null

/-- No member is read twice. -/
theorem keyed_ofJson_toJson (value : Value) : (ofJson value.toJson).Keyed := by
  induction value using induct with
  | null => exact .null
  | bool value => exact .bool value
  | number value =>
      rw [toJson]
      split
      · exact .number value
      · exact .null
  | string value => exact .string value
  | array items ih =>
      rw [toJson, ofJson, itemsToJson_eq, itemsOfJson_eq, List.map_map]
      exact .array (List.forall_mem_map.mpr ih)
  | object members ih =>
      rw [toJson, ofJson, membersOfJson_eq]
      refine .object ?_ (List.forall_mem_map.mpr fun entry among => ?_)
      · rw [List.map_map]
        exact (ordered_membersToJson members).imp ne_of_lt
      · rcases mem_membersToJson among with ⟨member, inside, rfl⟩
        exact ih member inside
  | function name body => exact .null

/-- The document of what was read is the one that it was read from. -/
theorem toJson_ofJson_toJson (value : Value) : (ofJson value.toJson).toJson = value.toJson := by
  induction value using induct with
  | null | bool | string | function => rfl
  | number value =>
      rw [toJson]
      split
      next finite => rw [ofJson, toJson, if_pos finite]
      next => rfl
  | array items ih =>
      rw [toJson, ofJson, toJson, itemsToJson_eq, itemsOfJson_eq, itemsToJson_eq, List.map_map,
        List.map_map]
      exact congrArg Json.array (List.map_congr_left ih)
  | object members ih =>
      rw [toJson, ofJson, toJson]
      refine congrArg Json.object ?_
      refine membersToJson_membersOfJson (ordered_membersToJson members) fun entry among => ?_
      rcases mem_membersToJson among with ⟨member, inside, rfl⟩
      exact ih member inside

/-! ## Equality of values -/

theorem same_self_of_isFinite {number : Binary64} (finite : number.isFinite = true) :
    number.same number = true := by
  have notNaN : number.isNaN = false := by
    refine decide_eq_false fun nan => ?_
    exact (of_decide_eq_true finite) nan.1
  rw [Binary64.same, notNaN]
  simp

theorem sameItems_of_zip {others : List Value} (length : items.length = others.length)
    (all : ∀ pair ∈ items.zip others, same pair.1 pair.2 = true) :
    sameItems items others = true := by
  induction items generalizing others with
  | nil =>
      cases others with
      | nil => rfl
      | cons => cases length
  | cons item rest ih =>
      cases others with
      | nil => cases length
      | cons other others =>
          rw [sameItems, all (item, other) List.mem_cons_self,
            ih (Nat.succ.inj length) fun pair inside => all pair (.tail _ inside)]
          rfl

theorem sameMembers_of_mem (all : ∀ member ∈ members, ∃ other,
    member? member.1 others = some other ∧ same member.2 other = true) :
    sameMembers members others = true := by
  induction members with
  | nil => rfl
  | cons member rest ih =>
      rcases all member List.mem_cons_self with ⟨other, found, equal⟩
      rw [sameMembers, found, ih fun member inside => all member (.tail _ inside)]
      simp only [equal, Bool.and_true]

/-- Two maps with the same keys are of one length. -/
theorem length_eq_of_keys (distinct : (members.map Prod.fst).Nodup)
    (distinct' : (others.map Prod.fst).Nodup)
    (keys : ∀ key, (member? key members).isSome = (member? key others).isSome) :
    members.length = others.length := by
  have perm : (members.map Prod.fst).Perm (others.map Prod.fst) :=
    (List.perm_ext_iff_of_nodup distinct distinct').mpr fun key => by
      rw [← isSome_member?, ← isSome_member?, keys key]
  simpa only [List.length_map] using perm.length_eq

/-- Values that are alike are equal, if their objects are maps and one of them is plain. -/
theorem Alike.same {other : Value} (alike : Alike value other) (keyed : value.Keyed)
    (keyed' : other.Keyed) (isPlain : other.IsPlain) : value.same other = true := by
  induction alike with
  | null => rfl
  | bool | string => exact decide_eq_true rfl
  | number value =>
      cases isPlain with
      | number finite => exact same_self_of_isFinite finite
  | array length all ih =>
      cases keyed with | array keyed => ?_
      cases keyed' with | array keyed' => ?_
      cases isPlain with | array isPlain => ?_
      refine sameItems_of_zip length fun pair inside => ?_
      have both := List.of_mem_zip inside
      exact ih pair inside (keyed _ both.1) (keyed' _ both.2) (isPlain _ both.2)
  | object keys all ih =>
      -- both are maps with the same keys, so a member of one stands in the other too
      cases keyed with | object distinct keyed => ?_
      cases keyed' with | object distinct' keyed' => ?_
      cases isPlain with | object isPlain => ?_
      rw [Value.same, length_eq_of_keys distinct distinct' keys, decide_eq_true rfl, Bool.true_and]
      refine sameMembers_of_mem fun member inside => ?_
      have here := member?_of_mem distinct inside
      obtain ⟨other, there⟩ := Option.isSome_iff_exists.mp
        ((keys member.1).symm.trans (Option.isSome_of_eq_some here))
      have inside' := mem_of_member? there
      exact ⟨other, there, ih member.1 member.2 other here there (keyed _ inside)
        (keyed' _ inside') (isPlain _ inside')⟩
  | function => cases isPlain

/-! ## Values survive JSON -/

/-- A value that goes through JSON comes back with null in the place of its functions and of its
numbers that are not finite, at any depth; its objects are the same maps, and no key of theirs
occurs twice.  So what is plain comes back as it was, and the document of what came back is the
document it came from. -/
theorem survives_json (value : Value) :
    Alike (ofJson value.toJson) value.plain ∧ (ofJson value.toJson).Keyed ∧
      (value.Keyed → (ofJson value.toJson).same value.plain = true) ∧
      (value.IsPlain → Alike (ofJson value.toJson) value ∧
        (value.Keyed → (ofJson value.toJson).same value = true)) ∧
      (ofJson value.toJson).toJson = value.toJson := by
  have alike := alike_ofJson_toJson value
  have back := keyed_ofJson_toJson value
  have equal : value.Keyed → (ofJson value.toJson).same value.plain = true := fun keyed =>
    alike.same back keyed.plain (isPlain_plain value)
  refine ⟨alike, back, equal, fun isPlain => ?_, toJson_ofJson_toJson value⟩
  rw [isPlain.plain_eq] at alike equal
  exact ⟨alike, equal⟩

/-- An object with members that are out of order and with a function and an infinite number
inside of an array. -/
def mixed : Value :=
  object [("rest", array [number ⟨0x7FF0000000000000⟩,
    object [("main", function "main" 0), ("debug", bool true)]]), ("name", string "x")]

theorem mixed_survives_json :
    mixed.Keyed ∧ (ofJson mixed.toJson).same mixed.plain = true ∧ mixed.plain.IsPlain ∧
      (ofJson mixed.plain.toJson).same mixed.plain = true := by
  have inner : (object [("main", function "main" 0), ("debug", bool true)]).Keyed :=
    .object (by decide) (List.forall_mem_cons.mpr ⟨.function _ _,
      List.forall_mem_singleton.mpr (.bool true)⟩)
  have keyed : mixed.Keyed :=
    .object (by decide) (List.forall_mem_cons.mpr
      ⟨.array (List.forall_mem_cons.mpr ⟨.number _, List.forall_mem_singleton.mpr inner⟩),
        List.forall_mem_singleton.mpr (.string "x")⟩)
  have isPlain := isPlain_plain mixed
  exact ⟨keyed, (survives_json mixed).2.2.1 keyed, isPlain,
    ((survives_json mixed.plain).2.2.2.1 isPlain).2 keyed.plain⟩

example : ofJson mixed.toJson =
    object [("name", string "x"), ("rest", array [null,
      object [("debug", bool true), ("main", null)]])] := by
  rfl

end Value

end ScriptHost
