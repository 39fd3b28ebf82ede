import Mathlib.Data.Set.Insert
import Mathlib.Logic.Relation

/-!
# Depth-first order

Nodes are known by their keys and lead to further nodes.  A traversal takes the
nodes of a list in order.  It passes over a node whose key has been seen and over a
node that leads nowhere; of any other it notes the key, goes on with what that node
leads to, and only then with the rest of the list.  The keys that it notes, in the
order in which it notes them, are the depth-first preorder.
-/

namespace ScriptHost

variable {ν κ : Type} {key : ν → κ} {next? : ν → Option (List ν)} {seen : Set κ}
  {todo rest : List ν} {found more : List κ} {node : ν}

/-- With some keys seen before, a traversal of the list notes these keys in this order. -/
inductive Visits (key : ν → κ) (next? : ν → Option (List ν)) :
    Set κ → List ν → List κ → Prop
  | nil {seen : Set κ} : Visits key next? seen [] []
  | seen {seen : Set κ} {node : ν} {rest : List ν} {found : List κ} (known : key node ∈ seen)
      (later : Visits key next? seen rest found) : Visits key next? seen (node :: rest) found
  | missing {seen : Set κ} {node : ν} {rest : List ν} {found : List κ}
      (nowhere : next? node = none) (later : Visits key next? seen rest found) :
      Visits key next? seen (node :: rest) found
  | visit {seen : Set κ} {node : ν} {rest children : List ν} {inner outer : List κ}
      (new : key node ∉ seen) (leads : next? node = some children)
      (inside : Visits key next? (insert (key node) seen) children inner)
      (later : Visits key next? (insert (key node) seen ∪ {k | k ∈ inner}) rest outer) :
      Visits key next? seen (node :: rest) (key node :: inner ++ outer)

/-- One node leads to another, unless its key was seen before. -/
def Leads (key : ν → κ) (next? : ν → Option (List ν)) (seen : Set κ) (node child : ν) : Prop :=
  key node ∉ seen ∧ ∃ children, next? node = some children ∧ child ∈ children

namespace Visits

/-- A list may be traversed in two parts. -/
theorem append {front : List ν} (first : Visits key next? seen front found)
    (second : Visits key next? (seen ∪ {k | k ∈ found}) rest more) :
    Visits key next? seen (front ++ rest) (found ++ more) := by
  induction first with
  | nil => simpa using second
  | seen known _ ih => exact .seen known (ih second)
  | missing nowhere _ ih => exact .missing nowhere (ih second)
  | @visit seen node rest children inner outer new leads inside _ _ ih =>
      rw [List.cons_append, List.append_assoc]
      refine .visit new leads inside (ih ?_)
      convert second using 1
      ext k
      simp only [Set.mem_union, Set.mem_insert_iff, Set.mem_ofPred_eq, List.cons_append,
        List.mem_cons, List.mem_append]
      grind

/-- The order is determined by the graph. -/
theorem unique (first : Visits key next? seen todo found)
    (second : Visits key next? seen todo more) : found = more := by
  induction first generalizing more with
  | nil => cases second; rfl
  | seen known _ ih =>
      cases second with
      | seen _ later => exact ih later
      | missing _ later => exact ih later
      | visit new => exact absurd known new
  | missing nowhere _ ih =>
      cases second with
      | seen _ later => exact ih later
      | missing _ later => exact ih later
      | visit _ leads => exact absurd (nowhere.symm.trans leads) (Option.some_ne_none _).symm
  | visit new leads _ _ ihInside ihLater =>
      cases second with
      | seen known => exact absurd known new
      | missing nowhere => exact absurd (nowhere.symm.trans leads) (Option.some_ne_none _).symm
      | visit _ leads' inside later =>
          obtain rfl := Option.some.inj (leads.symm.trans leads')
          obtain rfl := ihInside inside
          rw [ihLater later]

/-- What is noted has not been seen before. -/
theorem not_mem_seen (visits : Visits key next? seen todo found) :
    ∀ k ∈ found, k ∉ seen := by
  induction visits with
  | nil => simp
  | seen _ _ ih => exact ih
  | missing _ _ ih => exact ih
  | visit new _ _ _ ihInside ihLater =>
      intro k member known
      rcases List.mem_append.mp member with inside | later
      · rcases List.mem_cons.mp inside with rfl | inside
        · exact new known
        · exact ihInside k inside (.inr known)
      · exact ihLater k later (.inl (.inr known))

/-- No key is noted twice. -/
theorem nodup (visits : Visits key next? seen todo found) : found.Nodup := by
  induction visits with
  | nil => exact List.nodup_nil
  | seen _ _ ih => exact ih
  | missing _ _ ih => exact ih
  | visit _ _ inside later ihInside ihLater =>
      rw [List.cons_append, List.nodup_cons, List.nodup_append]
      refine ⟨?_, ihInside, ihLater, ?_⟩
      · intro member
        rcases List.mem_append.mp member with mine | other
        · exact inside.not_mem_seen _ mine (.inl rfl)
        · exact later.not_mem_seen _ other (.inl (.inl rfl))
      · rintro k mine _ other rfl
        exact later.not_mem_seen k other (.inr mine)

/-- Every key that is noted is that of a node to which the list leads without passing a key
that was seen before. -/
theorem reached (visits : Visits key next? seen todo found) :
    ∀ k ∈ found, ∃ root ∈ todo, ∃ node, Relation.ReflTransGen (Leads key next? seen) root node ∧
      key node = k ∧ ∃ children, next? node = some children := by
  induction visits with
  | nil => simp
  | seen _ _ ih =>
      intro k member
      obtain ⟨root, among, reach⟩ := ih k member
      exact ⟨root, List.mem_cons_of_mem _ among, reach⟩
  | missing _ _ ih =>
      intro k member
      obtain ⟨root, among, reach⟩ := ih k member
      exact ⟨root, List.mem_cons_of_mem _ among, reach⟩
  | @visit seen node rest children inner outer new leads _ _ ihInside ihLater =>
      -- What leads on with more keys seen leads on with fewer.
      have fewer {more : Set κ} (less : seen ⊆ more) {a b : ν}
          (path : Relation.ReflTransGen (Leads key next? more) a b) :
          Relation.ReflTransGen (Leads key next? seen) a b :=
        path.lift id fun _ _ step => ⟨fun known => step.1 (less known), step.2⟩
      intro k member
      rcases List.mem_append.mp member with inside | later
      · rcases List.mem_cons.mp inside with rfl | inside
        · exact ⟨node, List.mem_cons_self, node, .refl, rfl, children, leads⟩
        · obtain ⟨root, among, last, path, same⟩ := ihInside k inside
          refine ⟨node, List.mem_cons_self, last, .head ⟨new, children, leads, among⟩ ?_, same⟩
          exact fewer (Set.subset_insert _ _) path
      · obtain ⟨root, among, last, path, same⟩ := ihLater k later
        refine ⟨root, List.mem_cons_of_mem _ among, last, fewer ?_ path, same⟩
        exact fun k known => .inl (.inr known)

/-- Each node of the list leads nowhere, or its key was seen or noted; and so it is with the
nodes to which a noted key leads. -/
theorem closed (visits : Visits key next? seen todo found) :
    (∀ root ∈ todo, next? root = none ∨ key root ∈ seen ∨ key root ∈ found) ∧
      ∀ k ∈ found, ∃ node children, key node = k ∧ next? node = some children ∧
        ∀ child ∈ children, next? child = none ∨ key child ∈ seen ∨ key child ∈ found := by
  induction visits with
  | nil => simp
  | seen known _ ih =>
      refine ⟨?_, ih.2⟩
      rintro root among
      rcases List.mem_cons.mp among with rfl | among
      · exact .inr (.inl known)
      · exact ih.1 root among
  | missing nowhere _ ih =>
      refine ⟨?_, ih.2⟩
      rintro root among
      rcases List.mem_cons.mp among with rfl | among
      · exact .inl nowhere
      · exact ih.1 root among
  | @visit seen node rest children inner outer new leads _ _ ihInside ihLater =>
      have inside (child : ν)
          (settled : next? child = none ∨ key child ∈ insert (key node) seen ∨ key child ∈ inner) :
          next? child = none ∨ key child ∈ seen ∨ key child ∈ key node :: inner ++ outer := by
        simp only [Set.mem_insert_iff, List.cons_append, List.mem_cons, List.mem_append] at settled ⊢
        grind
      have later (child : ν) (settled : next? child = none ∨
          key child ∈ insert (key node) seen ∪ {k | k ∈ inner} ∨ key child ∈ outer) :
          next? child = none ∨ key child ∈ seen ∨ key child ∈ key node :: inner ++ outer := by
        simp only [Set.mem_union, Set.mem_insert_iff, Set.mem_ofPred_eq, List.cons_append,
          List.mem_cons, List.mem_append] at settled ⊢
        grind
      constructor
      · intro root among
        rcases List.mem_cons.mp among with rfl | among
        · exact .inr (.inr List.mem_cons_self)
        · exact later root (ihLater.1 root among)
      · intro k member
        rcases List.mem_append.mp member with mine | other
        · rcases List.mem_cons.mp mine with rfl | mine
          · exact ⟨node, children, rfl, leads, fun child among =>
              inside child (ihInside.1 child among)⟩
          · obtain ⟨last, leaves, same, goes, settled⟩ := ihInside.2 k mine
            exact ⟨last, leaves, same, goes, fun child among => inside child (settled child among)⟩
        · obtain ⟨last, leaves, same, goes, settled⟩ := ihLater.2 k other
          exact ⟨last, leaves, same, goes, fun child among => later child (settled child among)⟩

end Visits

end ScriptHost
