import ScriptHost.Journal

/-!
# Lawful histories

What a statement says about the order of events is here a law about single events:
each event may depend on what came before it, and a history is lawful if each of
its events was allowed when it came.  A history grows at its end, so its laws are
kept by showing that the next event is allowed.
-/

namespace ScriptHost

variable {allowed : List Event → Event → Prop} {history news : List Event} {event : Event}

theorem mem_of_mem_concat {other : Event} (member : event ∈ history ++ [other])
    (different : event ≠ other) : event ∈ history := by
  rcases List.mem_append.mp member with old | new
  · exact old
  · exact absurd (List.mem_singleton.mp new) different

/-- Each event of a history was allowed by what came before it. -/
def Lawful (allowed : List Event → Event → Prop) (history : List Event) : Prop :=
  ∀ before event after, history = before ++ event :: after → allowed before event

namespace Lawful

theorem nil : Lawful allowed [] := by
  intro before event after split
  exact absurd split.symm (List.append_ne_nil_of_right_ne_nil before (List.cons_ne_nil _ _))

theorem concat (lawful : Lawful allowed history) (next : allowed history event) :
    Lawful allowed (history ++ [event]) := by
  intro before other after split
  rcases List.eq_nil_or_concat after with rfl | ⟨init, last, rfl⟩
  · have ends := List.append_inj' split rfl
    rw [← ends.1, ← List.singleton_inj.mp ends.2]
    exact next
  · have regrouped : history ++ [event] = (before ++ other :: init) ++ [last] := by
      rw [split, List.append_assoc, List.cons_append, List.concat_eq_append]
    exact lawful before other init (List.append_inj' regrouped rfl).1

theorem of_append (lawful : Lawful allowed (history ++ news)) : Lawful allowed history := by
  intro before event after split
  apply lawful before event (after ++ news)
  rw [split, List.append_assoc, List.cons_append]

theorem next (lawful : Lawful allowed (history ++ event :: news)) : allowed history event :=
  lawful history event news rfl

/-- Each event of a lawful history was allowed by some of the others. -/
theorem allowed_of_mem (lawful : Lawful allowed history) (member : event ∈ history) :
    ∃ before, (∀ other ∈ before, other ∈ history) ∧ allowed before event := by
  rcases List.append_of_mem member with ⟨before, after, split⟩
  refine ⟨before, fun other earlier => ?_, lawful before event after split⟩
  rw [split]
  exact List.mem_append_left _ earlier

/-- Of two events of a lawful history one was allowed after the other, unless they are the
same. -/
theorem ordered {other : Event} (lawful : Lawful allowed history) (member : event ∈ history)
    (member' : other ∈ history) :
    event = other ∨ (∃ before, event ∈ before ∧ allowed before other) ∨
      ∃ before, other ∈ before ∧ allowed before event := by
  rcases List.append_of_mem member with ⟨before, after, split⟩
  rw [split] at member'
  rcases List.mem_append.mp member' with earlier | rest
  · exact .inr (.inr ⟨before, earlier, lawful before event after split⟩)
  · rcases List.mem_cons.mp rest with same | later
    · exact .inl same.symm
    · rcases List.append_of_mem later with ⟨between, rest, split'⟩
      have whole : history = (before ++ event :: between) ++ other :: rest := by
        rw [split, split', List.append_assoc, List.cons_append]
      exact .inr (.inl ⟨_, List.mem_append_right before List.mem_cons_self, lawful _ _ rest whole⟩)

/-- News that every history allows. -/
theorem append_free (lawful : Lawful allowed history)
    (free : ∀ event ∈ news, ∀ before, allowed before event) :
    Lawful allowed (history ++ news) := by
  induction news generalizing history with
  | nil =>
      rw [List.append_nil]
      exact lawful
  | cons event rest ih =>
      have grown := lawful.concat (free event List.mem_cons_self history)
      have whole := ih grown fun other member => free other (List.mem_cons_of_mem event member)
      rwa [List.append_assoc] at whole

/-- What holds of the empty history and is kept by each allowed event holds of every
lawful history. -/
@[elab_as_elim]
theorem induct {P : List Event → Prop} (lawful : Lawful allowed history) (empty : P [])
    (step : ∀ before event, Lawful allowed before → allowed before event → P before →
      P (before ++ [event])) : P history := by
  generalize measured : history.length = n
  induction n generalizing history with
  | zero =>
      rw [List.eq_nil_of_length_eq_zero measured]
      exact empty
  | succ n ih =>
      rcases List.eq_nil_or_concat history with rfl | ⟨before, event, rfl⟩
      · exact empty
      · rw [List.concat_eq_append] at lawful measured ⊢
        have shorter : before.length = n := by
          rw [List.length_append] at measured
          exact Nat.succ.inj measured
        exact step before event lawful.of_append lawful.next (ih lawful.of_append shorter)

end Lawful

end ScriptHost
