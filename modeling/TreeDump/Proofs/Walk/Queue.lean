import Mathlib.Tactic.Common
import TreeDump.Proofs.Walk.LevelOrder

/-!
# The queue of a walk

A walk by levels is a walk with a queue: the first directory of the queue is visited and its
children are put at the end, until none is left. The directories that are taken from the queue are
those that it holds at the start and those that are put into it, in that order, and each is taken
after the visit that put it there.
-/

namespace TreeDump

namespace Walk

variable {visit : Item → Visit} {queue : List Item} {visits : List Visit}

/-- Taking the first item of the queue, visiting it and putting its children at the end, again and
again, empties the queue with these visits. -/
inductive Drains (visit : Item → Visit) : List Item → List Visit → Prop
  | empty : Drains visit [] []
  | take {item : Item} {queue : List Item} {visits : List Visit}
      (rest : Drains visit (queue ++ (visit item).children) visits) :
      Drains visit (item :: queue) (visit item :: visits)

/-! ### What is taken from the queue -/

/-- What is taken is what the queue holds at the start, and then what the visits put into it. -/
lemma Drains.items_eq (own : ∀ item, (visit item).item = item) (h : Drains visit queue visits) :
    visits.map Visit.item = queue ++ visits.flatMap Visit.children := by
  induction h with
  | empty => rfl
  | take _ ih => simp [own, ih]

/-- Every child is taken after the visit that put it into the queue. -/
lemma Drains.child_mem_later (own : ∀ item, (visit item).item = item)
    (h : Drains visit queue visits) {before later : List Visit} {parent : Visit}
    (split : visits = before ++ parent :: later) {child : Item} (mem : child ∈ parent.children) :
    child ∈ later.map Visit.item := by
  induction h generalizing before with
  | empty => simp at split
  | @take item queue visits rest ih =>
    cases before with
    | nil =>
      obtain ⟨rfl, rfl⟩ := List.cons_eq_cons.mp split
      rw [rest.items_eq own]
      simp [mem]
    | cons first before => exact ih (List.cons_eq_cons.mp split).2

/-! ### Levels -/

/-- The items at the front of a queue are visited before their children. -/
lemma Drains.visit_front (items later : List Item)
    (h : Drains visit (later ++ items.flatMap fun item => (visit item).children) visits) :
    Drains visit (items ++ later) (items.map visit ++ visits) := by
  induction items generalizing later with
  | nil => simpa using h
  | cons item items ih =>
    have rest : Drains visit (items ++ (later ++ (visit item).children))
        (items.map visit ++ visits) := by
      apply ih
      simpa [List.append_assoc] using h
    rw [← List.append_assoc] at rest
    exact .take rest

/-- Going through the levels of a tree, as many as it has, empties a queue of the first of them. -/
lemma drains_levels {item : List Text → Item} {goOn : List Text → List Text}
    (children : ∀ names, (visit (item names)).children
      = (goOn names).map fun name => item (names ++ [name])) (count depth : Nat)
    (enough : level goOn (depth + count) = []) :
    Drains visit ((level goOn depth).map item)
      (levels visit count ((level goOn depth).map item)) := by
  induction count generalizing depth with
  | zero =>
    rw [Nat.add_zero] at enough
    rw [enough]
    exact .empty
  | succ count ih =>
    rw [levels]
    split
    next none =>
      rw [List.isEmpty_iff.mp none]
      exact .empty
    next =>
      have deeper := ih (depth + 1) (by rwa [Nat.add_right_comm, Nat.add_assoc])
      rw [← children_level children, List.flatMap_map] at deeper
      have whole := Drains.visit_front _ [] deeper
      rwa [List.append_nil, ← List.flatMap_map] at whole

end Walk

namespace Source

variable {source : Source} {config : Configuration} {root : Text}

/-- A walk empties a queue that holds the root at the start. -/
lemma drains_walk (source : Source) (config : Configuration) (mode : Mode) (root : Text) :
    Walk.Drains (Walk.visit source config mode) [Walk.itemAt root []]
      (source.walk config mode root) := by
  refine Walk.drains_levels (visit_itemAt_children mode) (FileSystem.pathLimit + 1) 0 ?_
  apply List.eq_nil_iff_forall_not_mem.mpr
  intro names mem
  obtain ⟨length, visits⟩ := mem_level.mp mem
  have := visits.length_le
  omega

end Source

end TreeDump
