import Mathlib.Data.Set.Finite.List
import Mathlib.Logic.Function.Iterate
import TreeDump.Proofs.Walk.Account
import TreeDump.Proofs.Walk.Modes

/-!
# How a walk ends

A turn of the queue takes one directory and puts its subdirectories at the end. There are as many
turns as directories: one for the root, and one for each directory that is shown. What lies in a
directory is shown after the directory itself, since a directory gets into the queue only by being
shown.
-/

namespace TreeDump

/-- The place of the directory that holds what an event shows. -/
def Event.place : Event → Text
  | .file record => record.place
  | .directory record => record.place

/-- The place of what lies in the directory that a record shows. -/
def DirectoryRecord.inside (record : DirectoryRecord) : Text :=
  record.place ++ record.name ++ ['/']

namespace Walk

variable {visit : Item → Visit} {queue : List Item} {visits : List Visit}

/-! ### Turns -/

/-- One turn of the queue: the first item is taken, and its children are put at the end. An empty
queue stays empty. -/
def turn (visit : Item → Visit) : List Item → List Item
  | [] => []
  | item :: queue => queue ++ (visit item).children

/-- A queue is empty as soon as there have been as many turns as visits. -/
lemma Drains.iterate_turn_eq_nil_iff (h : Drains visit queue visits) (turns : ℕ) :
    (turn visit)^[turns] queue = [] ↔ visits.length ≤ turns := by
  induction h generalizing turns with
  | empty =>
    rw [Function.iterate_fixed (rfl : turn visit [] = [])]
    simp
  | take _ ih =>
    cases turns with
    | zero => simp
    | succ turns => simp [turn, ih]

/-- A queue is emptied in one way only. -/
lemma Drains.unique {visits' : List Visit} (h : Drains visit queue visits)
    (h' : Drains visit queue visits') : visits = visits' := by
  induction h generalizing visits' with
  | empty =>
    cases h' with
    | empty => rfl
  | take _ ih =>
    cases h' with
    | take rest' => rw [ih rest']

/-- There is a visit for each item that the queue holds at the start or that is put into it. -/
lemma Drains.length_eq (own : ∀ item, (visit item).item = item) (h : Drains visit queue visits) :
    visits.length = queue.length + (visits.flatMap Visit.children).length := by
  have items := congrArg List.length (h.items_eq own)
  rwa [List.length_map, List.length_append] at items

/-! ### What has been shown before -/

/-- Is this the root, or the place of what lies in a directory that has been shown? -/
def Announced (shown : List Event) (place : Text) : Prop :=
  place ≠ [] → ∃ record, .directory record ∈ shown ∧ record.inside = place

lemma Announced.mono {shown shown' : List Event} {place : Text} (h : Announced shown place)
    (more : shown ⊆ shown') : Announced shown' place := by
  intro below
  obtain ⟨record, mem, inside⟩ := h below
  exact ⟨record, more mem, inside⟩

/-- A visit shows what lies in its directory, the subdirectories that it puts into the queue among
it. -/
structure ShowsChildren (visit : Item → Visit) : Prop where
  place_eq : ∀ item, ∀ event ∈ (visit item).events, event.place = item.place
  announced : ∀ item, ∀ child ∈ (visit item).children, Announced (visit item).events child.place

/-- After a turn of the queue, all that it holds has been shown, if that was so before. -/
lemma ShowsChildren.turn (children : ShowsChildren visit) {shown : List Event} {item : Item}
    (queued : ∀ next ∈ item :: queue, Announced shown next.place) :
    ∀ next ∈ queue ++ (visit item).children,
      Announced (shown ++ (visit item).events) next.place := by
  intro next mem
  rcases List.mem_append.mp mem with mem | mem
  · exact (queued next (List.mem_cons_of_mem _ mem)).mono (List.subset_append_left _ _)
  · exact (children.announced item next mem).mono (List.subset_append_right _ _)

/-- When all that the queue holds has been shown, what lies in a directory is shown after it. -/
lemma ShowsChildren.announced_before (children : ShowsChildren visit) {shown : List Event}
    (h : Drains visit queue visits) (queued : ∀ item ∈ queue, Announced shown item.place)
    {before later : List Event} {event : Event} (split : events visits = before ++ event :: later) :
    Announced (shown ++ before) event.place := by
  induction h generalizing shown before with
  | empty => simp [events] at split
  | @take item queue visits _ ih =>
    have after := @ih _ (children.turn queued)
    rw [events, List.flatMap_cons, List.append_eq_append_iff] at split
    rcases split with ⟨before, rfl, split⟩ | ⟨rest, here, split⟩
    · -- the event is shown by a later visit
      rw [← List.append_assoc]
      exact after split
    · cases rest with
      | nil =>
        rw [List.append_nil] at here
        have next := @after [] split.symm
        rwa [List.append_nil, here] at next
      | cons first rest =>
        obtain ⟨rfl, -⟩ := List.cons.inj split
        rw [children.place_eq item event (by simp [here])]
        exact (queued item List.mem_cons_self).mono (List.subset_append_left _ _)

end Walk

namespace Source

variable {source : Source} {config : Configuration} {root : Text}

lemma showsChildren_visit (source : Source) (config : Configuration) (mode : Mode) :
    Walk.ShowsChildren (Walk.visit source config mode) where
  place_eq item event mem := by
    rcases mem_visit_events.mp mem with ⟨-, name, -, content, -, rfl⟩ | ⟨name, -, rfl⟩ <;> rfl
  announced item child mem := by
    rw [visit_children] at mem
    obtain ⟨name, wanted, rfl⟩ := List.mem_map.mp mem
    intro _
    exact ⟨⟨item.place, name⟩, mem_visit_events.mpr (.inr ⟨name, wanted, rfl⟩), rfl⟩

/-- A walk puts as many directories into its queue as it shows. -/
lemma length_children_walk (mode : Mode) :
    ((source.walk config mode root).flatMap Walk.Visit.children).length
      = ((Walk.events (source.walk config mode root)).filterMap Event.directory?).length := by
  rw [directoryRecords_walk, walk_eq_map]
  simp [List.flatMap_map, List.length_flatMap, visit_itemAt_children]

/-- A walk ends. There are finitely many directories to visit, and its queue, which holds the root
at the start, is emptied by the visits of the walk and by no others. It is empty after one turn for
the root and one for each directory that is shown, and not before. No path is listed twice. What
lies in a directory other than the root is shown after the directory. -/
theorem walk_ends (source : Source) (config : Configuration) (mode : Mode) (root : Text) :
    let visit := Walk.visit source config mode
    let visits := source.walk config mode root
    {names | source.Visits config root names}.Finite ∧
      (∀ run, Walk.Drains visit [⟨root, []⟩] run ↔ run = visits) ∧
      (∀ turns, (Walk.turn visit)^[turns] [⟨root, []⟩] = [] ↔
        1 + ((Walk.events visits).filterMap Event.directory?).length ≤ turns) ∧
      (visits.map fun visit => visit.item.directory).Nodup ∧
      ∀ before event later, Walk.events visits = before ++ event :: later → event.place ≠ [] →
        ∃ record, .directory record ∈ before ∧ record.inside = event.place := by
  intro visit visits
  have drains : Walk.Drains visit [⟨root, []⟩] visits := drains_walk source config mode root
  have length := drains.length_eq (visit_item source config mode)
  rw [length_children_walk, List.length_singleton] at length
  refine ⟨?_, fun run => ⟨fun other => other.unique drains, fun same => same ▸ drains⟩, ?_,
    source.nodup_listed config mode root, ?_⟩
  · simpa only [mem_visited] using List.finite_toSet (source.visited config root)
  · intro turns
    rw [← length]
    exact drains.iterate_turn_eq_nil_iff turns
  · intro before event later split
    -- at the start the queue holds the root alone, which is never shown
    have queued : ∀ item ∈ [Walk.itemAt root []], Walk.Announced [] item.place := by
      intro item mem below
      rw [List.mem_singleton.mp mem] at below
      exact absurd rfl below
    exact (showsChildren_visit source config mode).announced_before drains queued split

end Source

namespace FileSystem

/-- A directory in a directory in a directory. The innermost one cannot be listed. -/
def sampleChain : FileSystem where
  nodes := [("r", .directory), ("r/src", .directory), ("r/src/a.c", .file []),
    ("r/src/old", .directory)].foldl
      (fun nodes (path, node) => nodes.insert (Path.components path.toList) node) .empty
  workingDirectory := []
  denied := [(.reading, "/r/src/old".toList)]

/-- Three turns empty the queue, and the file is shown after the directory that holds it. -/
theorem walk_ends_sampleChain :
    let source := sampleChain.source .ok
    let visit := Walk.visit source sampleConfiguration .structureWithFiles
    (Walk.turn visit)^[3] [⟨"/r".toList, []⟩] = [] ∧
      (Walk.turn visit)^[2] [⟨"/r".toList, []⟩] ≠ [] ∧
      ∃ before event later,
        Walk.events (source.walk sampleConfiguration .structureWithFiles "/r".toList)
          = before ++ event :: later ∧
        event.place = "src/".toList ∧
        ∃ record, .directory record ∈ before ∧ record.inside = "src/".toList := by
  obtain ⟨-, -, turns, -, order⟩ := Source.walk_ends (sampleChain.source .ok)
    sampleConfiguration .structureWithFiles "/r".toList
  have split : Walk.events ((sampleChain.source .ok).walk sampleConfiguration .structureWithFiles
        "/r".toList)
      = [.directory ⟨[], "src".toList⟩] ++ .file ⟨"src/a.c".toList, [], "src/".toList, "a.c".toList⟩
        :: [.directory ⟨"src/".toList, "old".toList⟩] := by
    decide +kernel
  have empty := turns 3
  have busy := turns 2
  rw [split] at empty busy
  refine ⟨empty.mpr (by decide), fun early => ?_, _, _, _, split, rfl, ?_⟩
  · exact absurd (busy.mp early) (by decide)
  · exact order _ _ _ split (by decide)

end FileSystem

end TreeDump
