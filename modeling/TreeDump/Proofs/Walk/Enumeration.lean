import Mathlib.Data.List.Forall2
import Mathlib.Tactic.Common
import TreeDump.Proofs.Walk.LevelOrder

/-!
# What a walk enumerates

The events of a dump are an enumeration of a directory tree: each file that is wanted and can be
read, and each subdirectory that is wanted, comes exactly once, with the path that leads to it, and
their order is the level order of the directories that hold them.
-/

namespace TreeDump

/-- The path of what an event shows. -/
def Event.path : Event → Text
  | .file record => record.path
  | .directory record => record.place ++ record.name

namespace Walk

/-- An entry of a directory tree: the names that lead to its directory, its kind and its name. -/
structure Spot where
  directory : List Text
  kind : EntryKind
  name : Text

namespace Spot

variable (source : Source) (config : Configuration) (root : Text)

/-- Does a walk take the entry once it has come to its directory? -/
def Wanted (spot : Spot) : Prop :=
  source.Lists (pathTo root spot.directory) spot.name spot.kind ∧
    match spot.kind with
    | .file =>
      config.allows spot.name = true ∧
        ∃ content, (source.read (Path.join (pathTo root spot.directory) spot.name)).content
          = .ok content
    | .directory => config.ignores spot.name = false
    | .other => False

/-- Directories come in level order; in each of them the files come first, and names ascend. -/
def Before (a b : Spot) : Prop :=
  LevelBefore a.directory b.directory ∨
    a.directory = b.directory ∧
      (a.kind = .file ∧ b.kind = .directory ∨ a.kind = b.kind ∧ Text.Before a.name b.name)

/-- Does the event show the entry? It has the names of the entry with slashes between them for its
path, and the path without the last name for its place. -/
def Shows (spot : Spot) (event : Event) : Prop :=
  match spot.kind, event with
  | .file, .file record =>
    record.path = displayPath (spot.directory ++ [spot.name]) ∧
      record.place ++ record.name = record.path ∧ record.name = spot.name ∧
      (source.read (Path.join (pathTo root spot.directory) spot.name)).content = .ok record.content
  | .directory, .directory record =>
    record.place ++ record.name = displayPath (spot.directory ++ [spot.name]) ∧
      record.name = spot.name
  | _, _ => False

variable {source config root}

lemma path_eq_of_shows {spot : Spot} {event : Event} (h : spot.Shows source root event) :
    event.path = displayPath (spot.directory ++ [spot.name]) := by
  obtain ⟨directory, kind, name⟩ := spot
  cases kind <;> cases event <;> simp only [Shows] at h
  · exact h.1
  · exact h.1

lemma paths_eq_of_shows {spots : List Spot} {events : List Event}
    (h : List.Forall₂ (Shows source root) spots events) :
    events.map Event.path = spots.map fun spot => displayPath (spot.directory ++ [spot.name]) := by
  induction h with
  | nil => rfl
  | cons shown _ ih => rw [List.map_cons, List.map_cons, ih, path_eq_of_shows shown]

/-- Two entries of a tree of which one comes before the other have different paths. -/
lemma Before.displayPath_ne {a b : Spot} (h : a.Before b)
    (ha : source.Visits config root a.directory ∧ a.Wanted source config root)
    (hb : source.Visits config root b.directory ∧ b.Wanted source config root) :
    displayPath (a.directory ++ [a.name]) ≠ displayPath (b.directory ++ [b.name]) := by
  have proper : ∀ spot : Spot,
      source.Visits config root spot.directory ∧ spot.Wanted source config root →
      ∀ name ∈ spot.directory ++ [spot.name], FileSystem.isName name = true := by
    intro spot hspot name hname
    rcases List.mem_append.mp hname with hname | hname
    · exact hspot.1.1.isName name hname
    · rw [List.mem_singleton.mp hname]
      exact Source.isName_of_lists hspot.2.1
  intro same
  have names := displayPath_injective (proper a ha) (proper b hb) same
  obtain ⟨directory, name⟩ := List.append_inj' names rfl
  have name : a.name = b.name := by simpa using name
  rcases h with h | ⟨-, ⟨file, folder⟩ | ⟨-, h⟩⟩
  · exact h.ne directory
  · have kind := Source.kind_eq_of_lists (directory ▸ name ▸ ha.2.1) hb.2.1
    rw [file, folder] at kind
    cases kind
  · exact h.2 name

end Spot

end Walk

namespace Source

variable {source : Source} {config : Configuration} {root : Text}

/-! ### The entries of one directory -/

/-- Can the file be read? -/
def readable (source : Source) (path : Text) : Bool :=
  (source.contentFor .fullDump path).isSome

lemma contentFor_fullDump {path content : Text} :
    source.contentFor .fullDump path = some content ↔
      (source.read path).content = .ok content := by
  rw [contentFor, if_pos rfl]
  cases (source.read path).content <;> simp [Except.toOption]

lemma readable_iff {path : Text} :
    source.readable path = true ↔ ∃ content, (source.read path).content = .ok content := by
  simp only [readable, Option.isSome_iff_exists, contentFor_fullDump]

/-- The entries that a walk takes from a directory. -/
def spotsIn (source : Source) (config : Configuration) (root : Text) (names : List Text) :
    List Walk.Spot :=
  ((source.wantedFiles config (Walk.pathTo root names)).filter fun name =>
      source.readable (Path.join (Walk.pathTo root names) name)).map (⟨names, .file, ·⟩)
    ++ (source.wantedDirectories config (Walk.pathTo root names)).map (⟨names, .directory, ·⟩)

lemma mem_spotsIn {names : List Text} {spot : Walk.Spot} :
    spot ∈ source.spotsIn config root names ↔
      spot.directory = names ∧ spot.Wanted source config root := by
  obtain ⟨directory, kind, name⟩ := spot
  simp only [spotsIn, List.mem_append, List.mem_map, List.mem_filter, mem_wantedFiles,
    mem_wantedDirectories, readable_iff, Walk.Spot.Wanted, Walk.Spot.mk.injEq]
  constructor
  · rintro (⟨_, ⟨⟨listed, allowed⟩, read⟩, rfl, rfl, rfl⟩ | ⟨_, ⟨listed, kept⟩, rfl, rfl, rfl⟩)
    · exact ⟨rfl, listed, allowed, read⟩
    · exact ⟨rfl, listed, kept⟩
  · rintro ⟨rfl, listed, taken⟩
    cases kind with
    | file => exact .inl ⟨name, ⟨⟨listed, taken.1⟩, taken.2⟩, rfl, rfl, rfl⟩
    | directory => exact .inr ⟨name, ⟨listed, taken⟩, rfl, rfl, rfl⟩
    | other => exact taken.elim

lemma pairwise_spotsIn (names : List Text) :
    (source.spotsIn config root names).Pairwise Walk.Spot.Before := by
  refine List.pairwise_append.mpr ⟨?_, ?_, ?_⟩
  · apply List.pairwise_map.mpr
    apply ((pairwise_wantedFiles _).filter _).imp
    intro name other before
    exact .inr ⟨rfl, .inr ⟨rfl, before⟩⟩
  · apply List.pairwise_map.mpr
    apply (pairwise_wantedDirectories _).imp
    intro name other before
    exact .inr ⟨rfl, .inr ⟨rfl, before⟩⟩
  · intro a ha b hb
    obtain ⟨_, -, rfl⟩ := List.mem_map.mp ha
    obtain ⟨_, -, rfl⟩ := List.mem_map.mp hb
    exact .inr ⟨rfl, .inl ⟨rfl, rfl⟩⟩

lemma shows_spotsIn (names : List Text) :
    List.Forall₂ (Walk.Spot.Shows source root) (source.spotsIn config root names)
      (Walk.visit source config .fullDump (Walk.itemAt root names)).events := by
  rw [visit_events, spotsIn]
  refine List.rel_append ?_ ?_
  · simp only [Walk.itemAt]
    induction source.wantedFiles config (Walk.pathTo root names) with
    | nil => exact .nil
    | cons name rest ih =>
      cases h : source.contentFor .fullDump (Path.join (Walk.pathTo root names) name) with
      | none => simpa [readable, h] using ih
      | some content =>
        have shown : Walk.Spot.Shows source root ⟨names, .file, name⟩
            (.file ((Walk.itemAt root names).fileRecord name content)) :=
          ⟨Walk.placeOf_append names name, rfl, rfl, contentFor_fullDump.mp h⟩
        simpa [readable, h, Walk.itemAt] using And.intro shown ih
  · simp only [Walk.itemAt]
    induction source.wantedDirectories config (Walk.pathTo root names) with
    | nil => exact .nil
    | cons name rest ih =>
      exact .cons ⟨Walk.placeOf_append names name, rfl⟩ ih

/-! ### All entries -/

/-- The entries that a walk takes, in its order. -/
def spots (source : Source) (config : Configuration) (root : Text) : List Walk.Spot :=
  (source.visited config root).flatMap (source.spotsIn config root)

lemma mem_spots {spot : Walk.Spot} :
    spot ∈ source.spots config root ↔
      source.Visits config root spot.directory ∧ spot.Wanted source config root := by
  simp only [spots, List.mem_flatMap, mem_visited, mem_spotsIn]
  constructor
  · rintro ⟨_, visits, rfl, wanted⟩
    exact ⟨visits, wanted⟩
  · rintro ⟨visits, wanted⟩
    exact ⟨_, visits, rfl, wanted⟩

lemma pairwise_spots : (source.spots config root).Pairwise Walk.Spot.Before := by
  apply List.pairwise_flatMap.mpr
  constructor
  · intro names _
    exact pairwise_spotsIn names
  · apply pairwise_visited.imp
    intro names others before a ha b hb
    left
    rwa [(mem_spotsIn.mp ha).1, (mem_spotsIn.mp hb).1]

lemma shows_spots :
    List.Forall₂ (Walk.Spot.Shows source root) (source.spots config root)
      (Walk.events (source.walk config .fullDump root)) := by
  rw [events_walk, spots]
  induction source.visited config root with
  | nil => exact .nil
  | cons names rest ih => exact List.rel_append (shows_spotsIn names) ih

/-- A dump shows the entries that are wanted in the directories that are visited, each of them once
and in level order. -/
theorem walk_enumerates (source : Source) (config : Configuration) (root : Text) :
    ∃ spots : List Walk.Spot,
      (∀ spot, spot ∈ spots ↔
        source.Visits config root spot.directory ∧ spot.Wanted source config root) ∧
        spots.Pairwise Walk.Spot.Before ∧
        List.Forall₂ (Walk.Spot.Shows source root) spots
          (Walk.events (source.walk config .fullDump root)) ∧
        ((Walk.events (source.walk config .fullDump root)).map Event.path).Nodup := by
  refine ⟨source.spots config root, fun _ => mem_spots, pairwise_spots, shows_spots, ?_⟩
  rw [Walk.Spot.paths_eq_of_shows shows_spots]
  apply List.pairwise_map.mpr
  apply pairwise_spots.imp_of_mem
  intro a b ha hb before
  exact before.displayPath_ne (mem_spots.mp ha) (mem_spots.mp hb)

end Source

end TreeDump
