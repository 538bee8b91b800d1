import Mathlib.Tactic.Common
import TreeDump.Proofs.Walk.Tree

/-!
# Level order

A walk takes the directories of a tree level by level. This module lists them by the names that lead
to them, shows that the walk is the list of their visits, and that the list holds every directory
that a walk visits, in ascending order: by the number of names first, and by the first name in which
two directories differ otherwise.
-/

namespace TreeDump

namespace Walk

/-! ### The order of directories -/

/-- Does the directory of the names `a` come before that of the names `b`? -/
def LevelBefore (a b : List Text) : Prop :=
  a.length < b.length ∨ a.length = b.length ∧ List.Lex Text.Before a b

lemma lex_append {a b : List Text} (length : a.length = b.length)
    (h : List.Lex Text.Before a b) (s t : List Text) :
    List.Lex Text.Before (a ++ s) (b ++ t) := by
  induction h with
  | nil => simp at length
  | rel first => exact .rel first
  | cons _ ih => exact .cons (ih (by simpa using length))

lemma lex_concat {x y : Text} (names : List Text) (h : Text.Before x y) :
    List.Lex Text.Before (names ++ [x]) (names ++ [y]) := by
  induction names with
  | nil => exact .rel h
  | cons name names ih => exact .cons ih

lemma LevelBefore.ne {a b : List Text} (h : LevelBefore a b) : a ≠ b := by
  rintro rfl
  rcases h with h | ⟨-, h⟩
  · exact absurd h (Nat.lt_irrefl _)
  · induction a with
    | nil => cases h
    | cons name names ih =>
      cases h with
      | rel first => exact first.2 rfl
      | cons rest => exact ih rest

/-! ### Levels of names -/

/-- The directories that are `depth` names away from the root, when `goOn` tells the subdirectories
of each directory. -/
def level (goOn : List Text → List Text) : Nat → List (List Text)
  | 0 => [[]]
  | depth + 1 =>
    (level goOn depth).flatMap fun names => (goOn names).map fun name => names ++ [name]

variable {goOn : List Text → List Text}

lemma length_of_mem_level {depth : Nat} {names : List Text} (h : names ∈ level goOn depth) :
    names.length = depth := by
  induction depth generalizing names with
  | zero => simpa [level] using h
  | succ depth ih =>
    simp only [level, List.mem_flatMap, List.mem_map] at h
    obtain ⟨above, habove, name, -, rfl⟩ := h
    simp [ih habove]

lemma pairwise_level (ascending : ∀ names, (goOn names).Pairwise Text.Before) (depth : Nat) :
    (level goOn depth).Pairwise (List.Lex Text.Before) := by
  induction depth with
  | zero => exact List.pairwise_singleton _ _
  | succ depth ih =>
    apply List.pairwise_flatMap.mpr
    constructor
    · intro names _
      exact List.pairwise_map.mpr ((ascending names).imp (lex_concat names))
    · apply ih.imp_of_mem
      intro a b ha hb hab x hx y hy
      obtain ⟨name, -, rfl⟩ := List.mem_map.mp hx
      obtain ⟨other, -, rfl⟩ := List.mem_map.mp hy
      have length := (length_of_mem_level ha).trans (length_of_mem_level hb).symm
      exact lex_append length hab _ _

/-- One level below the last that has a directory there is none. -/
lemma level_eq_nil {depth : Nat} (h : level goOn depth = []) (more : Nat) :
    level goOn (depth + more) = [] := by
  induction more with
  | zero => exact h
  | succ more ih => simp [level, ih]

/-- What is done for the members that are kept. -/
lemma flatMap_filter {α β : Type} (keep : α → Bool) (f : α → List β) (l : List α) :
    (l.filter keep).flatMap f = l.flatMap fun a => if keep a then f a else [] := by
  induction l with
  | nil => rfl
  | cons a l ih => cases h : keep a <;> simp [h, ih]

/-- A tree whose directories hold what is kept of a larger tree has on each level what is kept of
the level. -/
lemma level_filter {goOn' : List Text → List Text} {keep : List Text → Bool}
    (root : keep [] = true)
    (step : ∀ names, ((goOn names).filter fun name => keep (names ++ [name]))
      = if keep names then goOn' names else []) (depth : Nat) :
    level goOn' depth = (level goOn depth).filter keep := by
  induction depth with
  | zero => simp [level, root]
  | succ depth ih =>
    rw [level, level, ih, flatMap_filter, List.filter_flatMap]
    congr 1
    funext names
    rw [List.filter_map, Function.comp_def, step]
    split <;> rfl

/-- Trees whose directories go on in the same way have the same levels. -/
lemma level_congr {goOn' : List Text → List Text} {depth : Nat}
    (same : ∀ depth, ∀ names ∈ level goOn depth, goOn names = goOn' names) :
    level goOn depth = level goOn' depth := by
  induction depth with
  | zero => rfl
  | succ depth ih =>
    rw [level, level, ← ih]
    apply List.flatMap_congr
    intro names mem
    rw [same depth names mem]

/-- The children of a level are the next level. -/
lemma children_level {visit : Item → Visit} {item : List Text → Item}
    (children : ∀ names, (visit (item names)).children
      = (goOn names).map fun name => item (names ++ [name])) (depth : Nat) :
    (((level goOn depth).map item).map visit).flatMap Visit.children
      = (level goOn (depth + 1)).map item := by
  simp [level, List.flatMap_map, List.map_flatMap, children, Function.comp_def]

/-- The visits of some levels are the visits of the directories on them. -/
lemma levels_eq_map {visit : Item → Visit} {item : List Text → Item}
    (children : ∀ names, (visit (item names)).children
      = (goOn names).map fun name => item (names ++ [name])) (count depth : Nat) :
    levels visit count ((level goOn depth).map item)
      = ((List.range' depth count).flatMap (level goOn)).map fun names => visit (item names) := by
  induction count generalizing depth with
  | zero => simp [levels]
  | succ count ih =>
    by_cases empty : level goOn depth = []
    · have none : (List.range' depth (count + 1)).flatMap (level goOn) = [] := by
        simp only [List.flatMap_eq_nil_iff, List.mem_range'_1]
        intro deeper hdeeper
        have := level_eq_nil empty (deeper - depth)
        rwa [Nat.add_sub_cancel' hdeeper.1] at this
      simp [levels, empty, none]
    · have nonempty : ((level goOn depth).map item).isEmpty = false := by simpa using empty
      rw [levels, nonempty, List.range'_succ, List.flatMap_cons, List.map_append]
      simp only [Bool.false_eq_true, if_false]
      rw [children_level children, ih, List.map_map, Function.comp_def]

end Walk

/-! ### The directories of a walk -/

namespace Source

variable (source : Source) (config : Configuration) (root : Text)

/-- The directories that a walk visits, in level order. -/
def visited : List (List Text) :=
  (List.range (FileSystem.pathLimit + 1)).flatMap
    (Walk.level fun names => source.wantedDirectories config (Walk.pathTo root names))

variable {source config root}

lemma mem_level {depth : Nat} {names : List Text} :
    names ∈ Walk.level (fun names => source.wantedDirectories config (Walk.pathTo root names)) depth
      ↔ names.length = depth ∧ source.Visits config root names := by
  induction depth generalizing names with
  | zero =>
    simp only [Walk.level, List.mem_singleton, List.length_eq_zero_iff]
    constructor
    · rintro rfl
      exact ⟨rfl, visits_nil⟩
    · exact And.left
  | succ depth ih =>
    simp only [Walk.level, List.mem_flatMap, List.mem_map, mem_wantedDirectories, ih]
    constructor
    · rintro ⟨above, ⟨length, habove⟩, name, ⟨listed, kept⟩, rfl⟩
      exact ⟨by simp [length], visits_concat.mpr ⟨habove, listed, kept⟩⟩
    · rintro ⟨length, h⟩
      rcases List.eq_nil_or_concat' names with rfl | ⟨above, name, rfl⟩
      · simp at length
      · rw [visits_concat] at h
        exact ⟨above, ⟨by simpa using length, h.1⟩, name, h.2, rfl⟩

lemma isAbsolute_of_isName {name : Text} (proper : FileSystem.isName name = true) :
    Path.isAbsolute name = false := by
  obtain ⟨nonempty, noSlash⟩ := FileSystem.isName_iff.mp proper
  cases name with
  | nil => exact absurd rfl nonempty
  | cons c rest =>
    rw [List.mem_cons, not_or] at noSlash
    simpa [Path.isAbsolute] using Ne.symm noSlash.1

/-- Every name makes the path of a directory longer. -/
lemma length_lt_join {name : Text} (proper : FileSystem.isName name = true) (directory : Text) :
    directory.length < (Path.join directory name).length := by
  have positive : 0 < name.length := List.length_pos_iff.mpr (FileSystem.isName_iff.mp proper).1
  rw [Path.join, isAbsolute_of_isName proper]
  simp only [Bool.false_eq_true, if_false]
  split <;> simp only [List.length_append, List.length_cons] <;> omega

lemma HasDirectory.length_le {names : List Text} (h : source.HasDirectory root names) :
    names.length ≤ (Walk.pathTo root names).length := by
  induction h with
  | root => simp
  | @down names name _ listed ih =>
    have longer := length_lt_join (isName_of_lists listed) (Walk.pathTo root names)
    rw [Walk.pathTo_concat, List.length_append, List.length_singleton]
    omega

/-- The bound on the levels cuts nothing off: directories further down would have paths that are
too long to be listed. -/
lemma Visits.length_le {names : List Text} (h : source.Visits config root names) :
    names.length ≤ FileSystem.pathLimit := by
  rcases List.eq_nil_or_concat' names with rfl | ⟨above, name, rfl⟩
  · simp
  · have ⟨habove, listed, _⟩ := visits_concat.mp h
    have short := length_lt_of_lists listed
    have long := habove.1.length_le
    simp only [List.length_append, List.length_singleton]
    omega

lemma mem_visited {names : List Text} :
    names ∈ source.visited config root ↔ source.Visits config root names := by
  simp only [visited, List.mem_flatMap, List.mem_range, mem_level]
  constructor
  · rintro ⟨_, _, _, h⟩
    exact h
  · intro h
    exact ⟨names.length, Nat.lt_succ_of_le h.length_le, rfl, h⟩

lemma pairwise_visited : (source.visited config root).Pairwise Walk.LevelBefore := by
  apply List.pairwise_flatMap.mpr
  constructor
  · intro depth _
    apply (Walk.pairwise_level (fun names => pairwise_wantedDirectories _) depth).imp_of_mem
    intro a b ha hb hab
    right
    exact ⟨(Walk.length_of_mem_level ha).trans (Walk.length_of_mem_level hb).symm, hab⟩
  · apply List.pairwise_lt_range.imp
    intro depth deeper hlt a ha b hb
    left
    rw [Walk.length_of_mem_level ha, Walk.length_of_mem_level hb]
    exact hlt

lemma nodup_visited : (source.visited config root).Nodup :=
  pairwise_visited.imp Walk.LevelBefore.ne

/-! ### Visits -/

/-- What a walk shows of the file at a path, unless the file cannot be read. -/
def contentFor (source : Source) (mode : Mode) (path : Text) : Option Text :=
  if mode = .fullDump then (source.read path).content.toOption else some []

lemma visitFile_events (mode : Mode) (item : Walk.Item) (name : Text) :
    (Walk.visitFile source mode item name).events
      = ((source.contentFor mode (Path.join item.directory name)).map fun content =>
          Event.file (item.fileRecord name content)).toList := by
  by_cases h : mode = .fullDump
  · simp only [Walk.visitFile, contentFor, h, if_true]
    cases (source.read (Path.join item.directory name)).content <;> rfl
  · simp [Walk.visitFile, contentFor, h]

lemma visitFile_children (mode : Mode) (item : Walk.Item) (name : Text) :
    (Walk.visitFile source mode item name).children = [] := by
  by_cases h : mode = .fullDump
  · simp only [Walk.visitFile, h, if_true]
    cases (source.read (Path.join item.directory name)).content <;> rfl
  · simp [Walk.visitFile, h]

lemma visitDirectory_events (item : Walk.Item) (name : Text) :
    (Walk.visitDirectory config item name).events
      = if config.ignores name then [] else [.directory ⟨item.place, name⟩] := by
  rw [Walk.visitDirectory]
  split <;> rfl

lemma visitDirectory_children (item : Walk.Item) (name : Text) :
    (Walk.visitDirectory config item name).children
      = if config.ignores name then [] else [item.child name] := by
  rw [Walk.visitDirectory]
  split <;> rfl

/-- What is done for the directories that are not ignored is done for those that are wanted. -/
lemma flatMap_unless_ignored {α : Type} (f : Text → α) (names : List Text) :
    (names.flatMap fun name => if config.ignores name then [] else [f name])
      = (names.filter fun name => !config.ignores name).map f := by
  rw [List.map_eq_flatMap, Walk.flatMap_filter]
  congr 1
  funext name
  cases config.ignores name <;> rfl

/-- The events of a visit: those of the files that are wanted, then those of the subdirectories. -/
lemma visit_events (mode : Mode) (item : Walk.Item) :
    (Walk.visit source config mode item).events
      = (if mode = .structureDirectoriesOnly then [] else
          (source.wantedFiles config item.directory).filterMap fun name =>
            (source.contentFor mode (Path.join item.directory name)).map fun content =>
              Event.file (item.fileRecord name content))
        ++ (source.wantedDirectories config item.directory).map fun name =>
            .directory ⟨item.place, name⟩ := by
  simp only [Walk.visit, Walk.Visit.events, wantedFiles, wantedDirectories, entries]
  cases source.list item.directory with
  | error e => simp [Listing.ofEntries, Text.sort]
  | ok entries =>
    simp only [List.flatMap_append, List.flatMap_map, visitFile_events, visitDirectory_events,
      flatMap_unless_ignored, List.filterMap_eq_flatMap_toList]
    split <;> rfl

lemma mem_visit_events {mode : Mode} {item : Walk.Item} {event : Event} :
    event ∈ (Walk.visit source config mode item).events ↔
      (mode ≠ .structureDirectoriesOnly ∧ ∃ name ∈ source.wantedFiles config item.directory,
        ∃ content, source.contentFor mode (Path.join item.directory name) = some content ∧
          event = .file (item.fileRecord name content)) ∨
      ∃ name ∈ source.wantedDirectories config item.directory,
        event = .directory ⟨item.place, name⟩ := by
  rw [visit_events, List.mem_append]
  refine or_congr ?_ ?_
  · by_cases h : mode = .structureDirectoriesOnly
    · simp [h]
    · simp only [h, if_false, List.mem_filterMap, Option.map_eq_some_iff, ne_eq, not_false_eq_true,
        true_and, eq_comm (a := event)]
  · simp only [List.mem_map, eq_comm (a := event)]

lemma visit_children (mode : Mode) (item : Walk.Item) :
    (Walk.visit source config mode item).children
      = (source.wantedDirectories config item.directory).map item.child := by
  simp only [Walk.visit, Walk.Visit.children, wantedDirectories, entries]
  cases source.list item.directory with
  | error e => simp [Listing.ofEntries, Text.sort]
  | ok entries =>
    simp only [List.flatMap_append, List.flatMap_map, visitFile_children, visitDirectory_children,
      flatMap_unless_ignored]
    simp

lemma visit_itemAt_children (mode : Mode) (names : List Text) :
    (Walk.visit source config mode (Walk.itemAt root names)).children
      = (source.wantedDirectories config (Walk.pathTo root names)).map fun name =>
          Walk.itemAt root (names ++ [name]) := by
  simp only [visit_children, Walk.itemAt_concat]
  rfl

lemma visit_item (source : Source) (config : Configuration) (mode : Mode) (item : Walk.Item) :
    (Walk.visit source config mode item).item = item := by
  rw [Walk.visit]
  split <;> rfl

/-- A walk visits the directories in level order. -/
lemma walk_eq_map (mode : Mode) :
    source.walk config mode root
      = (source.visited config root).map fun names =>
          Walk.visit source config mode (Walk.itemAt root names) := by
  have h := Walk.levels_eq_map (@visit_itemAt_children source config root mode)
    (FileSystem.pathLimit + 1) 0
  rw [← List.range_eq_range'] at h
  exact h

lemma events_walk (mode : Mode) :
    Walk.events (source.walk config mode root)
      = (source.visited config root).flatMap fun names =>
          (Walk.visit source config mode (Walk.itemAt root names)).events := by
  rw [walk_eq_map, Walk.events, List.flatMap_map]

end Source

end TreeDump
