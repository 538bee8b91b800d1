import Mathlib.Data.List.Nodup
import Mathlib.Tactic.Common
import TreeDump.Walk.Basic

/-!
# Directory trees

A source is a tree of directories once a root is chosen. Its directories are reached by the names
that lead down from the root, each listed as a subdirectory by the directory before it; links count
as what they lead to. A walk visits those directories none of whose names is ignored, and spells
each of them in two ways: as a path that can be listed and as a place for the eye.
-/

namespace TreeDump

/-! ### Spelling -/

namespace Walk

/-- The path of the directory that some names lead to. -/
def pathTo (root : Text) (names : List Text) : Text :=
  names.foldl Path.join root

/-- The place of the directory that some names lead to. -/
def placeOf (names : List Text) : Text :=
  names.flatMap (· ++ ['/'])

/-- The names that lead to something, with slashes between them. -/
def displayPath (names : List Text) : Text :=
  ['/'].intercalate names

/-- The directory that some names lead to, as a directory to visit. -/
def itemAt (root : Text) (names : List Text) : Item :=
  ⟨pathTo root names, placeOf names⟩

@[simp] lemma itemAt_directory (root : Text) (names : List Text) :
    (itemAt root names).directory = pathTo root names := rfl

@[simp] lemma itemAt_place (root : Text) (names : List Text) :
    (itemAt root names).place = placeOf names := rfl

@[simp] lemma pathTo_concat (root : Text) (names : List Text) (name : Text) :
    pathTo root (names ++ [name]) = Path.join (pathTo root names) name := by
  simp [pathTo]

@[simp] lemma placeOf_concat (names : List Text) (name : Text) :
    placeOf (names ++ [name]) = placeOf names ++ name ++ ['/'] := by
  simp [placeOf]

lemma itemAt_concat (root : Text) (names : List Text) (name : Text) :
    itemAt root (names ++ [name]) = (itemAt root names).child name := by
  simp [itemAt, Item.child]

/-- The place of a directory and the name of an entry make the path of the entry. -/
lemma placeOf_append (names : List Text) (name : Text) :
    placeOf names ++ name = displayPath (names ++ [name]) := by
  induction names with
  | nil => simp [placeOf, displayPath]
  | cons first rest ih =>
    have cons : displayPath (first :: (rest ++ [name]))
        = first ++ '/' :: displayPath (rest ++ [name]) := by
      have nonempty : rest ++ [name] ≠ [] := by simp
      obtain ⟨second, others, h⟩ := List.exists_cons_of_ne_nil nonempty
      simp [displayPath, h, List.intercalate_cons_cons]
    rw [List.cons_append, cons, ← ih]
    simp [placeOf]

lemma splitOn_displayPath {names : List Text} (nonempty : names ≠ [])
    (proper : ∀ name ∈ names, FileSystem.isName name = true) :
    (displayPath names).splitOn '/' = names := by
  apply List.splitOn_intercalate _ _ nonempty
  intro name h
  exact (FileSystem.isName_iff.mp (proper name h)).2

/-- Proper names can be read off their display path. -/
lemma displayPath_injective {names others : List Text}
    (proper : ∀ name ∈ names, FileSystem.isName name = true)
    (properOthers : ∀ name ∈ others, FileSystem.isName name = true)
    (h : displayPath names = displayPath others) : names = others := by
  -- the display path of no names at all is that of one empty name, which is not proper
  have empty : ∀ all : List Text, (∀ name ∈ all, FileSystem.isName name = true) →
      displayPath all = [] → all = [] := by
    intro all properAll hall
    by_contra nonempty
    have split := splitOn_displayPath nonempty properAll
    rw [hall] at split
    have : [] ∈ all := by
      rw [← split]
      simp
    exact absurd (properAll _ this) (by decide)
  by_cases hn : names = []
  · subst hn
    exact (empty others properOthers h.symm).symm
  · by_cases ho : others = []
    · subst ho
      exact empty names proper h
    · rw [← splitOn_displayPath hn proper, ← splitOn_displayPath ho properOthers, h]

end Walk

/-! ### Directories and their entries -/

namespace Source

variable (source : Source) (config : Configuration) (root : Text)

/-- An entry of this name and kind is listed in the directory at a path. -/
def Lists (path name : Text) (kind : EntryKind) : Prop :=
  ∃ entries, source.list path = .ok entries ∧ ⟨name, .ok kind⟩ ∈ entries

/-- The names lead from directory to directory. -/
inductive HasDirectory : List Text → Prop
  | root : HasDirectory []
  | down {names : List Text} {name : Text} (above : HasDirectory names)
      (listed : source.Lists (Walk.pathTo root names) name .directory) :
      HasDirectory (names ++ [name])

/-- The names lead to a directory, and none of them is ignored. -/
def Visits (names : List Text) : Prop :=
  source.HasDirectory root names ∧ ∀ name ∈ names, config.ignores name = false

/-- The entries of a directory; there are none when it cannot be listed. -/
def entries (path : Text) : List DirectoryEntry :=
  match source.list path with
  | .ok entries => entries
  | .error _ => []

/-- The names of the files that a walk takes from a directory. -/
def wantedFiles (path : Text) : List Text :=
  (Listing.ofEntries path (source.entries path)).files.filter config.allows

/-- The names of the subdirectories that a walk goes on to. -/
def wantedDirectories (path : Text) : List Text :=
  (Listing.ofEntries path (source.entries path)).directories.filter fun name =>
    !config.ignores name

variable {source config root}

lemma lists_iff {path name : Text} {kind : EntryKind} :
    source.Lists path name kind ↔ (⟨name, .ok kind⟩ : DirectoryEntry) ∈ source.entries path := by
  rw [Lists, entries]
  cases source.list path <;> simp

lemma nodup_names (path : Text) : ((source.entries path).map DirectoryEntry.name).Nodup := by
  rw [entries]
  cases h : source.list path with
  | ok entries => exact source.nodup_of_list h
  | error e => exact List.nodup_nil

lemma isName_of_lists {path name : Text} {kind : EntryKind} (h : source.Lists path name kind) :
    FileSystem.isName name = true := by
  obtain ⟨entries, listed, mem⟩ := h
  exact source.isName_of_list listed _ mem

/-- An entry has one kind. -/
lemma kind_eq_of_lists {path name : Text} {kind kind' : EntryKind}
    (h : source.Lists path name kind) (h' : source.Lists path name kind') : kind = kind' := by
  rw [lists_iff] at h h'
  have same := List.inj_on_of_nodup_map (nodup_names path) h h' rfl
  exact Except.ok.inj (DirectoryEntry.mk.inj same).2

lemma length_lt_of_lists {path name : Text} {kind : EntryKind} (h : source.Lists path name kind) :
    path.length < FileSystem.pathLimit := by
  obtain ⟨entries, listed, -⟩ := h
  by_contra long
  obtain ⟨e, he⟩ := source.list_long path (Nat.le_of_not_lt long)
  rw [listed] at he
  cases he

lemma HasDirectory.isName {names : List Text} (h : source.HasDirectory root names) :
    ∀ name ∈ names, FileSystem.isName name = true := by
  induction h with
  | root => simp
  | down _ listed ih =>
    intro name hname
    rcases List.mem_append.mp hname with hname | hname
    · exact ih name hname
    · rw [List.mem_singleton.mp hname]
      exact isName_of_lists listed

@[simp] lemma visits_nil : source.Visits config root [] :=
  ⟨.root, by simp⟩

lemma hasDirectory_concat {names : List Text} {name : Text} :
    source.HasDirectory root (names ++ [name]) ↔
      source.HasDirectory root names ∧
        source.Lists (Walk.pathTo root names) name .directory := by
  constructor
  · intro h
    generalize hall : names ++ [name] = all at h
    cases h with
    | root => simp at hall
    | down above listed =>
      obtain ⟨rfl, hname⟩ := List.append_inj' hall rfl
      cases hname
      exact ⟨above, listed⟩
  · rintro ⟨above, listed⟩
    exact .down above listed

lemma visits_concat {names : List Text} {name : Text} :
    source.Visits config root (names ++ [name]) ↔
      source.Visits config root names ∧
        source.Lists (Walk.pathTo root names) name .directory ∧ config.ignores name = false := by
  rw [Visits, Visits, hasDirectory_concat]
  constructor
  · rintro ⟨⟨above, listed⟩, kept⟩
    exact ⟨⟨above, fun n hn => kept n (List.mem_append_left _ hn)⟩, listed, kept name (by simp)⟩
  · rintro ⟨⟨above, kept⟩, listed, keptName⟩
    refine ⟨⟨above, listed⟩, ?_⟩
    intro n hn
    rcases List.mem_append.mp hn with hn | hn
    · exact kept n hn
    · rw [List.mem_singleton.mp hn]
      exact keptName

/-- A list of directories that holds the root, and with each directory the directories in it, holds
all directories. -/
lemma HasDirectory.mem_of_closed {tree : List (List Text)} (root_mem : [] ∈ tree)
    (closed : ∀ names ∈ tree, ∀ entry ∈ source.entries (Walk.pathTo root names),
      entry.kind.toOption = some .directory → names ++ [entry.name] ∈ tree)
    {names : List Text} (h : source.HasDirectory root names) : names ∈ tree := by
  induction h with
  | root => exact root_mem
  | down _ listed ih => exact closed _ ih _ (lists_iff.mp listed) rfl

/-! ### What a walk takes from a directory -/

lemma mem_filterMap_nameIf {entries : List DirectoryEntry} {kind : EntryKind} {name : Text} :
    name ∈ entries.filterMap (·.nameIf? kind) ↔
      (⟨name, .ok kind⟩ : DirectoryEntry) ∈ entries := by
  rw [List.mem_filterMap]
  constructor
  · rintro ⟨⟨n, k⟩, mem, h⟩
    cases k with
    | error e => simp [DirectoryEntry.nameIf?] at h
    | ok k =>
      simp only [DirectoryEntry.nameIf?, Option.ite_none_right_eq_some, Option.some.injEq] at h
      obtain ⟨rfl, rfl⟩ := h
      exact mem
  · intro mem
    exact ⟨_, mem, by simp [DirectoryEntry.nameIf?]⟩

lemma mem_wantedFiles {path name : Text} :
    name ∈ source.wantedFiles config path ↔
      source.Lists path name .file ∧ config.allows name = true := by
  simp only [wantedFiles, Listing.ofEntries, List.mem_filter, Text.mem_sort,
    mem_filterMap_nameIf, lists_iff]

lemma mem_wantedDirectories {path name : Text} :
    name ∈ source.wantedDirectories config path ↔
      source.Lists path name .directory ∧ config.ignores name = false := by
  simp only [wantedDirectories, Listing.ofEntries, List.mem_filter, Text.mem_sort,
    mem_filterMap_nameIf, lists_iff, Bool.not_eq_true']

lemma sublist_filterMap_nameIf (entries : List DirectoryEntry) (kind : EntryKind) :
    (entries.filterMap (·.nameIf? kind)).Sublist (entries.map DirectoryEntry.name) := by
  induction entries with
  | nil => simp
  | cons entry entries ih =>
    cases h : entry.nameIf? kind with
    | none =>
      rw [List.filterMap_cons_none h]
      exact ih.cons _
    | some name =>
      have same : name = entry.name := by
        rw [DirectoryEntry.nameIf?] at h
        split at h
        · split at h <;> simp_all
        · cases h
      rw [List.filterMap_cons_some h, List.map_cons, same]
      exact ih.cons_cons _

lemma pairwise_sort_nameIf (path : Text) (kind : EntryKind) :
    (Text.sort ((source.entries path).filterMap (·.nameIf? kind))).Pairwise Text.Before :=
  Text.pairwise_before_sort ((sublist_filterMap_nameIf _ kind).nodup (nodup_names path))

lemma pairwise_wantedFiles (path : Text) :
    (source.wantedFiles config path).Pairwise Text.Before :=
  (pairwise_sort_nameIf path .file).filter _

lemma pairwise_wantedDirectories (path : Text) :
    (source.wantedDirectories config path).Pairwise Text.Before :=
  (pairwise_sort_nameIf path .directory).filter _

end Source

end TreeDump
