import Mathlib.Data.List.Induction
import Mathlib.Tactic.Common
import TreeDump.Proofs.Path.Plain
import TreeDump.Proofs.Walk.Alike

/-!
# The order of listings

A listing gives the entries of a directory in an order of its own. Since a walk asks for each path
once, that order is a function of the path; whatever it is, the walk shows the same events, and the
artifact is the same text.
-/

namespace TreeDump

namespace Walk

variable {root : Text} {names others : List Text}

/-! ### Different directories have different paths -/

/-- What stands before the names of a path that starts at the root. -/
def base (root : Text) : Text :=
  if root = [] ∨ root.getLast? = some '/' then root else root ++ ['/']

lemma getLast?_displayPath (nonempty : names ≠ [])
    (proper : ∀ name ∈ names, FileSystem.isName name = true) :
    ∃ c, (displayPath names).getLast? = some c ∧ c ≠ '/' := by
  obtain h | ⟨above, name, rfl⟩ := List.eq_nil_or_concat' names
  · exact absurd h nonempty
  obtain ⟨named, noSlash⟩ := FileSystem.isName_iff.mp (proper name (by simp))
  obtain h | ⟨start, c, rfl⟩ := List.eq_nil_or_concat' name
  · exact absurd h named
  refine ⟨c, ?_, ?_⟩
  · rw [← placeOf_append, ← List.append_assoc, List.getLast?_concat]
  · rintro rfl
    simp at noSlash

lemma pathTo_eq_base_append (nonempty : names ≠ [])
    (proper : ∀ name ∈ names, FileSystem.isName name = true) :
    pathTo root names = base root ++ displayPath names := by
  induction names using List.reverseRecOn with
  | nil => exact absurd rfl nonempty
  | append_singleton names name ih =>
    have relative := Source.isAbsolute_of_isName (proper name (by simp))
    rw [pathTo_concat, Path.join, relative, if_neg Bool.false_ne_true]
    by_cases first : names = []
    · subst first
      by_cases closed : root = [] ∨ root.getLast? = some '/'
      · simp [pathTo, base, displayPath, closed]
      · simp [pathTo, base, displayPath, closed]
    · have properAbove : ∀ other ∈ names, FileSystem.isName other = true :=
        fun other mem => proper other (List.mem_append_left _ mem)
      obtain ⟨c, last, noSlash⟩ := getLast?_displayPath first properAbove
      have last' : (base root ++ displayPath names).getLast? = some c := by
        simp [List.getLast?_append, last]
      rw [ih first properAbove, last', if_neg, displayPath, displayPath,
        Text.intercalate_append first (List.cons_ne_nil name []), List.intercalate_singleton]
      · simp
      · rintro (empty | slash)
        · simp [empty] at last'
        · exact noSlash (Option.some.inj slash)

/-- The path of the root is shorter than all others. -/
lemma pathTo_ne_root (root : Text) (nonempty : names ≠ [])
    (proper : ∀ name ∈ names, FileSystem.isName name = true) : pathTo root names ≠ root := by
  obtain ⟨c, last, -⟩ := getLast?_displayPath nonempty proper
  have shown : 0 < (displayPath names).length := by
    cases h : displayPath names with
    | nil => simp [h] at last
    | cons c rest => simp
  have long : root.length ≤ (base root).length := by
    rw [base]
    split <;> simp
  intro same
  have length := congrArg List.length same
  rw [pathTo_eq_base_append nonempty proper, List.length_append] at length
  omega

/-- Proper names can be read off the path that they make. -/
lemma pathTo_injective (proper : ∀ name ∈ names, FileSystem.isName name = true)
    (properOthers : ∀ name ∈ others, FileSystem.isName name = true)
    (h : pathTo root names = pathTo root others) : names = others := by
  by_cases hn : names = []
  · subst hn
    by_contra ho
    exact pathTo_ne_root root (Ne.symm ho) properOthers h.symm
  · by_cases ho : others = []
    · subst ho
      exact absurd h (pathTo_ne_root root hn proper)
    · rw [pathTo_eq_base_append hn proper, pathTo_eq_base_append ho properOthers] at h
      exact displayPath_injective proper properOthers (List.append_cancel_left h)

end Walk

namespace Source

variable {source : Source} {config : Configuration} {root : Text}

/-- No path is listed twice. -/
lemma nodup_listed (source : Source) (config : Configuration) (mode : Mode) (root : Text) :
    ((source.walk config mode root).map fun visit => visit.item.directory).Nodup := by
  rw [walk_eq_map, List.map_map]
  apply nodup_visited.map_on
  intro names mem others memOthers same
  simp only [Function.comp_apply, visit_item, Walk.itemAt_directory] at same
  exact Walk.pathTo_injective (mem_visited.mp mem).1.isName (mem_visited.mp memOthers).1.isName same

/-! ### Listings in another order -/

variable {order : Text → List DirectoryEntry → List DirectoryEntry}

lemma exists_perm_of_map_order (permutes : ∀ path entries, (order path entries).Perm entries)
    {listing : Except FileError (List DirectoryEntry)} {path : Text}
    {entries : List DirectoryEntry} (h : listing.map (order path) = .ok entries) :
    ∃ old, listing = .ok old ∧ entries.Perm old := by
  cases listing with
  | error e => simp [Except.map] at h
  | ok old =>
    simp only [Except.map, Except.ok.injEq] at h
    exact ⟨old, rfl, h ▸ permutes path old⟩

/-- The source with the entries of each directory in another order. -/
def reorder (source : Source) (order : Text → List DirectoryEntry → List DirectoryEntry)
    (permutes : ∀ path entries, (order path entries).Perm entries) : Source where
  list path := (source.list path).map (order path)
  read := source.read
  isName_of_list h entry mem := by
    obtain ⟨old, listed, perm⟩ := exists_perm_of_map_order permutes h
    exact source.isName_of_list listed entry (perm.mem_iff.mp mem)
  nodup_of_list h := by
    obtain ⟨old, listed, perm⟩ := exists_perm_of_map_order permutes h
    exact (perm.map _).nodup_iff.mpr (source.nodup_of_list listed)
  list_long path h := by
    obtain ⟨e, refused⟩ := source.list_long path h
    exact ⟨e, by simp [refused, Except.map]⟩

variable {permutes : ∀ path entries, (order path entries).Perm entries}

lemma entries_reorder (path : Text) :
    ((source.reorder order permutes).entries path).Perm (source.entries path) := by
  simp only [entries, reorder]
  cases source.list path with
  | error e => exact .nil
  | ok entries => exact permutes path entries

lemma lists_reorder {path name : Text} {kind : EntryKind} :
    (source.reorder order permutes).Lists path name kind ↔ source.Lists path name kind := by
  rw [lists_iff, lists_iff, (entries_reorder path).mem_iff]

lemma alike_reorder :
    Alike config source root (source.reorder order permutes) root where
  directories _ _ _ _ := lists_reorder.symm
  files _ _ _ _ := lists_reorder.symm
  contents _ _ _ _ _ := rfl

/-- The artifact of what a source has under a root. -/
def artifact (source : Source) (config : Configuration) (mode : Mode) (cleanup : Bool)
    (root : Text) : Except FileError Artifact :=
  if '\x00' ∈ root then .error .nullByte
  else .ok (Artifact.ofVisits mode cleanup (source.walk config mode root))

end Source

namespace FileSystem

lemma artifact_eq_source (fs : FileSystem) (render : NotebookRenderer) (config : Configuration)
    (mode : Mode) (cleanup : Bool) (root : Text) :
    fs.artifact render config mode cleanup root
      = (fs.source render).artifact config mode cleanup root := by
  rw [artifact, walk, Source.artifact]
  split <;> rfl

/-- The order in which directories are listed does not matter. Each path is listed once, so that an
order for each path is an order for each listing; whatever the orders are, the events and the text
of the artifact are the same. -/
theorem artifact_reorder {order : Text → List DirectoryEntry → List DirectoryEntry}
    (permutes : ∀ path entries, (order path entries).Perm entries) (fs : FileSystem)
    (render : NotebookRenderer) (config : Configuration) (mode : Mode) (cleanup : Bool)
    (root : Text) :
    let reordered := (fs.source render).reorder order permutes
    ((reordered.walk config mode root).map fun visit => visit.item.directory).Nodup ∧
      Walk.events (reordered.walk config mode root)
        = Walk.events ((fs.source render).walk config mode root) ∧
      (reordered.artifact config mode cleanup root).map Artifact.text
        = (fs.artifact render config mode cleanup root).map Artifact.text := by
  intro reordered
  have events : Walk.events (reordered.walk config mode root)
      = Walk.events ((fs.source render).walk config mode root) :=
    (Source.alike_reorder.events mode).symm
  refine ⟨reordered.nodup_listed config mode root, events, ?_⟩
  rw [artifact_eq_source, Source.artifact, Source.artifact]
  split
  · rfl
  · simp only [Except.map, Artifact.ofVisits, events]

/-- The sample tree, with its root listed backwards and the other directories as they are. -/
theorem artifact_reorder_sampleTree :
    let order : Text → List DirectoryEntry → List DirectoryEntry := fun path entries =>
      if path = "/r".toList then entries.reverse else entries
    ∃ permutes : ∀ path entries, (order path entries).Perm entries,
      let reordered := (sampleTree.source .ok).reorder order permutes
      ((reordered.walk Configuration.defaults .fullDump "/r".toList).map fun visit =>
          visit.item.directory).Nodup ∧
        Walk.events (reordered.walk Configuration.defaults .fullDump "/r".toList)
          = Walk.events
              ((sampleTree.source .ok).walk Configuration.defaults .fullDump "/r".toList) ∧
        (reordered.artifact Configuration.defaults .fullDump true "/r".toList).map Artifact.text
          = (sampleTree.artifact .ok Configuration.defaults .fullDump true "/r".toList).map
              Artifact.text := by
  intro order
  have permutes : ∀ path entries, (order path entries).Perm entries := by
    intro path entries
    simp only [order]
    split
    · exact entries.reverse_perm
    · exact .refl entries
  exact ⟨permutes, artifact_reorder permutes sampleTree .ok _ _ _ _⟩

end FileSystem

end TreeDump
