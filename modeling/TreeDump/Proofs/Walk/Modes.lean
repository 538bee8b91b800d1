import Mathlib.Tactic.Common
import TreeDump.Proofs.Walk.Enumeration

/-!
# The modes of a walk

The modes agree on the tree. They go on to the same directories in the same order; where files are
shown they are the same files, without their contents in an outline and without those that cannot be
read in a dump. No outline looks into a file.
-/

namespace TreeDump

namespace Event

/-- The names that lead to what an event shows. -/
def names (event : Event) : List Text :=
  Path.components event.path

/-- The event with nothing for the content of a file. -/
def withoutContent : Event → Event
  | .file record => .file { record with content := [] }
  | .directory record => .directory record

/-- Does the event show a directory, or a file that can be read? -/
def isReadable (source : Source) (root : Text) : Event → Bool
  | .file record => source.readable (Walk.pathTo root (Event.file record).names)
  | .directory _ => true

end Event

namespace Source

variable {source : Source} {config : Configuration} {root : Text}

/-! ### One directory -/

lemma directoryRecords_visit (mode : Mode) (item : Walk.Item) :
    (Walk.visit source config mode item).events.filterMap Event.directory?
      = (source.wantedDirectories config item.directory).map (⟨item.place, ·⟩) := by
  have noFile : ∀ names : List Text, (names.filterMap fun name =>
      (source.contentFor mode (Path.join item.directory name)).map fun content =>
        Event.file (item.fileRecord name content)).filterMap Event.directory? = [] := by
    intro names
    simp [List.filterMap_filterMap, Event.directory?, Option.bind_map, Function.comp_def]
  rw [visit_events, List.filterMap_append, List.filterMap_map]
  split <;> simp [noFile, Event.directory?, Function.comp_def]

lemma fileRecords_visit (item : Walk.Item) :
    (Walk.visit source config .structureDirectoriesOnly item).events.filterMap Event.file?
      = [] := by
  simp [visit_events, Event.file?]

/-- The names that lead to what a visit shows are those of the directory and one more. -/
lemma names_eq_of_lists {names : List Text} (visits : source.Visits config root names) {name : Text}
    {kind : EntryKind} (listed : source.Lists (Walk.pathTo root names) name kind) {event : Event}
    (h : event.path = Walk.placeOf names ++ name) : event.names = names ++ [name] := by
  rw [Event.names, h, Walk.placeOf_append]
  apply Walk.splitOn_displayPath (by simp)
  exact List.forall_mem_append.mpr ⟨visits.1.isName, by simpa using isName_of_lists listed⟩

/-- A dump of a directory, without the contents, is the outline of the directory without the files
that cannot be read. -/
lemma withoutContent_visit {names : List Text} (visits : source.Visits config root names) :
    (Walk.visit source config .fullDump (Walk.itemAt root names)).events.map Event.withoutContent
      = (Walk.visit source config .structureWithFiles (Walk.itemAt root names)).events.filter
          (Event.isReadable source root) := by
  simp only [visit_events, List.map_append, List.filter_append, reduceCtorEq, if_false,
    Walk.itemAt_directory]
  congr 1
  · rw [List.map_filterMap, List.filter_filterMap]
    apply List.filterMap_congr
    intro name wanted
    have readable : Event.isReadable source root
        (.file ((Walk.itemAt root names).fileRecord name []))
          = (source.contentFor .fullDump (Path.join (Walk.pathTo root names) name)).isSome := by
      rw [Event.isReadable, names_eq_of_lists visits (mem_wantedFiles.mp wanted).1 rfl,
        Walk.pathTo_concat, Source.readable]
    have outlined : source.contentFor .structureWithFiles (Path.join (Walk.pathTo root names) name)
        = some [] := rfl
    rw [outlined, Option.map_some, Option.filter_some, readable]
    cases source.contentFor .fullDump (Path.join (Walk.pathTo root names) name) <;> rfl
  · simp [Event.withoutContent, Event.isReadable, List.filter_map, Function.comp_def]

/-! ### The whole walk -/

lemma directoryRecords_walk (mode : Mode) :
    (Walk.events (source.walk config mode root)).filterMap Event.directory?
      = (source.visited config root).flatMap fun names =>
          (source.wantedDirectories config (Walk.pathTo root names)).map
            (⟨Walk.placeOf names, ·⟩) := by
  rw [events_walk, List.filterMap_flatMap]
  simp only [directoryRecords_visit, Walk.itemAt_directory, Walk.itemAt_place]

/-- What the modes of a walk have in common, and how they differ: the directories are always the
same, the outline without files shows nothing else, and a dump shows the files of the outline that
can be read. Neither outline depends on how files are read. -/
theorem walk_modes (source : Source) (config : Configuration) (root : Text) :
    (∀ mode, (Walk.events (source.walk config mode root)).filterMap Event.directory?
      = (Walk.events (source.walk config .structureDirectoriesOnly root)).filterMap
          Event.directory?) ∧
    (Walk.events (source.walk config .structureDirectoriesOnly root)).filterMap Event.file? = [] ∧
    (Walk.events (source.walk config .fullDump root)).map Event.withoutContent
      = (Walk.events (source.walk config .structureWithFiles root)).filter
          (Event.isReadable source root) ∧
    ∀ read,
      { source with read := read }.walk config .structureWithFiles root
        = source.walk config .structureWithFiles root ∧
      { source with read := read }.walk config .structureDirectoriesOnly root
        = source.walk config .structureDirectoriesOnly root := by
  -- the last part holds by definition: an outline takes an empty reading for each file
  refine ⟨fun mode => ?_, ?_, ?_, fun read => ⟨rfl, rfl⟩⟩
  · rw [directoryRecords_walk, directoryRecords_walk]
  · simp [events_walk, List.filterMap_flatMap, fileRecords_visit]
  · rw [events_walk, events_walk, List.map_flatMap, List.filter_flatMap]
    apply List.flatMap_congr
    intro names hnames
    exact withoutContent_visit (mem_visited.mp hnames)

end Source

end TreeDump
