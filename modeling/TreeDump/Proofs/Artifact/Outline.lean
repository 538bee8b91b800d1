import Mathlib.Tactic.Common
import TreeDump.Artifact.Basic
import TreeDump.Proofs.Text.Blank
import TreeDump.Proofs.Text.Sorted
import TreeDump.Proofs.Walk.LevelOrder

/-!
# The outline of a directory tree

The outline that a run makes of a directory tree lists the directories that a walk visits, sorted by
their paths, and under each of them the names of its wanted files. Files and subdirectories spell
their directory differently, one as a place and one as a path, and both lead to the same section.
-/

namespace TreeDump

namespace Outline

/-- A header ends visibly if the name of its directory does; that of the root is the hyphen. -/
lemma endsVisibly_header {names : List Text}
    (last : ∀ above name, names = above ++ [name] → Text.EndsVisibly name) :
    Text.EndsVisibly ('-' :: Walk.displayPath names) := by
  rcases List.eq_nil_or_concat' names with rfl | ⟨above, name, rfl⟩
  · exact ⟨[], '-', rfl, by decide⟩
  · rw [← Walk.placeOf_append]
    exact (last above name rfl).append ('-' :: Walk.placeOf above)

/-- Nothing is trimmed at the end of an outline if all its sections end visibly. -/
lemma assemble_of_visible {withFiles : Bool} {events : List Event}
    (visible : ∀ path ∈ directories events, Text.EndsVisibly (sectionOf withFiles events path)) :
    assemble withFiles events
      = ['\n', '\n'].intercalate ((directories events).map (sectionOf withFiles events)) := by
  have root_mem : [] ∈ directories events := Text.mem_sortDistinct.mpr List.mem_cons_self
  apply Text.EndsVisibly.trimEnd_eq
  apply Text.EndsVisibly.intercalate _ (by simpa using List.ne_nil_of_mem root_mem)
  simpa using visible

end Outline

namespace Source

variable {source : Source} {config : Configuration} {root : Text}

/-! ### Two spellings of a directory -/

/-- A place without the slashes at its end is the path of the directory. -/
lemma dropEndWhile_placeOf {names : List Text}
    (proper : ∀ name ∈ names, FileSystem.isName name = true) :
    Text.dropEndWhile (· == '/') (Walk.placeOf names) = Walk.displayPath names := by
  rcases List.eq_nil_or_concat' names with rfl | ⟨above, name, rfl⟩
  · rfl
  · obtain ⟨nonempty, noSlash⟩ := FileSystem.isName_iff.mp (proper name (by simp))
    obtain rfl | ⟨start, c, rfl⟩ := List.eq_nil_or_concat' name
    · exact absurd rfl nonempty
    · have last : (c == '/') = false := by
        rw [beq_eq_false_iff_ne]
        rintro rfl
        simp at noSlash
      rw [← Walk.placeOf_append, Walk.placeOf_concat]
      simp [Text.dropEndWhile, last]

lemma directoryOf_fileRecord {names : List Text}
    (proper : ∀ name ∈ names, FileSystem.isName name = true) (name content : Text) :
    Outline.directoryOf ((Walk.itemAt root names).fileRecord name content)
      = Walk.displayPath names :=
  dropEndWhile_placeOf proper

lemma pathOf_directoryRecord (names : List Text) (name : Text) :
    Outline.pathOf ⟨(Walk.itemAt root names).place, name⟩ = Walk.displayPath (names ++ [name]) :=
  Walk.placeOf_append names name

/-! ### The directories of an outline -/

/-- The directories that an outline lists are those that a walk visits, whatever its mode. -/
lemma mem_directories_walk {mode : Mode} {path : Text} :
    path ∈ Outline.directories (Walk.events (source.walk config mode root)) ↔
      ∃ names, source.Visits config root names ∧ path = Walk.displayPath names := by
  simp only [Outline.directories, Text.mem_sortDistinct, List.mem_cons, List.mem_map, events_walk,
    List.mem_flatMap, mem_visited]
  constructor
  · rintro (rfl | ⟨event, ⟨names, visits, mem⟩, rfl⟩)
    · exact ⟨[], visits_nil, rfl⟩
    · rcases mem_visit_events.mp mem with ⟨-, name, -, content, -, rfl⟩ | ⟨name, wanted, rfl⟩
      · exact ⟨names, visits, directoryOf_fileRecord visits.1.isName name content⟩
      · obtain ⟨listed, kept⟩ := mem_wantedDirectories.mp wanted
        exact ⟨names ++ [name], visits_concat.mpr ⟨visits, listed, kept⟩,
          pathOf_directoryRecord names name⟩
  · rintro ⟨names, visits, rfl⟩
    rcases List.eq_nil_or_concat' names with rfl | ⟨above, name, rfl⟩
    · exact .inl rfl
    · obtain ⟨habove, listed⟩ := visits_concat.mp visits
      refine .inr ⟨.directory ⟨(Walk.itemAt root above).place, name⟩, ⟨above, habove, ?_⟩, ?_⟩
      · exact mem_visit_events.mpr (.inr ⟨name, mem_wantedDirectories.mpr listed, rfl⟩)
      · exact pathOf_directoryRecord above name

/-- The directories that a walk visits, sorted by their paths. -/
def visitedByPath (source : Source) (config : Configuration) (root : Text) : List (List Text) :=
  Text.sortBy Walk.displayPath (source.visited config root)

lemma mem_visitedByPath {names : List Text} :
    names ∈ source.visitedByPath config root ↔ source.Visits config root names :=
  Text.mem_sortBy.trans mem_visited

lemma pairwise_visitedByPath :
    (source.visitedByPath config root).Pairwise fun a b =>
      Text.Before (Walk.displayPath a) (Walk.displayPath b) := by
  apply Text.pairwise_sortBy (nodup_visited.map_on ?_)
  intro a ha b hb same
  exact Walk.displayPath_injective (mem_visited.mp ha).1.isName (mem_visited.mp hb).1.isName same

lemma directories_walk (mode : Mode) :
    Outline.directories (Walk.events (source.walk config mode root))
      = (source.visitedByPath config root).map Walk.displayPath := by
  refine Text.eq_of_pairwise_before (Text.pairwise_sortDistinct _)
    (List.pairwise_map.mpr pairwise_visitedByPath) fun path => ?_
  simp only [mem_directories_walk, List.mem_map, mem_visitedByPath, eq_comm]

/-! ### The files of a section -/

/-- The names of the files that a visit shows in the directory of a path. -/
lemma fileNames_visit {names : List Text}
    (proper : ∀ name ∈ names, FileSystem.isName name = true) (path : Text) :
    (((Walk.visit source config .structureWithFiles (Walk.itemAt root names)).events.filterMap
        Event.file?).filterMap fun record =>
          if Outline.directoryOf record = path then some record.name else none)
      = if Walk.displayPath names = path then
          source.wantedFiles config (Walk.pathTo root names)
        else [] := by
  have files : (Walk.visit source config .structureWithFiles
      (Walk.itemAt root names)).events.filterMap Event.file?
      = (source.wantedFiles config (Walk.pathTo root names)).map fun name =>
          (Walk.itemAt root names).fileRecord name [] := by
    simp [visit_events, contentFor, List.filterMap_append, List.filterMap_map, Event.file?,
      Function.comp_def, Walk.itemAt]
  rw [files, List.filterMap_map]
  simp only [Function.comp_def, directoryOf_fileRecord proper]
  split
  · simp [Walk.Item.fileRecord]
  · simp

/-- If all but one member of a list give nothing, then the list gives what that member gives. -/
lemma flatMap_eq_of_mem {α β : Type} {f : α → List β} {l : List α} {a : α} (nodup : l.Nodup)
    (mem : a ∈ l) (others : ∀ b ∈ l, b ≠ a → f b = []) : l.flatMap f = f a := by
  obtain ⟨before, after, rfl⟩ := List.append_of_mem mem
  have notBefore : ∀ b ∈ before, b ≠ a := by
    rintro b hb rfl
    exact (List.nodup_append.mp nodup).2.2 b hb b List.mem_cons_self rfl
  have notAfter : ∀ b ∈ after, b ≠ a := by
    rintro b hb rfl
    exact (List.nodup_cons.mp (List.nodup_append.mp nodup).2.1).1 hb
  have nothingBefore : before.flatMap f = [] :=
    List.flatMap_eq_nil_iff.mpr fun b hb => others b (by simp [hb]) (notBefore b hb)
  have nothingAfter : after.flatMap f = [] :=
    List.flatMap_eq_nil_iff.mpr fun b hb => others b (by simp [hb]) (notAfter b hb)
  rw [List.flatMap_append, List.flatMap_cons, nothingBefore, nothingAfter, List.nil_append,
    List.append_nil]

lemma filesIn_walk {names : List Text} (visits : source.Visits config root names) :
    Outline.filesIn (Walk.events (source.walk config .structureWithFiles root))
        (Walk.displayPath names)
      = source.wantedFiles config (Walk.pathTo root names) := by
  rw [Outline.filesIn, events_walk, List.filterMap_flatMap, List.filterMap_flatMap,
    flatMap_eq_of_mem nodup_visited (mem_visited.mpr visits), fileNames_visit visits.1.isName]
  · rw [if_pos rfl, Text.sort_eq_self (pairwise_wantedFiles _)]
  · intro others hothers different
    have visitsOthers := mem_visited.mp hothers
    rw [fileNames_visit visitsOthers.1.isName, if_neg]
    intro same
    exact different (Walk.displayPath_injective visitsOthers.1.isName visits.1.isName same)

/-! ### The whole outline -/

/-- No name that an outline of the tree shows ends in a blank. -/
structure EndsVisibly (source : Source) (config : Configuration) (root : Text) : Prop where
  directories : ∀ names name, source.Visits config root (names ++ [name]) →
    Text.trimEnd name = name
  files : ∀ names name, source.Visits config root names →
    source.Lists (Walk.pathTo root names) name .file → config.allows name = true →
    Text.trimEnd name = name

/-- It is enough to look at the entries of a list of directories that holds the root, and with each
directory the directories in it. -/
lemma EndsVisibly.of_closed (tree : List (List Text)) (root_mem : [] ∈ tree)
    (closed : ∀ names ∈ tree, ∀ entry ∈ source.entries (Walk.pathTo root names),
      Text.trimEnd entry.name = entry.name ∧
        (entry.kind.toOption = some .directory → names ++ [entry.name] ∈ tree)) :
    source.EndsVisibly config root := by
  have inTree : ∀ {names}, source.HasDirectory root names → names ∈ tree :=
    HasDirectory.mem_of_closed root_mem fun names mem entry h => (closed names mem entry h).2
  constructor
  · intro names name visits
    obtain ⟨above, listed⟩ := hasDirectory_concat.mp visits.1
    exact (closed names (inTree above) _ (lists_iff.mp listed)).1
  · intro names name visits listed _
    exact (closed names (inTree visits.1) _ (lists_iff.mp listed)).1

/-- The full outline of a tree, and the same without its files: a section for each directory that is
visited, sorted by their paths, and in it the wanted files by name. -/
def Outlines (source : Source) (config : Configuration) (root full bare : Text) : Prop :=
  ∃ (directories : List (List Text)) (files : List Text → List Text),
    (∀ names, names ∈ directories ↔ source.Visits config root names) ∧
    directories.Pairwise (fun a b => Text.Before (Walk.displayPath a) (Walk.displayPath b)) ∧
    directories.head? = some [] ∧
    (∀ names, (files names).Pairwise Text.Before ∧ ∀ name, name ∈ files names ↔
      source.Lists (Walk.pathTo root names) name .file ∧ config.allows name = true) ∧
    full = ['\n', '\n'].intercalate (directories.map fun names =>
      ['\n'].intercalate (('-' :: Walk.displayPath names) :: files names)) ∧
    bare = ['\n', '\n'].intercalate (directories.map fun names => '-' :: Walk.displayPath names)

lemma EndsVisibly.header (h : source.EndsVisibly config root) {names : List Text}
    (visits : source.Visits config root names) :
    Text.EndsVisibly ('-' :: Walk.displayPath names) := by
  apply Outline.endsVisibly_header
  rintro above name rfl
  have nonempty := (FileSystem.isName_iff.mp (visits.1.isName name (by simp))).1
  exact Text.endsVisibly_of_trimEnd_eq nonempty (h.directories above name visits)

lemma EndsVisibly.section (h : source.EndsVisibly config root) {names : List Text}
    (visits : source.Visits config root names) {files : List Text}
    (wanted : ∀ name ∈ files, name ∈ source.wantedFiles config (Walk.pathTo root names)) :
    Text.EndsVisibly (['\n'].intercalate (('-' :: Walk.displayPath names) :: files)) := by
  apply Text.EndsVisibly.intercalate _ (by simp)
  intro line hline
  rcases List.mem_cons.mp hline with rfl | hline
  · exact h.header visits
  · obtain ⟨listed, allowed⟩ := mem_wantedFiles.mp (wanted line hline)
    have nonempty := (FileSystem.isName_iff.mp (isName_of_lists listed)).1
    exact Text.endsVisibly_of_trimEnd_eq nonempty (h.files names line visits listed allowed)

/-- The root comes first, since its path is empty. -/
lemma head_visitedByPath : (source.visitedByPath config root).head? = some [] := by
  have root_mem : [] ∈ source.visitedByPath config root := mem_visitedByPath.mpr visits_nil
  have ordered : (source.visitedByPath config root).Pairwise _ := pairwise_visitedByPath
  cases h : source.visitedByPath config root with
  | nil => simp [h] at root_mem
  | cons first rest =>
    rw [h] at root_mem ordered
    rcases List.mem_cons.mp root_mem with rfl | later
    · rfl
    · -- nothing comes before the empty path
      have before := (List.pairwise_cons.mp ordered).1 [] later
      have path : Walk.displayPath [] = [] := rfl
      rw [path] at before
      cases hpath : Walk.displayPath first with
      | nil => exact absurd hpath before.2
      | cons c r => exact absurd before.1 (by simp [hpath])

/-- The outline of a walk, when `files` are the files that it shows in each directory. -/
lemma assemble_walk (h : source.EndsVisibly config root) (mode : Mode) (withFiles : Bool)
    (files : List Text → List Text)
    (shown : ∀ names, source.Visits config root names →
      (if withFiles then Outline.filesIn (Walk.events (source.walk config mode root))
        (Walk.displayPath names) else []) = files names)
    (wanted : ∀ names, ∀ name ∈ files names,
      name ∈ source.wantedFiles config (Walk.pathTo root names)) :
    Outline.assemble withFiles (Walk.events (source.walk config mode root))
      = ['\n', '\n'].intercalate ((source.visitedByPath config root).map fun names =>
          ['\n'].intercalate (('-' :: Walk.displayPath names) :: files names)) := by
  have section_eq : ∀ names ∈ source.visitedByPath config root,
      Outline.sectionOf withFiles (Walk.events (source.walk config mode root))
        (Walk.displayPath names)
      = ['\n'].intercalate (('-' :: Walk.displayPath names) :: files names) := by
    intro names hnames
    rw [Outline.sectionOf, shown names (mem_visitedByPath.mp hnames)]
  rw [Outline.assemble_of_visible, directories_walk, List.map_map]
  · exact congrArg _ (List.map_congr_left section_eq)
  · intro path mem
    rw [directories_walk] at mem
    obtain ⟨names, hnames, rfl⟩ := List.mem_map.mp mem
    rw [section_eq names hnames]
    exact h.section (mem_visitedByPath.mp hnames) (wanted names)

end Source

namespace FileSystem

lemma not_mem_of_isDirectory {fs : FileSystem} {path : Text} (h : fs.isDirectory path = true) :
    '\x00' ∉ path := by
  intro null
  simp [isDirectory, resolve, null] at h

/-- The outline of a directory is that of its tree, with and without the files, whether contents are
cleaned up or not. -/
theorem artifact_outline {fs : FileSystem} {render : NotebookRenderer} {config : Configuration}
    {root : Text} (directory : fs.isDirectory root = true)
    (visible : (fs.source render).EndsVisibly config root) :
    ∃ full bare, (fs.source render).Outlines config root full bare ∧ ∀ cleanup,
      (fs.artifact render config .structureWithFiles cleanup root).map Artifact.text = .ok full ∧
      (fs.artifact render config .structureDirectoriesOnly cleanup root).map Artifact.text
        = .ok bare := by
  have walked : ∀ mode, fs.walk render config mode root
      = .ok ((fs.source render).walk config mode root) := by
    intro mode
    rw [walk, if_neg (not_mem_of_isDirectory directory)]
  refine ⟨_, _, ⟨(fs.source render).visitedByPath config root,
    fun names => (fs.source render).wantedFiles config (Walk.pathTo root names),
    fun _ => Source.mem_visitedByPath, Source.pairwise_visitedByPath, Source.head_visitedByPath,
    fun _ => ⟨Source.pairwise_wantedFiles _, fun _ => Source.mem_wantedFiles⟩, rfl, rfl⟩,
    fun cleanup => ?_⟩
  rw [artifact, artifact, walked, walked]
  constructor
  · apply congrArg Except.ok
    exact Source.assemble_walk visible .structureWithFiles true _
      (fun _ visits => Source.filesIn_walk visits) fun _ _ h => h
  · apply congrArg Except.ok
    rw [Artifact.ofVisits, assemble, Source.assemble_walk visible .structureDirectoriesOnly false
      (fun _ => []) (fun _ _ => rfl) (by simp)]
    simp

/-- A directory with files, subdirectories, a link, and a directory that is passed over. -/
def sampleTree : FileSystem where
  nodes := [("r", .directory), ("r/b.py", .file []), ("r/notes", .file []), ("r/src", .directory),
    ("r/src/a.c", .file []), ("r/tmp", .directory), ("r/tmp/x.py", .file []),
    ("r/more", .link "src".toList)].foldl
      (fun nodes (path, node) => nodes.insert (Path.components path.toList) node) .empty
  workingDirectory := []
  denied := []

theorem artifact_outline_sampleTree :
    ∃ full bare,
      (sampleTree.source .ok).Outlines Configuration.defaults "/r".toList full bare ∧ ∀ cleanup,
        (sampleTree.artifact .ok Configuration.defaults .structureWithFiles cleanup
          "/r".toList).map Artifact.text = .ok full ∧
        (sampleTree.artifact .ok Configuration.defaults .structureDirectoriesOnly cleanup
          "/r".toList).map Artifact.text = .ok bare :=
  artifact_outline (by decide) (Source.EndsVisibly.of_closed
    [[], ["src".toList], ["tmp".toList], ["more".toList]] (by decide) (by decide))

end FileSystem

end TreeDump
