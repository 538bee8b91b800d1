import TreeDump.Proofs.Artifact.Groups
import TreeDump.Proofs.Artifact.Outline
import TreeDump.Proofs.Text.Lines

/-!
# Outlines that are read back

The sections of an outline are what stands between its blank lines, since no line of a section is
blank. The first line of a section shows its directory and the others show files, whatever character
they start with, and a path is that of one directory only. So the directories and their files are
read back from the outline alone.
-/

namespace TreeDump

namespace Outline

/-! ### Reading an outline -/

/-- The directory and the names that the lines of a section show. -/
def sectionOf? : List Text → Option (Text × List Text)
  | ('-' :: directory) :: names => some (directory, names)
  | _ => none

/-- What the sections of an outline show, which blank lines separate. -/
def sections? (outline : Text) : Option (List (Text × List Text)) :=
  (outline.lines.splitOn []).mapM sectionOf?

/-- The lines of the section that shows some names in a directory. -/
def linesOf (shown : Text × List Text) : List Text :=
  ('-' :: shown.1) :: shown.2

lemma mapM_sectionOf? (shown : List (Text × List Text)) :
    (shown.map linesOf).mapM sectionOf? = some shown := by
  induction shown with
  | nil => rfl
  | cons first shown ih => simp [linesOf, sectionOf?, ih]

lemma lines_append_blank (s t : Text) :
    Text.lines (s ++ ['\n', '\n'] ++ t) = s.lines ++ [[]] ++ t.lines := by
  have blank : Text.lines ('\n' :: t) = [[]] ++ t.lines := Text.lines_append [] t
  rw [List.append_assoc, List.append_assoc, ← blank]
  exact Text.lines_append s ('\n' :: t)

/-- Sections without blank lines are what the blank lines between them separate. -/
lemma splitOn_lines {parts : List (List Text)} (nonempty : parts ≠ [])
    (proper : ∀ part ∈ parts, part ≠ [] ∧ ∀ line ∈ part, line ≠ [] ∧ '\n' ∉ line) :
    (Text.lines (['\n', '\n'].intercalate (parts.map ['\n'].intercalate))).splitOn [] = parts := by
  have lines : Text.lines (['\n', '\n'].intercalate (parts.map ['\n'].intercalate))
      = [[]].intercalate (parts.map fun part => Text.lines (['\n'].intercalate part)) := by
    clear proper
    induction parts with
    | nil => exact absurd rfl nonempty
    | cons first rest ih =>
      cases rest with
      | nil => simp
      | cons second rest =>
        rw [List.map_cons, List.map_cons, List.intercalate_cons_cons, lines_append_blank,
          ← List.map_cons, ih (by simp)]
        simp [List.intercalate_cons_cons]
  have same : (parts.map fun part => Text.lines (['\n'].intercalate part)) = parts := by
    refine (List.map_congr_left fun part mem => ?_).trans (List.map_id parts)
    exact List.splitOn_intercalate '\n' (fun line h => ((proper part mem).2 line h).2)
      (proper part mem).1
  -- the separator, taken as a line, is in none of the sections
  rw [lines, same]
  exact List.splitOn_intercalate [] (fun part mem blank => ((proper part mem).2 [] blank).1 rfl)
    nonempty

/-- The sections of an outline are read back. -/
lemma sections?_intercalate {shown : List (Text × List Text)} (nonempty : shown ≠ [])
    (proper : ∀ s ∈ shown, '\n' ∉ s.1 ∧ ∀ name ∈ s.2, name ≠ [] ∧ '\n' ∉ name) :
    sections? (['\n', '\n'].intercalate (shown.map fun s => ['\n'].intercalate (linesOf s)))
      = some shown := by
  have split := @splitOn_lines (shown.map linesOf) (by simpa using nonempty) ?_
  · rw [List.map_map] at split
    exact (congrArg (List.mapM sectionOf?) split).trans (mapM_sectionOf? shown)
  · intro part mem
    obtain ⟨s, hs, rfl⟩ := List.mem_map.mp mem
    obtain ⟨header, names⟩ := proper s hs
    refine ⟨by simp [linesOf], List.forall_mem_cons.mpr ⟨⟨by simp, ?_⟩, names⟩⟩
    simpa using header

/-! ### Events that can be shown -/

/-- Can the name be told from what stands around it in an outline? -/
structure IsShown (name : Text) : Prop where
  isName : FileSystem.isName name = true
  oneLine : '\n' ∉ name
  trimmed : Text.trimEnd name = name

lemma isShown_iff {name : Text} : IsShown name ↔
    FileSystem.isName name = true ∧ '\n' ∉ name ∧ Text.trimEnd name = name :=
  ⟨fun h => ⟨h.isName, h.oneLine, h.trimmed⟩, fun ⟨h, h', h''⟩ => ⟨h, h', h''⟩⟩

instance (name : Text) : Decidable (IsShown name) :=
  decidable_of_iff _ isShown_iff.symm

lemma IsShown.nonempty {name : Text} (h : IsShown name) : name ≠ [] :=
  (FileSystem.isName_iff.mp h.isName).1

lemma IsShown.endsVisibly {name : Text} (h : IsShown name) : name.EndsVisibly :=
  Text.endsVisibly_of_trimEnd_eq h.nonempty h.trimmed

/-- The event shows an entry whose name and those of the directories above it can be shown. -/
inductive IsReadable : Event → Prop
  | file {names : List Text} {name path content : Text}
      (shown : ∀ part ∈ names ++ [name], IsShown part) :
      IsReadable (.file ⟨path, content, Walk.placeOf names, name⟩)
  | directory {names : List Text} {name : Text} (shown : ∀ part ∈ names ++ [name], IsShown part) :
      IsReadable (.directory ⟨Walk.placeOf names, name⟩)

/-! ### What an outline shows -/

/-- The place of the directory at a path. -/
def placeAt (path : Text) : Text :=
  if path = [] then [] else path ++ ['/']

/-- Places and paths are two spellings of the same directories. -/
lemma placeOf_eq_placeAt_iff {names : List Text} (shown : ∀ part ∈ names, IsShown part)
    {path : Text} : Walk.placeOf names = placeAt path ↔ Walk.displayPath names = path := by
  rcases List.eq_nil_or_concat' names with rfl | ⟨above, name, rfl⟩
  · have place : Walk.placeOf [] = [] := rfl
    have display : Walk.displayPath [] = [] := rfl
    rw [place, display, placeAt]
    split
    next empty => simp [empty]
    next nonempty => simp [Ne.symm nonempty]
  · have nonempty : name ≠ [] := (shown name (by simp)).nonempty
    rw [Walk.placeOf_concat, ← Walk.placeOf_append, placeAt]
    split
    next empty => simp [empty, nonempty]
    next => exact List.append_left_inj ['/']

/-- What the sections of an outline of some events are to show: the root, the directories of the
events and those of their files, sorted by path, and in each of them the names of its files, sorted
and as often as they come. -/
structure Shows (events : List Event) (shown : List (Text × List Text)) : Prop where
  ascending : (shown.map Prod.fst).Pairwise Text.Before
  mem_iff : ∀ path, path ∈ shown.map Prod.fst ↔
    path = [] ∨ (∃ record, .directory record ∈ events ∧ record.place ++ record.name = path) ∨
      ∃ record, .file record ∈ events ∧ record.place = placeAt path
  sorted : ∀ s ∈ shown, s.2.Pairwise fun a b => Text.inOrder a b = true
  names_perm : ∀ s ∈ shown, s.2.Perm
    (((events.filterMap Event.file?).filter (·.place = placeAt s.1)).map FileRecord.name)

lemma IsReadable.directoryOf_eq_iff {record : FileRecord} (h : IsReadable (.file record))
    {path : Text} : directoryOf record = path ↔ record.place = placeAt path := by
  cases h with
  | @file names name path content shown =>
    obtain ⟨above, -⟩ := List.forall_mem_append.mp shown
    rw [placeOf_eq_placeAt_iff above, directoryOf,
      Source.dropEndWhile_placeOf fun part mem => (above part mem).isName]

/-- The directory of an event is one that can be shown. -/
lemma IsReadable.exists_names {event : Event} (h : IsReadable event) :
    ∃ names, directoryOfEvent event = Walk.displayPath names ∧ ∀ part ∈ names, IsShown part := by
  cases h with
  | @file names name path content shown =>
    obtain ⟨above, -⟩ := List.forall_mem_append.mp shown
    exact ⟨names, Source.dropEndWhile_placeOf fun part mem => (above part mem).isName, above⟩
  | @directory names name shown => exact ⟨names ++ [name], Walk.placeOf_append names name, shown⟩

variable {events : List Event}

lemma mem_files {record : FileRecord} :
    record ∈ events.filterMap Event.file? ↔ .file record ∈ events := by
  constructor
  · intro mem
    obtain ⟨_ | _, mem, same⟩ := List.mem_filterMap.mp mem <;> cases same
    exact mem
  · exact fun mem => List.mem_filterMap.mpr ⟨_, mem, rfl⟩

lemma exists_names_of_mem_directories (readable : ∀ event ∈ events, IsReadable event)
    {path : Text} (mem : path ∈ directories events) :
    ∃ names, path = Walk.displayPath names ∧ ∀ part ∈ names, IsShown part := by
  rcases mem_directories.mp mem with rfl | ⟨event, hevent, rfl⟩
  · exact ⟨[], rfl, by simp⟩
  · exact (readable event hevent).exists_names

lemma filesIn_perm (readable : ∀ event ∈ events, IsReadable event) (path : Text) :
    (filesIn events path).Perm
      (((events.filterMap Event.file?).filter (·.place = placeAt path)).map FileRecord.name) := by
  have names : ((events.filterMap Event.file?).filterMap fun record =>
        if directoryOf record = path then some record.name else none)
      = ((events.filterMap Event.file?).filter (·.place = placeAt path)).map FileRecord.name := by
    rw [← List.filterMap_eq_map, List.filterMap_filter]
    apply List.filterMap_congr
    intro record mem
    simp [(readable _ (mem_files.mp mem)).directoryOf_eq_iff]
  rw [← names]
  exact List.mergeSort_perm _ _

lemma isShown_of_mem_filesIn (readable : ∀ event ∈ events, IsReadable event) {path name : Text}
    (mem : name ∈ filesIn events path) : IsShown name := by
  obtain ⟨record, kept, rfl⟩ := List.mem_map.mp ((filesIn_perm readable path).mem_iff.mp mem)
  cases readable _ (mem_files.mp (List.mem_of_mem_filter kept)) with
  | file shown => exact shown _ (by simp)

/-- The directories of an outline, and the names in each of them. -/
def shownBy (events : List Event) : List (Text × List Text) :=
  (directories events).map fun path => (path, filesIn events path)

lemma shows_shownBy (readable : ∀ event ∈ events, IsReadable event) :
    Shows events (shownBy events) := by
  have paths : (shownBy events).map Prod.fst = directories events := by
    simp [shownBy, Function.comp_def]
  constructor
  · rw [paths]
    exact Text.pairwise_sortDistinct _
  · intro path
    rw [paths, mem_directories]
    refine or_congr_right ⟨?_, ?_⟩
    · rintro ⟨event | event, mem, shown⟩
      · exact .inr ⟨event, mem, (readable _ mem).directoryOf_eq_iff.mp shown⟩
      · exact .inl ⟨event, mem, shown⟩
    · rintro (⟨record, mem, shown⟩ | ⟨record, mem, shown⟩)
      · exact ⟨_, mem, shown⟩
      · exact ⟨_, mem, (readable _ mem).directoryOf_eq_iff.mpr shown⟩
  · intro s mem
    obtain ⟨path, -, rfl⟩ := List.mem_map.mp mem
    exact Text.pairwise_sort _
  · intro s mem
    obtain ⟨path, -, rfl⟩ := List.mem_map.mp mem
    exact filesIn_perm readable path

lemma shownBy_ne_nil (events : List Event) : shownBy events ≠ [] := by
  have root_mem : [] ∈ directories events := mem_directories.mpr (.inl rfl)
  simpa [shownBy] using List.ne_nil_of_mem root_mem

/-- No line of an outline ends in a blank, so that nothing is trimmed. -/
lemma assemble_eq_intercalate (readable : ∀ event ∈ events, IsReadable event) :
    assemble true events
      = ['\n', '\n'].intercalate
          ((shownBy events).map fun s => ['\n'].intercalate (linesOf s)) := by
  have sections : (directories events).map (sectionOf true events)
      = (shownBy events).map fun s => ['\n'].intercalate (linesOf s) := by
    rw [shownBy, List.map_map]
    rfl
  rw [assemble_of_visible, sections]
  intro path hpath
  apply Text.EndsVisibly.intercalate _ (by simp)
  intro line hline
  rcases List.mem_cons.mp hline with rfl | hline
  · obtain ⟨names, rfl, shown⟩ := exists_names_of_mem_directories readable hpath
    apply endsVisibly_header
    rintro above name rfl
    exact (shown name (by simp)).endsVisibly
  · exact (isShown_of_mem_filesIn readable hline).endsVisibly

lemma lineFeed_not_mem_displayPath {names : List Text} (shown : ∀ part ∈ names, IsShown part) :
    '\n' ∉ Walk.displayPath names := by
  rcases List.eq_nil_or_concat' names with rfl | ⟨above, name, rfl⟩
  · exact List.not_mem_nil
  · obtain ⟨shownAbove, shownName⟩ := List.forall_mem_append.mp shown
    rw [← Walk.placeOf_append, List.mem_append, not_or]
    refine ⟨fun mem => ?_, (shownName name (by simp)).oneLine⟩
    obtain ⟨part, hpart, mem⟩ := List.mem_flatMap.mp mem
    simp [(shownAbove part hpart).oneLine] at mem

/-- The outline of events whose names can be shown is read back: its sections are those that the
events ask for, even where the name of a file starts like a header. -/
theorem sections?_assemble (readable : ∀ event ∈ events, IsReadable event) :
    ∃ shown, sections? (assemble true events) = some shown ∧ Shows events shown := by
  refine ⟨shownBy events, ?_, shows_shownBy readable⟩
  rw [assemble_eq_intercalate readable]
  apply sections?_intercalate (shownBy_ne_nil events)
  intro s mem
  obtain ⟨path, hpath, rfl⟩ := List.mem_map.mp mem
  obtain ⟨names, rfl, shown⟩ := exists_names_of_mem_directories readable hpath
  refine ⟨lineFeed_not_mem_displayPath shown, fun name hname => ?_⟩
  have shownName := isShown_of_mem_filesIn readable hname
  exact ⟨shownName.nonempty, shownName.oneLine⟩

/-- Names that look like headers, one of them twice, and a directory without files. -/
def sampleHyphens : List Event :=
  [.file ⟨[], [], Walk.placeOf [], "-src".toList⟩,
    .file ⟨[], [], Walk.placeOf [], "-".toList⟩,
    .file ⟨[], [], Walk.placeOf ["src".toList, "-a".toList], "-x".toList⟩,
    .directory ⟨Walk.placeOf [], "src".toList⟩,
    .file ⟨[], [], Walk.placeOf ["src".toList, "-a".toList], "-x".toList⟩]

theorem sections?_assemble_sampleHyphens :
    (∀ event ∈ sampleHyphens, IsReadable event) ∧
      ∃ shown, sections? (assemble true sampleHyphens) = some shown ∧
        Shows sampleHyphens shown := by
  have readable : ∀ event ∈ sampleHyphens, IsReadable event := by
    simp only [sampleHyphens, List.forall_mem_cons]
    exact ⟨.file (by decide), .file (by decide), .file (by decide), .directory (by decide),
      .file (by decide), by simp⟩
  exact ⟨readable, sections?_assemble readable⟩

example : sections? (assemble true sampleHyphens)
    = some [([], ["-".toList, "-src".toList]), ("src".toList, []),
        ("src/-a".toList, ["-x".toList, "-x".toList])] := by cbv

end Outline

end TreeDump
