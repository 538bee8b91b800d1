import Mathlib.Data.List.Induction
import Mathlib.Tactic.Common
import TreeDump.Artifact.Outline
import TreeDump.Proofs.Text.Sorted

/-!
# The groups of an outline

An outline can be made in one pass: the names of files are gathered in groups, one for each
directory, and a group is opened when its directory is first met, in a file or on its own. Which
groups there are, and which names each of them holds, does not depend on the order of the events,
and the outline sorts both. So it is the same for the same events in any order, and for directories
that are shown again.
-/

namespace TreeDump.Outline

/-- The names that an event puts into the section of its directory. -/
def namesOfEvent : Event → List Text
  | .file record => [record.name]
  | .directory _ => []

/-- The names that some events put into the section of a directory, in their order. -/
def namesIn (events : List Event) (directory : Text) : List Text :=
  events.flatMap fun event => if directoryOfEvent event = directory then namesOfEvent event else []

lemma namesIn_append (events others : List Event) (directory : Text) :
    namesIn (events ++ others) directory = namesIn events directory ++ namesIn others directory :=
  List.flatMap_append

lemma filesIn_eq_sort (events : List Event) (directory : Text) :
    filesIn events directory = Text.sort (namesIn events directory) := by
  rw [filesIn, namesIn, List.filterMap_filterMap, List.filterMap_eq_flatMap_toList]
  congr 2
  funext event
  cases event with
  | file record =>
    by_cases h : directoryOf record = directory <;>
      simp [Event.file?, directoryOfEvent, namesOfEvent, h]
  | directory record => simp [Event.file?, namesOfEvent]

lemma mem_directories {events : List Event} {directory : Text} :
    directory ∈ directories events ↔
      directory = [] ∨ ∃ event ∈ events, directoryOfEvent event = directory := by
  simp only [directories, Text.mem_sortDistinct, List.mem_cons, List.mem_map]

lemma namesIn_eq_nil {events : List Event} {directory : Text} (h : directory ∉ directories events) :
    namesIn events directory = [] := by
  refine List.flatMap_eq_nil_iff.mpr fun event mem => if_neg fun shown => h ?_
  exact mem_directories.mpr (.inr ⟨event, mem, shown⟩)

/-! ### Gathering -/

/-- The names that are gathered for a directory. -/
structure Group where
  directory : Text
  names : List Text

/-- Put names into the group of a directory, which is opened at the end if there is none. -/
def enter (directory : Text) (names : List Text) : List Group → List Group
  | [] => [⟨directory, names⟩]
  | group :: groups =>
    if group.directory = directory then ⟨directory, group.names ++ names⟩ :: groups
    else group :: enter directory names groups

/-- Gather the names of the files, beginning with an empty group for the root. -/
def gather (events : List Event) : List Group :=
  events.foldl (fun groups event => enter (directoryOfEvent event) (namesOfEvent event) groups)
    [⟨[], []⟩]

/-- The section that shows a group. -/
def Group.text (withFiles : Bool) (group : Group) : Text :=
  ['\n'].intercalate
    (('-' :: group.directory) :: if withFiles then Text.sort group.names else [])

/-- The outline that shows some groups. -/
def textOf (withFiles : Bool) (groups : List Group) : Text :=
  Text.trimEnd (['\n', '\n'].intercalate
    ((Text.sortBy Group.directory groups).map (Group.text withFiles)))

variable {directory : Text} {names : List Text} {groups : List Group}

lemma mem_directories_enter {path : Text} :
    path ∈ (enter directory names groups).map Group.directory ↔
      path ∈ groups.map Group.directory ∨ path = directory := by
  fun_induction enter directory names groups with
  | case1 => simp
  | case2 group groups same => simp [same, or_right_comm]
  | case3 group groups _ ih => simp [ih, or_assoc]

lemma nodup_enter (h : (groups.map Group.directory).Nodup) :
    ((enter directory names groups).map Group.directory).Nodup := by
  fun_induction enter directory names groups with
  | case1 => simp
  | case2 group groups same => rwa [← same]
  | case3 group groups different ih =>
    obtain ⟨apart, nodup⟩ := List.nodup_cons.mp h
    refine List.nodup_cons.mpr ⟨fun mem => ?_, ih nodup⟩
    exact (mem_directories_enter.mp mem).elim apart different

/-- Each group holds what it is to hold, before names are entered and after. -/
lemma names_enter {gathered : Text → List Text} (nodup : (groups.map Group.directory).Nodup)
    (before : ∀ group ∈ groups, group.names = gathered group.directory)
    (unopened : directory ∉ groups.map Group.directory → gathered directory = []) :
    ∀ group ∈ enter directory names groups, group.names
      = gathered group.directory ++ if directory = group.directory then names else [] := by
  fun_induction enter directory names groups with
  | case1 => simp [unopened]
  | case2 first groups same =>
    obtain ⟨first_names, before⟩ := List.forall_mem_cons.mp before
    refine List.forall_mem_cons.mpr ⟨?_, fun group mem => ?_⟩
    · simp [first_names, same]
    · -- the names went into the only group of the directory
      have apart : directory ≠ group.directory := by
        rintro rfl
        exact (List.nodup_cons.mp nodup).1 (same ▸ List.mem_map_of_mem mem)
      simp [before group mem, apart]
  | case3 first groups different ih =>
    obtain ⟨first_names, before⟩ := List.forall_mem_cons.mp before
    refine List.forall_mem_cons.mpr ⟨?_, ?_⟩
    · simp [first_names, Ne.symm different]
    · apply ih (List.nodup_cons.mp nodup).2 before
      intro none
      apply unopened
      simpa [Ne.symm different] using none

/-! ### What a pass gathers -/

/-- These groups are what some events give: one for each directory that they show, with the names of
its files. -/
structure Gathers (events : List Event) (groups : List Group) : Prop where
  nodup : (groups.map Group.directory).Nodup
  mem_iff : ∀ directory, directory ∈ groups.map Group.directory ↔ directory ∈ directories events
  names_eq : ∀ group ∈ groups, group.names = namesIn events group.directory

variable {events : List Event}

lemma Gathers.empty : Gathers [] [⟨[], []⟩] := by
  constructor
  · simp
  · simp [mem_directories]
  · simp [namesIn]

lemma Gathers.enter (h : Gathers events groups) (event : Event) :
    Gathers (events ++ [event]) (enter (directoryOfEvent event) (namesOfEvent event) groups) := by
  constructor
  · exact nodup_enter h.nodup
  · intro directory
    rw [mem_directories_enter, h.mem_iff, mem_directories, mem_directories]
    simp [or_and_right, exists_or, or_assoc, eq_comm]
  · have unopened : directoryOfEvent event ∉ groups.map Group.directory →
        namesIn events (directoryOfEvent event) = [] := by
      intro none
      rw [h.mem_iff] at none
      exact namesIn_eq_nil none
    intro group mem
    rw [names_enter h.nodup h.names_eq unopened group mem, namesIn_append]
    simp [namesIn]

lemma gathers_gather (events : List Event) : Gathers events (gather events) := by
  induction events using List.reverseRecOn with
  | nil => exact .empty
  | append_singleton events event ih =>
    rw [gather, List.foldl_concat]
    exact ih.enter event

lemma Gathers.directories_eq (h : Gathers events groups) :
    directories events = (Text.sortBy Group.directory groups).map Group.directory := by
  refine Text.eq_of_pairwise_before (Text.pairwise_sortDistinct _)
    (List.pairwise_map.mpr (Text.pairwise_sortBy h.nodup)) fun directory => ?_
  simp only [← h.mem_iff, List.mem_map, Text.mem_sortBy]

lemma Gathers.textOf_eq (h : Gathers events groups) (withFiles : Bool) :
    textOf withFiles groups = assemble withFiles events := by
  rw [textOf, assemble, h.directories_eq, List.map_map]
  congr 2
  apply List.map_congr_left
  intro group mem
  rw [Function.comp_apply, sectionOf, filesIn_eq_sort,
    ← h.names_eq group (Text.mem_sortBy.mp mem), Group.text]

/-! ### Rearranged events -/

/-- An outline is known once the directories are that events show, and how often each of them holds
each name. -/
lemma assemble_congr {events others : List Event}
    (shown : ∀ directory, directory ∈ directories events ↔ directory ∈ directories others)
    (names : ∀ directory, (namesIn events directory).Perm (namesIn others directory))
    (withFiles : Bool) : assemble withFiles events = assemble withFiles others := by
  have sameDirectories : directories events = directories others :=
    Text.eq_of_pairwise_before (Text.pairwise_sortDistinct _) (Text.pairwise_sortDistinct _) shown
  have sections : sectionOf withFiles events = sectionOf withFiles others := by
    funext directory
    rw [sectionOf, sectionOf, filesIn_eq_sort, filesIn_eq_sort,
      Text.sort_eq_of_perm (names directory)]
  rw [assemble, assemble, sections, sameDirectories]

/-- The outline is the same for the same events in another order, and for directories that are shown
again. It is also what gathering the other events in one pass gives. -/
theorem assemble_rearranged {events others : List Event} {copies : List DirectoryRecord}
    (known : ∀ record ∈ copies, .directory record ∈ events)
    (rearranged : others.Perm (events ++ copies.map .directory)) (withFiles : Bool) :
    assemble withFiles others = assemble withFiles events ∧
      textOf withFiles (gather others) = assemble withFiles events := by
  have same : assemble withFiles others = assemble withFiles events := by
    apply assemble_congr
    · intro directory
      simp only [mem_directories, rearranged.mem_iff, List.mem_append, List.mem_map]
      refine or_congr_right ⟨?_, ?_⟩
      · rintro ⟨event, mem | ⟨record, mem, rfl⟩, shown⟩
        · exact ⟨event, mem, shown⟩
        · exact ⟨_, known record mem, shown⟩
      · rintro ⟨event, mem, shown⟩
        exact ⟨event, .inl mem, shown⟩
    · intro directory
      -- the copies open no group, and no directory is a name in one
      have nothing : namesIn (copies.map .directory) directory = [] := by
        simp [namesIn, namesOfEvent]
      have names : (namesIn others directory).Perm
          (namesIn (events ++ copies.map .directory) directory) :=
        rearranged.flatMap_right _
      rwa [namesIn_append, nothing, List.append_nil] at names
  exact ⟨same, ((gathers_gather others).textOf_eq withFiles).trans same⟩

/-- Two files of one name that are shown before their directory, which is then shown twice. -/
def sampleLate : List Event :=
  [.file ⟨"src/b.c".toList, [], "src/".toList, "b.c".toList⟩,
    .file ⟨"src/a.c".toList, [], "src/".toList, "a.c".toList⟩,
    .directory ⟨[], "src".toList⟩,
    .file ⟨"src/a.c".toList, [], "src//".toList, "a.c".toList⟩,
    .directory ⟨[], "src".toList⟩,
    .file ⟨"z.c".toList, [], [], "z.c".toList⟩]

theorem assemble_rearranged_sampleLate :
    let events : List Event :=
      [.file ⟨"z.c".toList, [], [], "z.c".toList⟩,
        .directory ⟨[], "src".toList⟩,
        .file ⟨"src/a.c".toList, [], "src/".toList, "a.c".toList⟩,
        .file ⟨"src/a.c".toList, [], "src//".toList, "a.c".toList⟩,
        .file ⟨"src/b.c".toList, [], "src/".toList, "b.c".toList⟩]
    (∀ record ∈ [⟨[], "src".toList⟩], .directory record ∈ events) ∧
      sampleLate.Perm (events ++ [⟨[], "src".toList⟩].map .directory) ∧
      assemble true sampleLate = assemble true events ∧
        textOf true (gather sampleLate) = assemble true events := by
  intro events
  have known : ∀ record ∈ [⟨[], "src".toList⟩], .directory record ∈ events := by decide
  have rearranged : sampleLate.Perm (events ++ [⟨[], "src".toList⟩].map .directory) := by decide
  exact ⟨known, rearranged, assemble_rearranged known rearranged true⟩

example : textOf true (gather sampleLate) = "-\nz.c\n\n-src\na.c\na.c\nb.c".toList := by cbv

end TreeDump.Outline
