import Mathlib.Tactic.Common
import TreeDump.Proofs.Artifact.Outline
import TreeDump.Proofs.Walk.Modes

/-!
# Narrower configurations

A configuration that takes fewer files and passes over more directories than another shows a part of
what the other shows, and nothing else: the events that fit it, in the same order and with the same
contents.
-/

namespace TreeDump

/-- The first configuration takes no extension that the second does not take, and passes over all
the directories that the second passes over. -/
structure Configuration.Narrows (narrow wide : Configuration) : Prop where
  extensions : ∀ extension ∈ narrow.extensions, extension ∈ wide.extensions
  ignored : ∀ name ∈ wide.ignored, name ∈ narrow.ignored

/-- The names of the directories that an event tells of: those on the way to what it shows, and its
own name when it shows a directory. -/
def Event.directoryNames : Event → List Text
  | .file record => (Event.file record).names.dropLast
  | .directory record => (Event.directory record).names

/-- Is none of the names ignored? -/
def Configuration.keeps (config : Configuration) (names : List Text) : Bool :=
  names.all (!config.ignores ·)

/-- Does the event fit a configuration? None of its directories is ignored, and the extension of a
file is one to take. -/
def Event.fits (config : Configuration) (event : Event) : Bool :=
  config.keeps event.directoryNames &&
    event.file?.all fun record => config.extensions.contains (extensionOf record.name)

lemma Configuration.keeps_concat (config : Configuration) (names : List Text) (name : Text) :
    config.keeps (names ++ [name]) = (config.keeps names && !config.ignores name) := by
  simp [keeps]

namespace Configuration.Narrows

variable {narrow wide : Configuration}

lemma ignores (narrows : Narrows narrow wide) {name : Text} (kept : narrow.ignores name = false) :
    wide.ignores name = false := by
  rw [Bool.eq_false_iff, Configuration.ignores, ne_eq, TextSet.contains_iff] at kept ⊢
  exact fun ignored => kept (narrows.ignored name ignored)

/-- Among the files that the wider configuration takes, the extension decides. -/
lemma allows (narrows : Narrows narrow wide) (name : Text) :
    narrow.allows name
      = (wide.allows name && narrow.extensions.contains (extensionOf name)) := by
  rw [Bool.eq_iff_iff]
  simp only [Configuration.allows, Bool.and_eq_true, TextSet.contains_iff]
  constructor
  · rintro ⟨some, taken⟩
    exact ⟨⟨some, narrows.extensions _ taken⟩, taken⟩
  · rintro ⟨⟨some, -⟩, taken⟩
    exact ⟨some, taken⟩

end Configuration.Narrows

namespace Source

variable {source : Source} {narrow wide : Configuration} {root : Text}

/-! ### The directories -/

lemma wantedDirectories_of_narrows (narrows : Configuration.Narrows narrow wide) (path : Text) :
    source.wantedDirectories narrow path
      = (source.wantedDirectories wide path).filter (!narrow.ignores ·) := by
  rw [wantedDirectories, wantedDirectories, List.filter_filter]
  apply List.filter_congr
  intro name _
  cases h : narrow.ignores name with
  | true => rfl
  | false => simp [narrows.ignores h]

lemma wantedFiles_of_narrows (narrows : Configuration.Narrows narrow wide) (path : Text) :
    source.wantedFiles narrow path
      = (source.wantedFiles wide path).filter fun name =>
          narrow.extensions.contains (extensionOf name) := by
  rw [wantedFiles, wantedFiles, List.filter_filter]
  apply List.filter_congr
  intro name _
  rw [narrows.allows, Bool.and_comm]

/-- The directories that are visited are those none of whose names is ignored. -/
lemma visited_of_narrows (narrows : Configuration.Narrows narrow wide) :
    source.visited narrow root = (source.visited wide root).filter narrow.keeps := by
  rw [visited, visited, List.filter_flatMap]
  congr 1
  funext depth
  apply Walk.level_filter rfl
  intro names
  simp only [narrow.keeps_concat, wantedDirectories_of_narrows narrows]
  cases narrow.keeps names <;> simp

/-! ### The events -/

lemma fits_fileRecord {names : List Text} (visits : source.Visits wide root names) {name : Text}
    (wanted : name ∈ source.wantedFiles wide (Walk.pathTo root names)) (content : Text) :
    (Event.file ((Walk.itemAt root names).fileRecord name content)).fits narrow
      = (narrow.keeps names && narrow.extensions.contains (extensionOf name)) := by
  rw [Event.fits, Event.directoryNames, names_eq_of_lists visits (mem_wantedFiles.mp wanted).1 rfl,
    List.dropLast_concat]
  rfl

lemma fits_directoryRecord {names : List Text} (visits : source.Visits wide root names)
    {name : Text} (wanted : name ∈ source.wantedDirectories wide (Walk.pathTo root names)) :
    (Event.directory ⟨Walk.placeOf names, name⟩).fits narrow
      = (narrow.keeps names && !narrow.ignores name) := by
  rw [Event.fits, Event.directoryNames,
    names_eq_of_lists visits (mem_wantedDirectories.mp wanted).1 rfl, narrow.keeps_concat]
  exact Bool.and_true _

lemma filter_fits_of_not_keeps (mode : Mode) {names : List Text}
    (visits : source.Visits wide root names) (h : narrow.keeps names = false) :
    (Walk.visit source wide mode (Walk.itemAt root names)).events.filter (Event.fits narrow)
      = [] := by
  apply List.filter_eq_nil_iff.mpr
  intro event mem
  rcases mem_visit_events.mp mem with ⟨-, name, wanted, content, -, rfl⟩ | ⟨name, wanted, rfl⟩
  · simp [fits_fileRecord visits wanted, h]
  · simp [fits_directoryRecord visits wanted, h]

lemma filter_fits_of_keeps (narrows : Configuration.Narrows narrow wide) (mode : Mode)
    {names : List Text} (visits : source.Visits wide root names) (h : narrow.keeps names = true) :
    (Walk.visit source wide mode (Walk.itemAt root names)).events.filter (Event.fits narrow)
      = (Walk.visit source narrow mode (Walk.itemAt root names)).events := by
  rw [visit_events, visit_events, List.filter_append, wantedFiles_of_narrows narrows,
    wantedDirectories_of_narrows narrows]
  congr 1
  · split
    · rfl
    · rw [List.filter_filterMap, List.filterMap_filter]
      apply List.filterMap_congr
      intro name wanted
      cases source.contentFor mode (Path.join (Walk.itemAt root names).directory name) with
      | none => simp
      | some content =>
        rw [Option.map_some, Option.filter_some, fits_fileRecord visits wanted, h, Bool.true_and]
  · rw [List.filter_map]
    congr 1
    apply List.filter_congr
    intro name wanted
    exact (fits_directoryRecord visits wanted).trans (by rw [h, Bool.true_and])

/-- What fits of the events of a directory. -/
lemma filter_fits_visit (narrows : Configuration.Narrows narrow wide) (mode : Mode)
    {names : List Text} (visits : source.Visits wide root names) :
    (Walk.visit source wide mode (Walk.itemAt root names)).events.filter (Event.fits narrow)
      = if narrow.keeps names then
          (Walk.visit source narrow mode (Walk.itemAt root names)).events
        else [] := by
  cases h : narrow.keeps names with
  | true => exact filter_fits_of_keeps narrows mode visits h
  | false => exact filter_fits_of_not_keeps mode visits h

/-- A narrower configuration shows the events that fit it. -/
theorem walk_of_narrows (narrows : Configuration.Narrows narrow wide) (source : Source)
    (mode : Mode) (root : Text) :
    Walk.events (source.walk narrow mode root)
      = (Walk.events (source.walk wide mode root)).filter (Event.fits narrow) := by
  rw [events_walk, events_walk, visited_of_narrows narrows, Walk.flatMap_filter,
    List.filter_flatMap]
  apply List.flatMap_congr
  intro names mem
  exact (filter_fits_visit narrows mode (mem_visited.mp mem)).symm

/-- The sample tree without the files and the directory that a configuration does not want. -/
theorem walk_of_narrows_sampleTree :
    let narrow := Configuration.ofLists ["py".toList] ["tmp".toList, "more".toList]
    let wide := Configuration.ofLists ["c".toList, ".PY".toList] ["tmp".toList]
    narrow.Narrows wide ∧
      Walk.events ((FileSystem.sampleTree.source .ok).walk narrow .fullDump "/r".toList)
        = (Walk.events ((FileSystem.sampleTree.source .ok).walk wide .fullDump "/r".toList)).filter
            (Event.fits narrow) := by
  intro narrow wide
  have narrows : narrow.Narrows wide := by
    constructor
    · simp only [narrow, wide, Configuration.ofLists, TextSet.mem_ofList]
      decide
    · simp only [narrow, wide, Configuration.ofLists, TextSet.mem_ofList]
      decide
  exact ⟨narrows, walk_of_narrows narrows _ _ _⟩

end Source

end TreeDump
