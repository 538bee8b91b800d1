import Mathlib.Data.List.Nodup
import Mathlib.Tactic.Common
import TreeDump.Proofs.Walk.Losses
import TreeDump.Proofs.Walk.Queue
import TreeDump.Proofs.Walk.Reordering

/-!
# The account of a walk

A walk accounts for everything that it meets: each directory whose turn comes, each allowed file and
each subdirectory of a directory that is listed leaves exactly one trace, made of events, lines in
the report, and directories for the queue. The traces, one after another, are all that a walk leaves
behind, and none of them repeats another.
-/

namespace TreeDump

namespace Log.Entry

/-- Does the entry account for something that a walk has met? The others tell how a file was read,
or of an entry that is neither a file nor a directory. -/
def accounts : Entry → Bool
  | .sourceFound _ | .ignoredDirectory _ | .unreadableDirectory _ _ | .unreadableFile _ _ => true
  | _ => false

/-- The path of a file that is reported as found. -/
def found? : Entry → Option Text
  | .sourceFound path => some path
  | _ => none

end Log.Entry

namespace Walk

/-- Something that a walk meets: a directory whose turn has come, or an allowed file or a
subdirectory of a directory that has been listed. -/
inductive Encounter
  | directory (names : List Text)
  | file (names : List Text) (name : Text)
  | subdirectory (names : List Text) (name : Text)

/-- What is left of an encounter: events, lines in the report, and directories in the queue. -/
structure Trace where
  events : List Event
  lines : List Log.Entry
  queued : List Item

namespace Encounter

variable (source : Source) (config : Configuration) (root : Text)

/-- Does a walk come to this? -/
def Occurs : Encounter → Prop
  | .directory names => source.Visits config root names
  | .file names name =>
    source.Visits config root names ∧ source.Lists (pathTo root names) name .file ∧
      config.allows name = true
  | .subdirectory names name =>
    source.Visits config root names ∧ source.Lists (pathTo root names) name .directory

/-- The trace of an encounter. A directory leaves an error or nothing of its own, a file its record
and the line that it was found or an error, a subdirectory its record and a place in the queue or
the line that it is ignored. -/
def trace : Encounter → Trace
  | .directory names =>
    match source.list (pathTo root names) with
    | .error cause => ⟨[], [.unreadableDirectory (pathTo root names) cause], []⟩
    | .ok _ => ⟨[], [], []⟩
  | .file names name =>
    match (source.read (pathTo root (names ++ [name]))).content with
    | .ok content =>
      ⟨[.file ⟨displayPath (names ++ [name]), content, placeOf names, name⟩],
        [.sourceFound (displayPath (names ++ [name]))], []⟩
    | .error cause => ⟨[], [.unreadableFile (pathTo root (names ++ [name])) cause], []⟩
  | .subdirectory names name =>
    if config.ignores name then
      ⟨[], [.ignoredDirectory (displayPath (names ++ [name]))], []⟩
    else ⟨[.directory ⟨placeOf names, name⟩], [], [itemAt root (names ++ [name])]⟩

/-- The directory of an encounter with a directory. -/
def directory? : Encounter → Option (List Text)
  | .directory names => some names
  | .file _ _ | .subdirectory _ _ => none

/-- The names that lead to what is met. -/
def names : Encounter → List Text
  | .directory names => names
  | .file names name | .subdirectory names name => names ++ [name]

/-- The kind of an entry that is met; a directory whose turn has come has none. -/
def kind? : Encounter → Option EntryKind
  | .directory _ => none
  | .file _ _ => some .file
  | .subdirectory _ _ => some .directory

/-- The event shows what is met. -/
inductive Shown : Encounter → Event → Prop
  | file {names : List Text} {name content : Text} :
      Shown (.file names name)
        (.file ⟨displayPath (names ++ [name]), content, placeOf names, name⟩)
  | subdirectory {names : List Text} {name : Text} :
      Shown (.subdirectory names name) (.directory ⟨placeOf names, name⟩)

/-- The line tells of what is met. -/
inductive Told (root : Text) : Encounter → Log.Entry → Prop
  | unlisted {names : List Text} {cause : FileError} :
      Told root (.directory names) (.unreadableDirectory (pathTo root names) cause)
  | found {names : List Text} {name : Text} :
      Told root (.file names name) (.sourceFound (displayPath (names ++ [name])))
  | unread {names : List Text} {name : Text} {cause : Failure} :
      Told root (.file names name) (.unreadableFile (pathTo root (names ++ [name])) cause)
  | ignored {names : List Text} {name : Text} :
      Told root (.subdirectory names name) (.ignoredDirectory (displayPath (names ++ [name])))

variable {source config root}

lemma Occurs.isName {e : Encounter} (h : e.Occurs source config root) :
    ∀ name ∈ e.names, FileSystem.isName name = true := by
  cases e with
  | directory names => exact h.1.isName
  | file names name =>
    obtain ⟨visits, listed, -⟩ := h
    exact List.forall_mem_append.mpr
      ⟨visits.1.isName, by simpa using Source.isName_of_lists listed⟩
  | subdirectory names name =>
    obtain ⟨visits, listed⟩ := h
    exact List.forall_mem_append.mpr
      ⟨visits.1.isName, by simpa using Source.isName_of_lists listed⟩

lemma shown_of_mem_events {e : Encounter} {event : Event}
    (mem : event ∈ (e.trace source config root).events) : e.Shown event := by
  cases e with
  | directory names =>
    rw [trace] at mem
    split at mem <;> cases mem
  | file names name =>
    rw [trace] at mem
    split at mem
    · rw [List.mem_singleton.mp mem]
      exact .file
    · cases mem
  | subdirectory names name =>
    rw [trace] at mem
    split at mem
    · cases mem
    · rw [List.mem_singleton.mp mem]
      exact .subdirectory

lemma told_of_mem_lines {e : Encounter} {line : Log.Entry}
    (mem : line ∈ (e.trace source config root).lines) : e.Told root line := by
  cases e with
  | directory names =>
    rw [trace] at mem
    split at mem
    · rw [List.mem_singleton.mp mem]
      exact .unlisted
    · cases mem
  | file names name =>
    rw [trace] at mem
    split at mem <;> rw [List.mem_singleton.mp mem]
    · exact .found
    · exact .unread
  | subdirectory names name =>
    rw [trace] at mem
    split at mem
    · rw [List.mem_singleton.mp mem]
      exact .ignored
    · cases mem

variable {e e' : Encounter}

lemma eq_of_names (kind : e.kind? = e'.kind?) (names : e.names = e'.names) : e = e' := by
  cases e <;> cases e' <;> simp_all [kind?, Encounter.names]

/-- No event shows two things. -/
lemma eq_of_shown {event event' : Event} (occurs : e.Occurs source config root)
    (occurs' : e'.Occurs source config root) (shown : e.Shown event) (shown' : e'.Shown event')
    (same : event = event') : e = e' := by
  have path : ∀ {e : Encounter} {event : Event}, e.Shown event →
      event.path = displayPath e.names := by
    rintro _ _ (_ | _)
    · rfl
    · exact placeOf_append _ _
  apply eq_of_names
  · cases shown <;> cases shown' <;> first | rfl | cases same
  · apply displayPath_injective occurs.isName occurs'.isName
    rw [← path shown, ← path shown', same]

/-- No line tells of two things. -/
lemma eq_of_told {line line' : Log.Entry} (occurs : e.Occurs source config root)
    (occurs' : e'.Occurs source config root) (told : e.Told root line) (told' : e'.Told root line')
    (same : line = line') : e = e' := by
  have byPath := @pathTo_injective root _ _ occurs.isName occurs'.isName
  have byDisplay := displayPath_injective occurs.isName occurs'.isName
  apply eq_of_names
  · cases told <;> cases told' <;> first | rfl | cases same
  · cases told with
    | unlisted =>
      cases told' with
      | unlisted => exact byPath (Log.Entry.unreadableDirectory.inj same).1
      | _ => cases same
    | found =>
      cases told' with
      | found => exact byDisplay (Log.Entry.sourceFound.inj same)
      | _ => cases same
    | unread =>
      cases told' with
      | unread => exact byPath (Log.Entry.unreadableFile.inj same).1
      | _ => cases same
    | ignored =>
      cases told' with
      | ignored => exact byDisplay (Log.Entry.ignoredDirectory.inj same)
      | _ => cases same

end Encounter

/-- What an outcome leaves behind, of its report only what accounts for the entry. -/
def Outcome.trace (outcome : Outcome) : Trace :=
  ⟨outcome.events, outcome.log.filter (·.accounts), outcome.children⟩

/-- What a visit leaves behind: the trace of its listing, and those of its outcomes. -/
def Visit.traces (visit : Visit) : List Trace :=
  ⟨[], visit.log.filter (·.accounts), []⟩ :: visit.outcomes.map Outcome.trace

lemma events_eq_traces (visits : List Visit) :
    events visits = (visits.flatMap Visit.traces).flatMap Trace.events := by
  simp only [events, Visit.traces, Outcome.trace, List.flatMap_assoc, List.flatMap_cons,
    List.flatMap_map, List.nil_append]
  rfl

lemma lines_eq_traces (visits : List Visit) :
    (report visits).filter (·.accounts) = (visits.flatMap Visit.traces).flatMap Trace.lines := by
  simp only [report, Visit.report, Visit.traces, Outcome.trace, List.flatMap_assoc,
    List.flatMap_cons, List.flatMap_map, List.filter_flatMap, List.filter_append]

lemma children_eq_traces (visits : List Visit) :
    visits.flatMap Visit.children = (visits.flatMap Visit.traces).flatMap Trace.queued := by
  simp only [Visit.traces, Outcome.trace, List.flatMap_assoc, List.flatMap_cons, List.flatMap_map,
    List.nil_append]
  rfl

end Walk

namespace Source

variable {source : Source} {config : Configuration} {root : Text}

/-- Reading leaves the account to the walk: it reports none of the lines by which a walk accounts
for what it meets. -/
def ReadsApart (source : Source) : Prop :=
  ∀ path, ∀ entry ∈ (source.read path).log, entry.accounts = false

/-! ### The encounters -/

/-- The names of all subdirectories of a directory. -/
def subdirectories (source : Source) (path : Text) : List Text :=
  (Listing.ofEntries path (source.entries path)).directories

lemma mem_subdirectories {path name : Text} :
    name ∈ source.subdirectories path ↔ source.Lists path name .directory := by
  simp only [subdirectories, Listing.ofEntries, Text.mem_sort, mem_filterMap_nameIf, lists_iff]

/-- What a walk meets in a directory. -/
def entriesMet (source : Source) (config : Configuration) (root : Text) (names : List Text) :
    List Walk.Encounter :=
  (source.wantedFiles config (Walk.pathTo root names)).map (.file names)
    ++ (source.subdirectories (Walk.pathTo root names)).map (.subdirectory names)

/-- What a walk meets, in its order. -/
def encounters (source : Source) (config : Configuration) (root : Text) : List Walk.Encounter :=
  (source.visited config root).flatMap fun names =>
    .directory names :: source.entriesMet config root names

lemma mem_encounters {e : Walk.Encounter} :
    e ∈ source.encounters config root ↔ e.Occurs source config root := by
  simp only [encounters, entriesMet, List.mem_flatMap, mem_visited, List.mem_cons, List.mem_append,
    List.mem_map, mem_wantedFiles, mem_subdirectories]
  cases e <;> simp [Walk.Encounter.Occurs, and_assoc]

lemma nodup_encounters : (source.encounters config root).Nodup := by
  refine List.nodup_flatMap.mpr ⟨fun names _ => ?_, ?_⟩
  · have files : (source.wantedFiles config (Walk.pathTo root names)).Nodup :=
      (pairwise_wantedFiles _).imp And.right
    have folders : (source.subdirectories (Walk.pathTo root names)).Nodup :=
      (pairwise_sort_nameIf _ .directory).imp And.right
    refine List.nodup_cons.mpr ⟨by simp [entriesMet], List.nodup_append.mpr ⟨?_, ?_, ?_⟩⟩
    · exact files.map fun _ _ same => (Walk.Encounter.file.inj same).2
    · exact folders.map fun _ _ same => (Walk.Encounter.subdirectory.inj same).2
    · simp
  · -- what is met in two directories differs in the names that lead there
    apply nodup_visited.imp
    intro names others different e here there
    simp only [entriesMet, List.mem_cons, List.mem_append, List.mem_map] at here there
    cases e <;> simp_all

lemma directories_encounters :
    (source.encounters config root).filterMap Walk.Encounter.directory?
      = source.visited config root := by
  simp [encounters, entriesMet, List.filterMap_flatMap, List.filterMap_append, List.filterMap_map,
    Walk.Encounter.directory?, Function.comp_def]

/-! ### One visit -/

lemma ReadsApart.filter_log (apart : source.ReadsApart) (path : Text) :
    (source.read path).log.filter (·.accounts) = [] := by
  apply List.filter_eq_nil_iff.mpr
  intro entry mem
  simp [apart path entry mem]

lemma ReadsApart.trace_visitFile (apart : source.ReadsApart) (config : Configuration)
    (names : List Text) (name : Text) :
    (Walk.visitFile source .fullDump (Walk.itemAt root names) name).trace
      = (Walk.Encounter.file names name).trace source config root := by
  simp only [Walk.visitFile, Walk.Encounter.trace, if_true, Walk.itemAt_directory,
    Walk.itemAt_place, Walk.pathTo_concat, ← Walk.placeOf_append]
  cases (source.read (Path.join (Walk.pathTo root names) name)).content with
  | ok content =>
    rw [Walk.Outcome.trace, List.filter_append, apart.filter_log]
    rfl
  | error cause =>
    rw [Walk.Outcome.trace, List.filter_append, apart.filter_log]
    rfl

lemma trace_visitDirectory (source : Source) (names : List Text) (name : Text) :
    (Walk.visitDirectory config (Walk.itemAt root names) name).trace
      = (Walk.Encounter.subdirectory names name).trace source config root := by
  rw [Walk.visitDirectory, Walk.Encounter.trace]
  split <;>
    simp [Walk.Outcome.trace, Log.Entry.accounts, Walk.placeOf_append, Walk.itemAt_concat]

/-- The entries that are met leave the outcomes of the visit behind. -/
lemma ReadsApart.traces_outcomes (apart : source.ReadsApart) (names : List Text) :
    (Walk.visit source config .fullDump (Walk.itemAt root names)).outcomes.map Walk.Outcome.trace
      = (source.entriesMet config root names).map (·.trace source config root) := by
  simp only [Walk.visit, Walk.itemAt_directory, entriesMet, wantedFiles, subdirectories, entries]
  cases source.list (Walk.pathTo root names) with
  | error cause => simp [Listing.ofEntries, Text.sort]
  | ok entries =>
    simp [Function.comp_def, apart.trace_visitFile config, trace_visitDirectory source]

/-- The directory itself leaves its failure behind, if it cannot be listed. -/
lemma trace_listing (names : List Text) :
    ⟨[], (Walk.visit source config .fullDump (Walk.itemAt root names)).log.filter (·.accounts), []⟩
      = (Walk.Encounter.directory names).trace source config root := by
  simp only [Walk.visit, Walk.itemAt_directory, Walk.Encounter.trace]
  cases source.list (Walk.pathTo root names) with
  | error cause => rfl
  | ok entries =>
    simp only [Listing.ofEntries, Walk.Trace.mk.injEq, true_and, and_true, List.filter_eq_nil_iff,
      List.mem_filterMap]
    rintro line ⟨entry, -, h⟩
    rw [DirectoryEntry.log?] at h
    split at h <;> cases h
    simp [Log.Entry.accounts]

lemma ReadsApart.traces_visit (apart : source.ReadsApart) (names : List Text) :
    (Walk.visit source config .fullDump (Walk.itemAt root names)).traces
      = (.directory names :: source.entriesMet config root names).map
          (·.trace source config root) := by
  rw [Walk.Visit.traces, trace_listing, apart.traces_outcomes, List.map_cons]

/-! ### The whole walk -/

/-- The traces of a walk are those of its encounters. -/
lemma ReadsApart.traces_walk (apart : source.ReadsApart) :
    (source.walk config .fullDump root).flatMap Walk.Visit.traces
      = (source.encounters config root).map (·.trace source config root) := by
  rw [walk_eq_map, List.flatMap_map, encounters, List.map_flatMap]
  simp only [apart.traces_visit]

/-- Nothing comes twice in the traces of what a walk meets, if one thing can be told from another by
it and no trace repeats it. -/
lemma nodup_traces {α : Type} {part : Walk.Trace → List α}
    (single : ∀ e : Walk.Encounter, (part (e.trace source config root)).Nodup)
    (apart : ∀ {e e' : Walk.Encounter}, e.Occurs source config root → e'.Occurs source config root →
      ∀ a ∈ part (e.trace source config root), a ∈ part (e'.trace source config root) → e = e') :
    (((source.encounters config root).map (·.trace source config root)).flatMap part).Nodup := by
  rw [List.flatMap_map]
  refine List.nodup_flatMap.mpr ⟨fun e _ => single e, ?_⟩
  apply nodup_encounters.imp_of_mem
  intro e e' mem mem' different a here there
  exact different (apart (mem_encounters.mp mem) (mem_encounters.mp mem') a here there)

lemma ReadsApart.nodup_events (apart : source.ReadsApart) :
    (Walk.events (source.walk config .fullDump root)).Nodup := by
  rw [Walk.events_eq_traces, apart.traces_walk]
  apply nodup_traces
  · intro e
    cases e <;> rw [Walk.Encounter.trace] <;> split <;> simp
  · intro e e' occurs occurs' event here there
    exact Walk.Encounter.eq_of_shown occurs occurs' (Walk.Encounter.shown_of_mem_events here)
      (Walk.Encounter.shown_of_mem_events there) rfl

lemma ReadsApart.nodup_lines (apart : source.ReadsApart) :
    ((Walk.report (source.walk config .fullDump root)).filter (·.accounts)).Nodup := by
  rw [Walk.lines_eq_traces, apart.traces_walk]
  apply nodup_traces
  · intro e
    cases e <;> rw [Walk.Encounter.trace] <;> split <;> simp
  · intro e e' occurs occurs' line here there
    exact Walk.Encounter.eq_of_told occurs occurs' (Walk.Encounter.told_of_mem_lines here)
      (Walk.Encounter.told_of_mem_lines there) rfl

/-- The files that are reported as found are those that are shown. -/
lemma ReadsApart.found_eq (apart : source.ReadsApart) :
    (Walk.report (source.walk config .fullDump root)).filterMap Log.Entry.found?
      = ((Walk.events (source.walk config .fullDump root)).filterMap Event.file?).map
          FileRecord.path := by
  have single : ∀ e : Walk.Encounter,
      (e.trace source config root).lines.filterMap Log.Entry.found?
        = ((e.trace source config root).events.filterMap Event.file?).map FileRecord.path := by
    intro e
    cases e <;> rw [Walk.Encounter.trace] <;> split <;> rfl
  have accounted : (Walk.report (source.walk config .fullDump root)).filterMap Log.Entry.found?
      = ((Walk.report (source.walk config .fullDump root)).filter (·.accounts)).filterMap
          Log.Entry.found? := by
    rw [List.filterMap_filter]
    apply List.filterMap_congr
    intro line _
    cases line <;> rfl
  rw [accounted, Walk.lines_eq_traces, Walk.events_eq_traces, apart.traces_walk]
  simp only [List.flatMap_map, List.filterMap_flatMap, List.map_flatMap, single]

/-! ### The queue -/

/-- The directories that a walk takes from its queue, in this order. -/
def taken (source : Source) (config : Configuration) (mode : Mode) (root : Text) :
    List Walk.Item :=
  (source.walk config mode root).map Walk.Visit.item

lemma taken_eq_map (source : Source) (config : Configuration) (mode : Mode) (root : Text) :
    source.taken config mode root = (source.visited config root).map (Walk.itemAt root) := by
  rw [taken, walk_eq_map, List.map_map]
  apply List.map_congr_left
  intro names _
  exact visit_item source config mode _

lemma nodup_taken (source : Source) (config : Configuration) (mode : Mode) (root : Text) :
    ((source.taken config mode root).map Walk.Item.directory).Nodup := by
  rw [taken, List.map_map]
  exact source.nodup_listed config mode root

/-- What a walk takes from its queue are the root and the directories that it has put there. -/
lemma taken_eq_queued (mode : Mode) :
    source.taken config mode root
      = Walk.itemAt root [] :: (source.walk config mode root).flatMap Walk.Visit.children :=
  (drains_walk source config mode root).items_eq (visit_item source config mode)

/-- A subdirectory that is not ignored is taken from the queue once, after its directory. -/
lemma taken_later (mode : Mode) {names : List Text} {name : Text}
    (visits : source.Visits config root (names ++ [name])) :
    ∃ before later,
      source.taken config mode root = before ++ Walk.itemAt root names :: later ∧
        later.count (Walk.itemAt root (names ++ [name])) = 1 ∧
        Walk.itemAt root (names ++ [name]) ∉ before ++ [Walk.itemAt root names] := by
  obtain ⟨above, wanted⟩ := visits_concat.mp visits
  obtain ⟨before, later, split⟩ := List.append_of_mem (mem_visited.mpr above)
  have walked : source.walk config mode root
      = before.map (fun names => Walk.visit source config mode (Walk.itemAt root names))
        ++ Walk.visit source config mode (Walk.itemAt root names)
          :: later.map (fun names => Walk.visit source config mode (Walk.itemAt root names)) := by
    rw [walk_eq_map, split, List.map_append, List.map_cons]
  have child : Walk.itemAt root (names ++ [name])
      ∈ (Walk.visit source config mode (Walk.itemAt root names)).children := by
    rw [visit_itemAt_children]
    exact List.mem_map_of_mem (mem_wantedDirectories.mpr wanted)
  have mem := (drains_walk source config mode root).child_mem_later
    (visit_item source config mode) walked child
  have taken := source.taken_eq_map config mode root
  rw [split, List.map_append, List.map_cons] at taken
  simp only [List.map_map, Function.comp_def, visit_item] at mem
  -- nothing is taken twice, so that the place found there is the only one
  have nodup := (source.nodup_taken config mode root).of_map
  rw [taken, ← List.singleton_append, ← List.append_assoc] at nodup
  obtain ⟨-, once, apart⟩ := List.nodup_append.mp nodup
  exact ⟨_, _, taken, List.count_eq_one_of_mem once mem, fun early => apart _ early _ mem rfl⟩

/-! ### The account -/

/-- Some encounters, in this order, are the account of a walk. -/
structure Accounts (source : Source) (config : Configuration) (root : Text)
    (encounters : List Walk.Encounter) : Prop where
  nodup : encounters.Nodup
  /-- they are all that the walk comes to -/
  mem_iff : ∀ e, e ∈ encounters ↔ e.Occurs source config root
  /-- the walk goes on until the queue is empty -/
  drains : Walk.Drains (Walk.visit source config .fullDump) [Walk.itemAt root []]
    (source.walk config .fullDump root)
  /-- each directory that is taken from the queue is met -/
  taken_eq : source.taken config .fullDump root
    = (encounters.filterMap Walk.Encounter.directory?).map (Walk.itemAt root)
  nodup_taken : ((source.taken config .fullDump root).map Walk.Item.directory).Nodup
  /-- and no other is taken than the root and those that have been put there -/
  taken_eq_queued : source.taken config .fullDump root
    = Walk.itemAt root []
      :: (encounters.map (·.trace source config root)).flatMap Walk.Trace.queued
  /-- a subdirectory that is put there is taken once, later than the directory that it is met in -/
  taken_later : ∀ names name, .subdirectory names name ∈ encounters → config.ignores name = false →
    ∃ before later,
      source.taken config .fullDump root = before ++ Walk.itemAt root names :: later ∧
        later.count (Walk.itemAt root (names ++ [name])) = 1 ∧
        Walk.itemAt root (names ++ [name]) ∉ before ++ [Walk.itemAt root names]
  /-- the events are those of the encounters -/
  events_eq : Walk.events (source.walk config .fullDump root)
    = (encounters.map (·.trace source config root)).flatMap Walk.Trace.events
  nodup_events : (Walk.events (source.walk config .fullDump root)).Nodup
  /-- and so are the lines -/
  lines_eq : (Walk.report (source.walk config .fullDump root)).filter (·.accounts)
    = (encounters.map (·.trace source config root)).flatMap Walk.Trace.lines
  nodup_lines : ((Walk.report (source.walk config .fullDump root)).filter (·.accounts)).Nodup
  /-- files are reported as they are shown -/
  found_eq : (Walk.report (source.walk config .fullDump root)).filterMap Log.Entry.found?
    = ((Walk.events (source.walk config .fullDump root)).filterMap Event.file?).map FileRecord.path

/-- A walk accounts for everything that it meets. A directory is listed, or it is reported as
unreadable and nothing comes of it. A file is shown and reported as found, or it is reported as
unreadable. A subdirectory is shown and visited later, or it is reported as ignored. Each of these
comes exactly once, and nothing else does. -/
theorem walk_accounts {source : Source} (apart : source.ReadsApart) (config : Configuration)
    (root : Text) : ∃ encounters, source.Accounts config root encounters := by
  refine ⟨source.encounters config root, ?_⟩
  exact {
    nodup := nodup_encounters
    mem_iff := fun _ => mem_encounters
    drains := drains_walk source config .fullDump root
    taken_eq := by rw [directories_encounters, Source.taken_eq_map]
    nodup_taken := source.nodup_taken config .fullDump root
    taken_eq_queued := by
      rw [Source.taken_eq_queued, Walk.children_eq_traces, apart.traces_walk]
    taken_later := fun names name met kept => by
      obtain ⟨visits, listed⟩ := mem_encounters.mp met
      exact source.taken_later .fullDump (visits_concat.mpr ⟨visits, listed, kept⟩)
    events_eq := by rw [Walk.events_eq_traces, apart.traces_walk]
    nodup_events := apart.nodup_events
    lines_eq := by rw [Walk.lines_eq_traces, apart.traces_walk]
    nodup_lines := apart.nodup_lines
    found_eq := apart.found_eq }

end Source

namespace FileSystem

/-- Reading from a file system reports nothing that a walk does. -/
lemma readsApart_source (fs : FileSystem) (render : NotebookRenderer) :
    (fs.source render).ReadsApart := by
  intro path entry mem
  rcases log_readContent mem with rfl | warning
  · rfl
  · cases entry <;> first | rfl | cases warning

/-- The sample tree, with a directory that cannot be listed and a file that cannot be read. -/
def sampleDenied : FileSystem :=
  { sampleTree with denied := [(.reading, "/r/src".toList), (.opening, "/r/b.py".toList)] }

/-- The turn of the directory comes, and it leaves an error. -/
theorem walk_accounts_sampleDenied :
    let config := Configuration.ofLists ["py".toList] ["tmp".toList]
    (sampleDenied.source .ok).ReadsApart ∧
      ∃ encounters, (sampleDenied.source .ok).Accounts config "/r".toList encounters ∧
        .unreadableDirectory "/r/src".toList (.system .denied "/r/src".toList)
          ∈ Walk.report ((sampleDenied.source .ok).walk config .fullDump "/r".toList) := by
  intro config
  have apart := sampleDenied.readsApart_source .ok
  obtain ⟨encounters, accounts⟩ := Source.walk_accounts apart config "/r".toList
  have listed : (sampleDenied.source .ok).Lists "/r".toList "src".toList .directory :=
    ⟨_, rfl, List.mem_of_getElem? (i := 2) rfl⟩
  have met : .directory ["src".toList] ∈ encounters :=
    (accounts.mem_iff _).mpr ⟨.down .root listed, by decide +kernel⟩
  have line : .unreadableDirectory "/r/src".toList (.system .denied "/r/src".toList)
      ∈ (Walk.report ((sampleDenied.source .ok).walk config .fullDump "/r".toList)).filter
          (·.accounts) := by
    rw [accounts.lines_eq, List.flatMap_map]
    exact List.mem_flatMap.mpr ⟨_, met, by decide +kernel⟩
  exact ⟨apart, encounters, accounts, (List.mem_filter.mp line).1⟩

end FileSystem

end TreeDump
