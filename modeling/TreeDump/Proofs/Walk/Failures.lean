import Mathlib.Data.List.Infix
import Mathlib.Tactic.Common
import TreeDump.Proofs.Walk.Modes

/-!
# Failures of a walk

When some paths of a tree are lost, because a directory cannot be listed or a file cannot be read,
a walk goes on with what is left: it shows what it would have shown otherwise, without the lost
files and without anything below a lost directory.
-/

namespace TreeDump

namespace Walk

/-! ### What is reached -/

/-- Is no directory above the one that the names lead to lost? -/
def Reached (lost : Text → Bool) (root : Text) (names : List Text) : Prop :=
  ∀ above ∈ names.inits, above ≠ names → lost (pathTo root above) = false

instance (lost : Text → Bool) (root : Text) : DecidablePred (Reached lost root) := fun names =>
  inferInstanceAs (Decidable (∀ above ∈ names.inits, above ≠ names → _))

variable {lost : Text → Bool} {root : Text}

@[simp] lemma reached_nil : Reached lost root [] := by
  simp [Reached]

@[simp] lemma reached_concat {names : List Text} {name : Text} :
    Reached lost root (names ++ [name]) ↔
      Reached lost root names ∧ lost (pathTo root names) = false := by
  simp only [Reached, List.mem_inits, List.prefix_concat_iff]
  constructor
  · intro h
    have below : ∀ above, above <+: names → lost (pathTo root above) = false := by
      intro above hprefix
      apply h above (.inr hprefix)
      rintro rfl
      exact absurd hprefix.length_le (by simp)
    exact ⟨fun above hprefix _ => below above hprefix, below names (List.prefix_refl _)⟩
  · rintro ⟨above, this⟩ others (same | hprefix) different
    · exact absurd same different
    · by_cases h : others = names
      · rwa [h]
      · exact above others hprefix h

end Walk

/-- Is the event left when some paths are lost? It is not when it shows a lost file or lies below a
lost directory. -/
def Event.Survives (lost : Text → Bool) (root : Text) (event : Event) : Prop :=
  Walk.Reached lost root event.names ∧
    (event.file?.isSome → lost (Walk.pathTo root event.names) = false)

instance (lost : Text → Bool) (root : Text) : DecidablePred (Event.Survives lost root) :=
  fun _ => inferInstanceAs (Decidable (_ ∧ _))

namespace Source

/-- The source `failing` is `source` with some paths lost: they can neither be listed nor read, and
all other paths are as before. -/
structure FailsAt (failing source : Source) (lost : Text → Bool) : Prop where
  list_of_lost : ∀ path, lost path = true → ∃ e p, failing.list path = .error (.system e p)
  read_of_lost : ∀ path, lost path = true → ∃ cause, (failing.read path).content = .error cause
  list_eq : ∀ path, lost path = false → failing.list path = source.list path
  read_eq : ∀ path, lost path = false → failing.read path = source.read path

variable {failing source : Source} {lost : Text → Bool} {config : Configuration} {root : Text}

/-- The source with some paths denied. -/
def deny (source : Source) (lost : Text → Bool) : Source where
  list path := if lost path then .error (.system .denied path) else source.list path
  read path := if lost path then ⟨.error (.file (.system .denied path)), []⟩ else source.read path
  isName_of_list h := by
    split at h
    · cases h
    · exact source.isName_of_list h
  nodup_of_list h := by
    split at h
    · cases h
    · exact source.nodup_of_list h
  list_long path h := by
    split
    · exact ⟨_, rfl⟩
    · exact source.list_long path h

lemma failsAt_deny (source : Source) (lost : Text → Bool) :
    (source.deny lost).FailsAt source lost where
  list_of_lost path h := ⟨.denied, path, by simp [deny, h]⟩
  read_of_lost path h := ⟨.file (.system .denied path), by simp [deny, h]⟩
  list_eq path h := by simp [deny, h]
  read_eq path h := by simp [deny, h]

/-! ### The directories -/

namespace FailsAt

lemma entries (fails : failing.FailsAt source lost) (path : Text) :
    failing.entries path = if lost path then [] else source.entries path := by
  cases h : lost path with
  | true =>
    obtain ⟨e, p, refused⟩ := fails.list_of_lost path h
    simp [Source.entries, refused]
  | false => simp [Source.entries, fails.list_eq path h]

lemma wantedFiles (fails : failing.FailsAt source lost) (path : Text) :
    failing.wantedFiles config path
      = if lost path then [] else source.wantedFiles config path := by
  rw [Source.wantedFiles, fails.entries, Source.wantedFiles]
  split <;> simp [Listing.ofEntries, Text.sort]

lemma wantedDirectories (fails : failing.FailsAt source lost) (path : Text) :
    failing.wantedDirectories config path
      = if lost path then [] else source.wantedDirectories config path := by
  rw [Source.wantedDirectories, fails.entries, Source.wantedDirectories]
  split <;> simp [Listing.ofEntries, Text.sort]

lemma contentFor (fails : failing.FailsAt source lost) (path : Text) :
    failing.contentFor .fullDump path
      = if lost path then none else source.contentFor .fullDump path := by
  cases h : lost path with
  | true =>
    obtain ⟨cause, refused⟩ := fails.read_of_lost path h
    simp [Source.contentFor, refused, Except.toOption]
  | false => simp [Source.contentFor, fails.read_eq path h]

/-- The directories that are visited are those that are reached. -/
lemma visited (fails : failing.FailsAt source lost) :
    failing.visited config root
      = (source.visited config root).filter (Walk.Reached lost root ·) := by
  rw [Source.visited, Source.visited, List.filter_flatMap]
  congr 1
  funext depth
  apply Walk.level_filter (by simp)
  intro names
  rw [fails.wantedDirectories]
  -- whether a directory is reached does not depend on its own name
  by_cases reached : Walk.Reached lost root names
  · cases h : lost (Walk.pathTo root names) <;> simp [reached, h]
  · simp [reached]

end FailsAt

/-! ### The events -/

lemma survives_iff {names : List Text} (visits : source.Visits config root names) {name : Text}
    {kind : EntryKind} (listed : source.Lists (Walk.pathTo root names) name kind) {event : Event}
    (h : event.path = Walk.placeOf names ++ name) :
    event.Survives lost root ↔
      (Walk.Reached lost root names ∧ lost (Walk.pathTo root names) = false) ∧
        (event.file?.isSome → lost (Path.join (Walk.pathTo root names) name) = false) := by
  rw [Event.Survives, names_eq_of_lists visits listed h, Walk.reached_concat, Walk.pathTo_concat]

lemma survives_fileRecord {names : List Text} (visits : source.Visits config root names)
    {name : Text} (wanted : name ∈ source.wantedFiles config (Walk.pathTo root names))
    (content : Text) :
    (Event.file ((Walk.itemAt root names).fileRecord name content)).Survives lost root ↔
      (Walk.Reached lost root names ∧ lost (Walk.pathTo root names) = false) ∧
        lost (Path.join (Walk.pathTo root names) name) = false := by
  rw [survives_iff visits (mem_wantedFiles.mp wanted).1 rfl]
  simp [Event.file?]

lemma survives_directoryRecord {names : List Text} (visits : source.Visits config root names)
    {name : Text} (wanted : name ∈ source.wantedDirectories config (Walk.pathTo root names)) :
    (Event.directory ⟨Walk.placeOf names, name⟩).Survives lost root ↔
      Walk.Reached lost root names ∧ lost (Walk.pathTo root names) = false := by
  rw [survives_iff visits (mem_wantedDirectories.mp wanted).1 rfl]
  simp [Event.file?]

lemma filter_events_of_unlisted {names : List Text} (visits : source.Visits config root names)
    (h : ¬ (Walk.Reached lost root names ∧ lost (Walk.pathTo root names) = false)) :
    (Walk.visit source config .fullDump (Walk.itemAt root names)).events.filter
      (Event.Survives lost root ·) = [] := by
  apply List.filter_eq_nil_iff.mpr
  intro event mem
  rcases mem_visit_events.mp mem with ⟨-, name, wanted, content, -, rfl⟩ | ⟨name, wanted, rfl⟩
  · simp [survives_fileRecord visits wanted, h]
  · simp [survives_directoryRecord visits wanted, h]

namespace FailsAt

lemma filter_events_of_listed (fails : failing.FailsAt source lost) {names : List Text}
    (visits : source.Visits config root names)
    (h : Walk.Reached lost root names ∧ lost (Walk.pathTo root names) = false) :
    (Walk.visit source config .fullDump (Walk.itemAt root names)).events.filter
        (Event.Survives lost root ·)
      = (Walk.visit failing config .fullDump (Walk.itemAt root names)).events := by
  simp only [visit_events, List.filter_append, reduceCtorEq, if_false, Walk.itemAt_directory,
    Walk.itemAt_place, fails.wantedFiles, fails.wantedDirectories, h.2, Bool.false_eq_true]
  congr 1
  · rw [List.filter_filterMap]
    apply List.filterMap_congr
    intro name wanted
    rw [fails.contentFor]
    cases source.contentFor .fullDump (Path.join (Walk.pathTo root names) name) with
    | none => simp
    | some content =>
      simp only [Option.map_some, Option.filter_some, survives_fileRecord visits wanted, h]
      cases lost (Path.join (Walk.pathTo root names) name) <;> simp
  · apply List.filter_eq_self.mpr
    intro event mem
    obtain ⟨name, wanted, rfl⟩ := List.mem_map.mp mem
    simp [survives_directoryRecord visits wanted, h]

/-- What is left of the events of a directory. -/
lemma filter_events_visit (fails : failing.FailsAt source lost) {names : List Text}
    (visits : source.Visits config root names) :
    (Walk.visit source config .fullDump (Walk.itemAt root names)).events.filter
        (Event.Survives lost root ·)
      = if Walk.Reached lost root names then
          (Walk.visit failing config .fullDump (Walk.itemAt root names)).events
        else [] := by
  by_cases h : Walk.Reached lost root names ∧ lost (Walk.pathTo root names) = false
  · rw [fails.filter_events_of_listed visits h, if_pos h.1]
  · rw [filter_events_of_unlisted visits h]
    split
    · -- the directory itself is lost, so that it has no entries
      have gone : lost (Walk.pathTo root names) = true := by simp_all
      simp [visit_events, fails.wantedFiles, fails.wantedDirectories, gone]
    · rfl

/-- The events of a walk are what is left of those of a walk without losses. -/
lemma events (fails : failing.FailsAt source lost) :
    Walk.events (failing.walk config .fullDump root)
      = (Walk.events (source.walk config .fullDump root)).filter
          (Event.Survives lost root ·) := by
  rw [events_walk, events_walk, fails.visited, Walk.flatMap_filter, List.filter_flatMap]
  apply List.flatMap_congr
  intro names hnames
  simp [fails.filter_events_visit (mem_visited.mp hnames)]

end FailsAt

end Source

end TreeDump
