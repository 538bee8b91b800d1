import Mathlib.Data.List.Nodup
import Mathlib.Tactic.Common
import TreeDump.Proofs.Artifact.Outline
import TreeDump.Proofs.Reading
import TreeDump.Proofs.Walk.Failures

/-!
# Losses of a walk

What a walk cannot take and has to report: the directories that it reaches and cannot list, and the
files of listed directories that it cannot read. Each of them is reported once, with its cause, and
in a tree that is readable otherwise nothing else is reported as an error.
-/

namespace TreeDump

namespace Walk

/-- Something that a walk comes upon and has to leave out: a directory, or a file of a directory. -/
inductive Loss
  | directory (names : List Text)
  | file (names : List Text) (name : Text)

namespace Loss

/-- Is this what a walk loses? Directories that are not reached, and files in directories that are
not listed, are no losses of their own. -/
def Occurs (source : Source) (config : Configuration) (root : Text) (lost : Text → Bool) :
    Loss → Prop
  | .directory names =>
    source.Visits config root names ∧ Reached lost root names ∧ lost (pathTo root names) = true
  | .file names name =>
    source.Visits config root names ∧ Reached lost root (names ++ [name]) ∧
      source.Lists (pathTo root names) name .file ∧ config.allows name = true ∧
      lost (pathTo root (names ++ [name])) = true

/-- Does the entry report the loss, with its path and its cause? -/
def Reported (source : Source) (root : Text) : Loss → Log.Entry → Prop
  | .directory names, entry => ∃ cause, source.list (pathTo root names) = .error cause ∧
    entry = .unreadableDirectory (pathTo root names) cause
  | .file names name, entry => ∃ cause,
    (source.read (pathTo root (names ++ [name]))).content = .error cause ∧
    entry = .unreadableFile (pathTo root (names ++ [name])) cause

end Loss

/-- The entries of a report that tell of errors. -/
def errors (report : List Log.Entry) : List Log.Entry :=
  report.filter fun entry => entry.level = .error

lemma errors_append (report others : List Log.Entry) :
    errors (report ++ others) = errors report ++ errors others :=
  List.filter_append report others

lemma errors_flatMap {α : Type} (f : α → List Log.Entry) (l : List α) :
    errors (l.flatMap f) = l.flatMap fun a => errors (f a) :=
  List.filter_flatMap

end Walk

namespace Source

/-- Everything that a walk comes upon can be listed and read. -/
structure AllReadable (source : Source) (config : Configuration) (root : Text) : Prop where
  listed : ∀ names, source.Visits config root names →
    (source.list (Walk.pathTo root names)).isOk = true
  kinds : ∀ names, source.Visits config root names →
    ∀ entry ∈ source.entries (Walk.pathTo root names), entry.kind.isOk = true
  read : ∀ names name, source.Visits config root names →
    source.Lists (Walk.pathTo root names) name .file → config.allows name = true →
    source.readable (Walk.pathTo root (names ++ [name])) = true

/-- Reading reports no error of its own; that is left to the walk. -/
def ReadsQuietly (source : Source) : Prop :=
  ∀ path, ∀ entry ∈ (source.read path).log, entry.level ≠ .error

variable {failing source : Source} {lost : Text → Bool} {config : Configuration} {root : Text}

/-- It is enough to look at the entries of a list of directories that holds the root, and with each
directory the directories in it. -/
lemma AllReadable.of_closed (tree : List (List Text)) (root_mem : [] ∈ tree)
    (closed : ∀ names ∈ tree, (source.list (Walk.pathTo root names)).isOk = true ∧
      ∀ entry ∈ source.entries (Walk.pathTo root names), entry.kind.isOk = true ∧
        (entry.kind.toOption = some .directory → names ++ [entry.name] ∈ tree) ∧
        (entry.kind.toOption = some .file →
          source.readable (Walk.pathTo root (names ++ [entry.name])) = true)) :
    source.AllReadable config root := by
  have inTree : ∀ {names}, source.Visits config root names → names ∈ tree := fun visits =>
    visits.1.mem_of_closed root_mem fun names mem entry h => ((closed names mem).2 entry h).2.1
  constructor
  · intro names visits
    exact (closed names (inTree visits)).1
  · intro names visits entry mem
    exact ((closed names (inTree visits)).2 entry mem).1
  · intro names name visits lists _
    exact ((closed names (inTree visits)).2 _ (lists_iff.mp lists)).2.2 rfl

lemma ReadsQuietly.deny (quiet : source.ReadsQuietly) (lost : Text → Bool) :
    (source.deny lost).ReadsQuietly := by
  intro path entry mem
  simp only [Source.deny] at mem
  split at mem
  · cases mem
  · exact quiet path entry mem

/-! ### The report -/

lemma errors_visitDirectory (item : Walk.Item) (name : Text) :
    Walk.errors (Walk.visitDirectory config item name).log = [] := by
  rw [Walk.visitDirectory]
  split <;> simp [Walk.errors, Log.Entry.level]

lemma ReadsQuietly.errors_log (quiet : source.ReadsQuietly) (path : Text) :
    Walk.errors (source.read path).log = [] := by
  apply List.filter_eq_nil_iff.mpr
  intro entry mem
  simpa using quiet path entry mem

lemma ReadsQuietly.errors_visitFile_of_ok (quiet : source.ReadsQuietly) {item : Walk.Item}
    {name content : Text}
    (h : (source.read (Path.join item.directory name)).content = .ok content) :
    Walk.errors (Walk.visitFile source .fullDump item name).log = [] := by
  simp only [Walk.visitFile, if_true, h, Walk.errors_append, quiet.errors_log]
  rfl

lemma ReadsQuietly.errors_visitFile_of_error (quiet : source.ReadsQuietly) {item : Walk.Item}
    {name : Text} {cause : Failure}
    (h : (source.read (Path.join item.directory name)).content = .error cause) :
    Walk.errors (Walk.visitFile source .fullDump item name).log
      = [.unreadableFile (Path.join item.directory name) cause] := by
  simp only [Walk.visitFile, if_true, h, Walk.errors_append, quiet.errors_log]
  rfl

lemma errors_visit_of_error {item : Walk.Item} {cause : FileError}
    (h : source.list item.directory = .error cause) :
    Walk.errors (Walk.visit source config .fullDump item).report
      = [.unreadableDirectory item.directory cause] := by
  simp only [Walk.visit, h, Walk.Visit.report]
  rfl

/-- A directory whose entries all have a kind reports no errors but those of its files. -/
lemma errors_visit_of_ok {item : Walk.Item} (listed : (source.list item.directory).isOk = true)
    (kinds : ∀ entry ∈ source.entries item.directory, entry.kind.isOk = true) :
    Walk.errors (Walk.visit source config .fullDump item).report
      = (source.wantedFiles config item.directory).flatMap fun name =>
          Walk.errors (Walk.visitFile source .fullDump item name).log := by
  cases h : source.list item.directory with
  | error e => simp [h, Except.isOk, Except.toBool] at listed
  | ok entries =>
    have same : source.entries item.directory = entries := by simp [Source.entries, h]
    have quiet : entries.filterMap (·.log? item.directory) = [] := by
      apply List.filterMap_eq_nil_iff.mpr
      intro entry mem
      have ok := kinds entry (same ▸ mem)
      rw [DirectoryEntry.log?]
      cases hkind : entry.kind with
      | ok kind => rfl
      | error e => simp [hkind, Except.isOk, Except.toBool] at ok
    simp only [Walk.visit, h, Walk.Visit.report, Listing.ofEntries, quiet, List.nil_append,
      reduceCtorEq, if_false, List.flatMap_append, List.flatMap_map, Walk.errors_append,
      Walk.errors_flatMap, errors_visitDirectory, wantedFiles, same]
    simp

/-! ### The losses -/

/-- What a walk loses when it comes to a directory. -/
def lossesAt (source : Source) (config : Configuration) (root : Text) (lost : Text → Bool)
    (names : List Text) : List Walk.Loss :=
  if lost (Walk.pathTo root names) then [.directory names]
  else
    ((source.wantedFiles config (Walk.pathTo root names)).filter fun name =>
      lost (Path.join (Walk.pathTo root names) name)).map (.file names)

/-- What a walk loses, in its order. -/
def losses (source : Source) (config : Configuration) (root : Text) (lost : Text → Bool) :
    List Walk.Loss :=
  ((source.visited config root).filter (Walk.Reached lost root ·)).flatMap
    (source.lossesAt config root lost)

lemma directory_mem_lossesAt {names others : List Text} :
    .directory others ∈ source.lossesAt config root lost names ↔
      others = names ∧ lost (Walk.pathTo root names) = true := by
  cases h : lost (Walk.pathTo root names) <;> simp [lossesAt, h]

lemma file_mem_lossesAt {names others : List Text} {name : Text} :
    .file others name ∈ source.lossesAt config root lost names ↔
      others = names ∧ lost (Walk.pathTo root names) = false ∧
        name ∈ source.wantedFiles config (Walk.pathTo root names) ∧
        lost (Path.join (Walk.pathTo root names) name) = true := by
  cases h : lost (Walk.pathTo root names) with
  | true => simp [lossesAt, h]
  | false =>
    simp only [lossesAt, h, Bool.false_eq_true, if_false, List.mem_map, List.mem_filter,
      Walk.Loss.file.injEq, true_and]
    constructor
    · rintro ⟨_, mem, rfl, rfl⟩
      exact ⟨rfl, mem⟩
    · rintro ⟨rfl, mem⟩
      exact ⟨name, mem, rfl, rfl⟩

lemma mem_losses {loss : Walk.Loss} :
    loss ∈ source.losses config root lost ↔ loss.Occurs source config root lost := by
  simp only [losses, List.mem_flatMap, List.mem_filter, mem_visited, decide_eq_true_eq]
  cases loss with
  | directory names =>
    simp only [Walk.Loss.Occurs, directory_mem_lossesAt]
    constructor
    · rintro ⟨_, ⟨visits, reached⟩, rfl, gone⟩
      exact ⟨visits, reached, gone⟩
    · rintro ⟨visits, reached, gone⟩
      exact ⟨names, ⟨visits, reached⟩, rfl, gone⟩
  | file names name =>
    simp only [Walk.Loss.Occurs, file_mem_lossesAt, mem_wantedFiles, Walk.reached_concat,
      Walk.pathTo_concat]
    constructor
    · rintro ⟨_, ⟨visits, reached⟩, rfl, listed, ⟨lists, allowed⟩, gone⟩
      exact ⟨visits, ⟨reached, listed⟩, lists, allowed, gone⟩
    · rintro ⟨visits, ⟨reached, listed⟩, lists, allowed, gone⟩
      exact ⟨names, ⟨visits, reached⟩, rfl, listed, ⟨lists, allowed⟩, gone⟩

lemma nodup_losses : (source.losses config root lost).Nodup := by
  refine List.nodup_flatMap.mpr ⟨?_, ?_⟩
  · intro names _
    rw [lossesAt]
    split
    · exact List.nodup_singleton _
    · have nodup : (source.wantedFiles config (Walk.pathTo root names)).Nodup :=
        (pairwise_wantedFiles _).imp And.right
      exact (nodup.filter _).map fun _ _ same => (Walk.Loss.file.inj same).2
  · apply (nodup_visited.filter _).imp
    intro names others different loss here there
    cases loss with
    | directory _ =>
      exact different
        ((directory_mem_lossesAt.mp here).1.symm.trans (directory_mem_lossesAt.mp there).1)
    | file _ _ =>
      exact different ((file_mem_lossesAt.mp here).1.symm.trans (file_mem_lossesAt.mp there).1)

namespace FailsAt

/-- Among files that could be read, the errors tell of those that are lost. -/
lemma reported_files (fails : failing.FailsAt source lost) (quiet : failing.ReadsQuietly)
    {names files : List Text}
    (readable : ∀ name ∈ files,
      source.readable (Path.join (Walk.pathTo root names) name) = true) :
    List.Forall₂ (Walk.Loss.Reported failing root)
      ((files.filter fun name => lost (Path.join (Walk.pathTo root names) name)).map (.file names))
      (files.flatMap fun name =>
        Walk.errors (Walk.visitFile failing .fullDump (Walk.itemAt root names) name).log) := by
  induction files with
  | nil => exact .nil
  | cons name files ih =>
    have rest := ih fun other h => readable other (List.mem_cons_of_mem _ h)
    rw [List.flatMap_cons]
    cases h : lost (Path.join (Walk.pathTo root names) name) with
    | true =>
      obtain ⟨cause, refused⟩ := fails.read_of_lost _ h
      rw [List.filter_cons, if_pos h, List.map_cons, quiet.errors_visitFile_of_error refused]
      refine .cons ⟨cause, ?_, ?_⟩ rest
      · rwa [Walk.pathTo_concat]
      · rw [Walk.pathTo_concat, Walk.itemAt_directory]
    | false =>
      obtain ⟨content, read⟩ := readable_iff.mp (readable name List.mem_cons_self)
      rw [← fails.read_eq _ h] at read
      rw [List.filter_cons, if_neg (by simp [h]), quiet.errors_visitFile_of_ok read]
      exact rest

/-- In a directory that is reached, the errors tell of what is lost there. -/
lemma reported_lossesAt (fails : failing.FailsAt source lost) (quiet : failing.ReadsQuietly)
    (readable : source.AllReadable config root) {names : List Text}
    (visits : source.Visits config root names) :
    List.Forall₂ (Walk.Loss.Reported failing root) (source.lossesAt config root lost names)
      (Walk.errors (Walk.visit failing config .fullDump (Walk.itemAt root names)).report) := by
  rw [lossesAt]
  cases h : lost (Walk.pathTo root names) with
  | true =>
    obtain ⟨e, p, refused⟩ := fails.list_of_lost _ h
    rw [if_pos rfl, errors_visit_of_error refused]
    exact .cons ⟨_, refused, rfl⟩ .nil
  | false =>
    have listed : (failing.list (Walk.pathTo root names)).isOk = true := by
      rw [fails.list_eq _ h]
      exact readable.listed names visits
    have kinds : ∀ entry ∈ failing.entries (Walk.pathTo root names), entry.kind.isOk = true := by
      rw [fails.entries, h]
      exact readable.kinds names visits
    rw [if_neg (by simp), errors_visit_of_ok listed kinds, Walk.itemAt_directory,
      fails.wantedFiles, h, if_neg (by simp)]
    apply fails.reported_files quiet
    intro name wanted
    obtain ⟨lists, allowed⟩ := mem_wantedFiles.mp wanted
    simpa using readable.read names name visits lists allowed

/-- The errors of a walk tell of what it loses. -/
lemma reported_losses (fails : failing.FailsAt source lost) (quiet : failing.ReadsQuietly)
    (readable : source.AllReadable config root) :
    List.Forall₂ (Walk.Loss.Reported failing root) (source.losses config root lost)
      (Walk.errors (Walk.report (failing.walk config .fullDump root))) := by
  rw [walk_eq_map, Walk.report, List.flatMap_map, Walk.errors_flatMap, fails.visited, losses]
  have visits : ∀ names ∈ (source.visited config root).filter (Walk.Reached lost root ·),
      source.Visits config root names := fun names h => mem_visited.mp (List.mem_filter.mp h).1
  generalize (source.visited config root).filter (Walk.Reached lost root ·) = reached at visits ⊢
  induction reached with
  | nil => exact .nil
  | cons names rest ih =>
    obtain ⟨here, later⟩ := List.forall_mem_cons.mp visits
    exact List.rel_append (fails.reported_lossesAt quiet readable here) (ih later)

end FailsAt

end Source

/-- Reading a file reports warnings at most, whether it is decoded or rendered. -/
lemma FileSystem.readsQuietly_source (fs : FileSystem) (render : NotebookRenderer) :
    (fs.source render).ReadsQuietly := by
  intro path entry mem
  rcases log_readContent mem with rfl | warning
  · simp [Log.Entry.level]
  · simp [warning]

/-- Failures are isolated. When some paths are lost, a walk shows what is left of its events, and
what it loses is reported, each loss once and nothing else. -/
theorem Source.walk_isolates_failures {failing source : Source} {lost : Text → Bool}
    {config : Configuration} {root : Text} (fails : failing.FailsAt source lost)
    (quiet : failing.ReadsQuietly) (readable : source.AllReadable config root) :
    Walk.events (failing.walk config .fullDump root)
      = (Walk.events (source.walk config .fullDump root)).filter (Event.Survives lost root ·) ∧
    ∃ losses : List Walk.Loss, losses.Nodup ∧
      (∀ loss, loss ∈ losses ↔ loss.Occurs source config root lost) ∧
      List.Forall₂ (Walk.Loss.Reported failing root) losses
        (Walk.errors (Walk.report (failing.walk config .fullDump root))) :=
  ⟨fails.events, source.losses config root lost, nodup_losses, fun _ => mem_losses,
    fails.reported_losses quiet readable⟩

/-- The sample tree without one of its directories and one of its files. -/
theorem Source.walk_isolates_failures_sampleTree :
    let lost : Text → Bool := (["/r/src".toList, "/r/b.py".toList].contains ·)
    let source := FileSystem.sampleTree.source .ok
    Walk.events ((source.deny lost).walk Configuration.defaults .fullDump "/r".toList)
      = (Walk.events (source.walk Configuration.defaults .fullDump "/r".toList)).filter
          (Event.Survives lost "/r".toList ·) ∧
    ∃ losses : List Walk.Loss, losses.Nodup ∧
      (∀ loss, loss ∈ losses ↔ loss.Occurs source Configuration.defaults "/r".toList lost) ∧
      List.Forall₂ (Walk.Loss.Reported (source.deny lost) "/r".toList) losses
        (Walk.errors
          (Walk.report ((source.deny lost).walk Configuration.defaults .fullDump "/r".toList))) :=
  Source.walk_isolates_failures (Source.failsAt_deny _ _)
    ((FileSystem.sampleTree.readsQuietly_source .ok).deny _)
    (.of_closed [[], ["src".toList], ["tmp".toList], ["more".toList]] (by decide)
      (by decide +kernel))

end TreeDump
