import TreeDump.Proofs.Walk.LevelOrder
import TreeDump.Run.Walk

/-!
# The walk of a run

What a run reports on its walk is what the visits report, one after another. The bound on the levels
cuts nothing off, whatever changes on the way. If the log goes to the console, nothing changes, and
the walk is one through the files as they are at its start.
-/

namespace TreeDump

/-! ### Agreement -/

/-- Does the log go to a file? -/
def LogTarget.isFile : LogTarget → Bool
  | .file _ _ => true
  | .console | .consoleInFull => false

/-- Two states with the log on the console that differ in nothing but what has been reported. -/
structure RunState.Agrees (a b : RunState) : Prop where
  fileSystem : a.fileSystem = b.fileSystem
  output : a.output = b.output
  left : a.target.isFile = false
  right : b.target.isFile = false

namespace RunState.Agrees

variable {a b : RunState}

lemma refl (console : a.target.isFile = false) : a.Agrees a :=
  ⟨rfl, rfl, console, console⟩

lemma symm (h : a.Agrees b) : b.Agrees a :=
  ⟨h.fileSystem.symm, h.output.symm, h.right, h.left⟩

lemma trans {c : RunState} (h : a.Agrees b) (h' : b.Agrees c) : a.Agrees c :=
  ⟨h.fileSystem.trans h'.fileSystem, h.output.trans h'.output, h.left, h'.right⟩

lemma report_left (surroundings : Surroundings) (h : a.Agrees b) (entry : Log.Entry) :
    (a.report surroundings entry).Agrees b := by
  have reported : ∃ text, a.report surroundings entry
      = { a with errorOutput := a.errorOutput ++ text } := by
    rw [RunState.report]
    split
    next => exact ⟨_, rfl⟩
    next => exact ⟨_, rfl⟩
    next toFile =>
      have console := h.left
      rw [toFile] at console
      cases console
  obtain ⟨text, reported⟩ := reported
  rw [reported]
  exact ⟨h.fileSystem, h.output, h.left, h.right⟩

lemma reportAll_left (surroundings : Surroundings) (h : a.Agrees b) (log : List Log.Entry) :
    (a.reportAll surroundings log).Agrees b := by
  induction log generalizing a with
  | nil => exact h
  | cons entry log ih => exact ih (h.report_left surroundings entry)

/-- Whatever each of them reports, they agree as before. -/
lemma reportAll (surroundings : Surroundings) (h : a.Agrees b) (log log' : List Log.Entry) :
    (a.reportAll surroundings log).Agrees (b.reportAll surroundings log') :=
  ((h.reportAll_left surroundings log).symm.reportAll_left surroundings log').symm

lemma print (h : a.Agrees b) (text : Text) : (a.print text).Agrees (b.print text) :=
  ⟨h.fileSystem, congrArg (· ++ text) h.output, h.left, h.right⟩

end RunState.Agrees

namespace RunState

/-! ### Loops -/

section Loops

variable {α β : Type} {surroundings : Surroundings}

lemma reportAll_append (surroundings : Surroundings) (state : RunState)
    (log log' : List Log.Entry) :
    state.reportAll surroundings (log ++ log')
      = (state.reportAll surroundings log).reportAll surroundings log' :=
  List.foldl_append

/-- A loop reports what its steps report. -/
lemma fst_each {step : RunState → α → RunState × β} (report : β → List Log.Entry)
    (reports : ∀ state a, (step state a).1 = state.reportAll surroundings (report (step state a).2))
    (state : RunState) (items : List α) :
    (state.each step items).1
      = state.reportAll surroundings ((state.each step items).2.flatMap report) := by
  induction items generalizing state with
  | nil => rfl
  | cons a items ih =>
    simp only [each, List.flatMap_cons]
    rw [reportAll_append, ← reports, ← ih]

/-- A loop whose steps do what a function does, in all states that there can be, maps the list. -/
lemma each_eq_map (step : RunState → α → RunState × β) {P : RunState → Prop} {f : α → β}
    (steps : ∀ state a, P state → P (step state a).1 ∧ (step state a).2 = f a) {state : RunState}
    (start : P state) (items : List α) :
    P (state.each step items).1 ∧ (state.each step items).2 = items.map f := by
  induction items generalizing state with
  | nil => exact ⟨start, rfl⟩
  | cons a items ih =>
    obtain ⟨next, first⟩ := steps state a start
    obtain ⟨last, rest⟩ := ih next
    exact ⟨last, by simp only [each, first, rest, List.map_cons]⟩

lemma exists_of_mem_each {step : RunState → α → RunState × β} {state : RunState} {items : List α}
    {b : β} (mem : b ∈ (state.each step items).2) :
    ∃ before, ∃ a ∈ items, (step before a).2 = b := by
  induction items generalizing state with
  | nil => cases mem
  | cons a items ih =>
    rcases List.mem_cons.mp mem with rfl | mem
    · exact ⟨state, a, List.mem_cons_self, rfl⟩
    · obtain ⟨before, other, there, taken⟩ := ih mem
      exact ⟨before, other, List.mem_cons_of_mem _ there, taken⟩

end Loops

end RunState

/-! ### Reports -/

namespace Run

variable {surroundings : Surroundings} {config : Configuration} {mode : Mode} {root : Text}
  {state : RunState}

open Walk RunState

/-- What is reported before a file is read comes first in the report. -/
lemma announcement_prefix (fs : FileSystem) (render : NotebookRenderer) (path : Text) :
    Reading.announcement path <+: (fs.readContent render path).log := by
  rw [Reading.announcement, FileSystem.readContent]
  split
  · exact List.prefix_rfl
  · exact List.nil_prefix

lemma fst_visitFile (item : Item) (state : RunState) (name : Text) :
    (visitFile surroundings mode item state name).1
      = state.reportAll surroundings (visitFile surroundings mode item state name).2.log := by
  simp only [visitFile]
  rw [← reportAll_append]
  congr 1
  apply List.prefix_iff_eq_append.mp
  split
  next dump =>
    rw [Walk.visitFile]
    simp only [if_pos dump]
    have first := announcement_prefix (state.reportAll surroundings
      (Reading.announcement (Path.join item.directory name))).fileSystem surroundings.notebooks
      (Path.join item.directory name)
    split
    · exact first.trans (List.prefix_append _ _)
    · exact first.trans (List.prefix_append _ _)
  next => exact List.nil_prefix

lemma fst_visit (state : RunState) (item : Item) :
    (visit surroundings config mode state item).1
      = state.reportAll surroundings (visit surroundings config mode state item).2.report := by
  simp only [visit]
  split
  next => simp [Visit.report]
  next entries _ =>
    simp only [Visit.report, List.flatMap_append, reportAll_append]
    rw [← fst_each _ (fst_visitFile item), ← fst_each Outcome.log fun _ _ => rfl]

lemma fst_levels (depth : Nat) (state : RunState) (items : List Item) :
    (levels (visit surroundings config mode) depth state items).1
      = state.reportAll surroundings
          (Walk.report (levels (visit surroundings config mode) depth state items).2) := by
  induction depth generalizing state items with
  | zero => rfl
  | succ depth ih =>
    simp only [levels]
    split
    · rfl
    · rw [ih, fst_each _ fst_visit, ← reportAll_append]
      simp only [Walk.report, List.flatMap_append]

/-- A path that the system can be asked about has an artifact, and making it reports what belongs to
it. -/
theorem exists_buildArtifact (surroundings : Surroundings) (config : Configuration) (mode : Mode)
    (cleanup : Bool) (state : RunState) (noNull : '\x00' ∉ root) :
    ∃ artifact, buildArtifact surroundings config mode cleanup root state
      = (state.reportAll surroundings artifact.log, .ok artifact) := by
  refine ⟨.ofVisits mode cleanup (walk surroundings config mode root state).2, ?_⟩
  rw [buildArtifact, if_neg noNull]
  exact Prod.ext (fst_levels _ _ _) rfl

/-! ### The bound on the levels -/

/-- A directory has children only if its path is not too long, and their paths are longer. -/
lemma length_lt_of_child {item child : Item}
    (mem : child ∈ (visit surroundings config mode state item).2.children) :
    item.directory.length < FileSystem.pathLimit ∧
      item.directory.length < child.directory.length := by
  simp only [visit] at mem
  split at mem
  next => cases mem
  next entries listed =>
    simp only [Visit.children, List.flatMap_append, List.mem_append, List.mem_flatMap] at mem
    rcases mem with ⟨outcome, taken, goesOn⟩ | ⟨outcome, passed, goesOn⟩
    · obtain ⟨before, name, -, rfl⟩ := exists_of_mem_each taken
      simp only [visitFile, Walk.visitFile] at goesOn
      split at goesOn <;> cases goesOn
    · obtain ⟨before, name, there, rfl⟩ := exists_of_mem_each passed
      simp only [visitDirectory, Walk.visitDirectory] at goesOn
      split at goesOn
      next => cases goesOn
      next =>
        obtain rfl := List.mem_singleton.mp goesOn
        have lists : (source surroundings state).Lists item.directory name .directory :=
          ⟨entries, listed, Source.mem_filterMap_nameIf.mp (Text.mem_sort.mp there)⟩
        exact ⟨Source.length_lt_of_lists lists,
          Source.length_lt_join (Source.isName_of_lists lists) item.directory⟩

/-- Levels beyond the bound would be empty. -/
lemma levels_add {depth above : Nat} (enough : above + depth = FileSystem.pathLimit + 1)
    (more : Nat) {items : List Item}
    (deep : ∀ item ∈ items, above ≤ FileSystem.pathLimit ∧ above ≤ item.directory.length)
    (state : RunState) :
    levels (visit surroundings config mode) (depth + more) state items
      = levels (visit surroundings config mode) depth state items := by
  induction depth generalizing above state items with
  | zero =>
    have none : items = [] := by
      refine List.eq_nil_iff_forall_not_mem.mpr fun item mem => ?_
      have := (deep item mem).1
      omega
    subst none
    cases more <;> simp [levels]
  | succ depth ih =>
    rw [Nat.succ_add, levels, levels]
    split
    · rfl
    · have deeper : ∀ child ∈ ((state.each (visit surroundings config mode) items).2.flatMap
          Visit.children), above + 1 ≤ FileSystem.pathLimit ∧
            above + 1 ≤ child.directory.length := by
        intro child mem
        obtain ⟨_, visited, isChild⟩ := List.mem_flatMap.mp mem
        obtain ⟨before, item, there, rfl⟩ := exists_of_mem_each visited
        have lengths := length_lt_of_child isChild
        have := (deep item there).2
        omega
      dsimp only
      rw [ih (by omega) deeper]

/-- The bound on the levels cuts nothing off. -/
theorem levels_eq_walk (more : Nat) :
    levels (visit surroundings config mode) (FileSystem.pathLimit + 1 + more) state [⟨root, []⟩]
      = walk surroundings config mode root state :=
  levels_add (Nat.zero_add _) more (fun _ _ => ⟨Nat.zero_le _, Nat.zero_le _⟩) state

/-! ### A log on the console -/

lemma source_congr {a b : RunState} (h : a.Agrees b) :
    source surroundings a = source surroundings b := by
  rw [source, source, h.fileSystem]

lemma visitFile_agrees {a b : RunState} (h : a.Agrees b) (item : Item) (name : Text) :
    (visitFile surroundings mode item a name).1.Agrees b ∧
      (visitFile surroundings mode item a name).2
        = Walk.visitFile (source surroundings b) mode item name := by
  refine ⟨(fst_visitFile item a name) ▸ h.reportAll_left surroundings _, ?_⟩
  simp only [visitFile]
  rw [source_congr (h.reportAll_left surroundings _)]

lemma visit_agrees {a b : RunState} (h : a.Agrees b) (item : Item) :
    (visit surroundings config mode a item).1.Agrees b ∧
      (visit surroundings config mode a item).2
        = Walk.visit (source surroundings b) config mode item := by
  refine ⟨(fst_visit a item) ▸ h.reportAll_left surroundings _, ?_⟩
  simp only [visit, Walk.visit]
  rw [source_congr h]
  cases (source surroundings b).list item.directory with
  | error e => rfl
  | ok entries =>
    obtain ⟨listed, taken⟩ := each_eq_map (visitFile surroundings mode item)
      (P := (·.Agrees b)) (fun _ name h => visitFile_agrees h item name)
      (h.reportAll_left surroundings (Listing.ofEntries item.directory entries).log)
      (if mode = .structureDirectoriesOnly then []
        else (Listing.ofEntries item.directory entries).files.filter config.allows)
    obtain ⟨-, passed⟩ := each_eq_map (visitDirectory surroundings config item)
      (P := (·.Agrees b)) (f := Walk.visitDirectory config item)
      (fun _ _ h => ⟨h.reportAll_left surroundings _, rfl⟩) listed
      (Listing.ofEntries item.directory entries).directories
    simp only [taken, passed]

lemma levels_agrees {a b : RunState} (h : a.Agrees b) (depth : Nat) (items : List Item) :
    (levels (visit surroundings config mode) depth a items).2
      = Walk.levels (Walk.visit (source surroundings b) config mode) depth items := by
  induction depth generalizing a items with
  | zero => rfl
  | succ depth ih =>
    simp only [levels, Walk.levels]
    split
    · rfl
    · obtain ⟨visited, visits⟩ := each_eq_map (visit surroundings config mode)
        (P := (·.Agrees b)) (fun _ item h => visit_agrees h item) h items
      simp only [visits, ih visited]

/-- Where the log does not get into the tree, a run makes the artifact of the tree as it is. -/
theorem buildArtifact_agrees (surroundings : Surroundings) {a b : RunState} (h : a.Agrees b)
    (config : Configuration) (mode : Mode) (cleanup : Bool) (root : Text) :
    (buildArtifact surroundings config mode cleanup root a).1.Agrees b ∧
      (buildArtifact surroundings config mode cleanup root a).2
        = b.fileSystem.artifact surroundings.notebooks config mode cleanup root := by
  by_cases null : '\x00' ∈ root
  · rw [buildArtifact, if_pos null, FileSystem.artifact, FileSystem.walk, if_pos null]
    exact ⟨h, rfl⟩
  · obtain ⟨artifact, builds⟩ := exists_buildArtifact surroundings config mode cleanup a null
    rw [builds]
    refine ⟨h.reportAll_left surroundings _, ?_⟩
    have made : (buildArtifact surroundings config mode cleanup root a).2
        = .ok (.ofVisits mode cleanup (walk surroundings config mode root a).2) := by
      rw [buildArtifact, if_neg null]
    rw [builds] at made
    rw [made, walk, levels_agrees h, FileSystem.artifact, FileSystem.walk, if_neg null]
    rfl

end Run

end TreeDump
