import Mathlib.Data.List.Induction
import TreeDump.Proofs.Path.SearchList
import TreeDump.Registration.Registry

/-!
# Registering directories in the registry

However many directories are registered one after another, the entries of the PATH value stay and
the new directories come behind them, each once. Nothing is written for the others, and nothing at
all when the key cannot be opened.
-/

namespace TreeDump.EnvironmentKey

open SearchList

variable {key : EnvironmentKey} {searchPath directory : Text} {directories : List Text}

/-- The PATH value, or an empty one in its place. -/
def value (key : EnvironmentKey) : RegistryValue :=
  key.path.getD ⟨[], RegistryValue.expandable⟩

/-- What is known before a directory is registered: the entries of the search path of the process,
and those of the PATH value. -/
def known (key : EnvironmentKey) (searchPath : Text) : List Text :=
  windows.entries searchPath ++ windows.entries key.value.value

/-- A directory that can be an entry of a list. -/
def IsEntry (directory : Text) : Prop :=
  directory ≠ [] ∧ ';' ∉ directory

instance (directory : Text) : Decidable (IsEntry directory) :=
  inferInstanceAs (Decidable (_ ∧ _))

/-! ### One directory -/

lemma entries_withDirectory (current : RegistryValue) (isEntry : IsEntry directory) :
    windows.entries (current.withDirectory directory).value
      = windows.entries current.value ++ [directory] := by
  have alone : windows.entries directory = [directory] :=
    entries_eq_singleton windows isEntry.1 isEntry.2
  rw [RegistryValue.withDirectory]
  split
  next empty => rw [empty, entries_nil, alone, List.nil_append]
  next => rw [← alone]; exact entries_append windows current.value directory

lemma register_of_isNew (opens : key.refusal = none)
    (new : windows.IsNew (key.known searchPath) directory) :
    key.register searchPath directory
      = ({ key with path := some (key.value.withDirectory directory) }, .added) := by
  obtain ⟨newToProcess, newToUser⟩ := (isNew_append windows).mp new
  rw [register, if_neg fun holds => (holds_iff windows).mp holds newToProcess, opens]
  exact if_neg fun holds => (holds_iff windows).mp holds newToUser

lemma register_of_not_isNew (opens : key.refusal = none)
    (old : ¬windows.IsNew (key.known searchPath) directory) :
    key.register searchPath directory = (key, .present) := by
  rw [register, opens]
  split
  next => rfl
  next missing =>
    rw [holds_iff, not_not] at missing
    refine if_pos ((holds_iff windows).mpr fun newToUser => ?_)
    exact old ((isNew_append windows).mpr ⟨missing, newToUser⟩)

lemma register_of_refusal {cause : Text} (refused : key.refusal = some cause) :
    (key.register searchPath directory).1 = key ∧
      (key.register searchPath directory).2.changed = false := by
  rw [register, refused]
  split <;> exact ⟨rfl, rfl⟩

/-- A key is changed by a new directory when it can be opened, and by nothing else. -/
lemma changed_register_iff :
    (key.register searchPath directory).2.changed = true ↔
      key.refusal = none ∧ windows.IsNew (key.known searchPath) directory := by
  cases refusal : key.refusal with
  | some cause => simp [register_of_refusal refusal]
  | none =>
    by_cases new : windows.IsNew (key.known searchPath) directory
    · rw [register_of_isNew refusal new]
      simp [Registration.changed, new]
    · rw [register_of_not_isNew refusal new]
      simp [Registration.changed, new]

lemma register_of_unchanged
    (unchanged : (key.register searchPath directory).2.changed = false) :
    (key.register searchPath directory).1 = key := by
  cases refusal : key.refusal with
  | some cause => exact (register_of_refusal refusal).1
  | none =>
    by_cases new : windows.IsNew (key.known searchPath) directory
    · rw [changed_register_iff.mpr ⟨refusal, new⟩] at unchanged
      cases unchanged
    · rw [register_of_not_isNew refusal new]

/-! ### One after another -/

/-- The key after directories have been registered one after another. -/
def registerAll (key : EnvironmentKey) (searchPath : Text) (directories : List Text) :
    EnvironmentKey :=
  directories.foldl (fun key directory => (key.register searchPath directory).1) key

lemma registerAll_concat :
    key.registerAll searchPath (directories ++ [directory])
      = ((key.registerAll searchPath directories).register searchPath directory).1 := by
  simp [registerAll]

lemma registerAll_of_refusal {cause : Text} (refused : key.refusal = some cause) :
    key.registerAll searchPath directories = key := by
  induction directories using List.reverseRecOn with
  | nil => rfl
  | append_singleton directories directory ih =>
    rw [registerAll_concat, ih, (register_of_refusal refused).1]

/-- What directories make of a key that can be opened: the new ones are entries behind its own, and
nothing is written when there are none. -/
structure Extends (key : EnvironmentKey) (searchPath : Text) (directories : List Text)
    (after : EnvironmentKey) : Prop where
  opens : after.refusal = none
  entries : windows.entries after.value.value
    = windows.entries key.value.value ++ windows.newAmong (key.known searchPath) directories
  type : after.value.type = key.value.type
  unwritten : windows.newAmong (key.known searchPath) directories = [] → after = key
  written : windows.newAmong (key.known searchPath) directories ≠ [] → after.path = some after.value

variable {after : EnvironmentKey}

lemma Extends.refl (opens : key.refusal = none) : key.Extends searchPath [] key where
  opens := opens
  entries := (List.append_nil _).symm
  type := rfl
  unwritten _ := rfl
  written some := absurd rfl some

/-- A directory is new to an extended key if it is new to what was known at the start and to the
directories that have come since. -/
lemma Extends.isNew_iff (h : key.Extends searchPath directories after) :
    windows.IsNew (after.known searchPath) directory ↔
      windows.IsNew (key.known searchPath ++ directories) directory := by
  rw [← isNew_newAmong, known, h.entries, ← List.append_assoc, ← known]

lemma Extends.step (h : key.Extends searchPath directories after) (isEntry : IsEntry directory) :
    key.Extends searchPath (directories ++ [directory])
      (after.register searchPath directory).1 := by
  have concat : windows.newAmong (key.known searchPath) (directories ++ [directory])
      = windows.newAmong (key.known searchPath) directories
        ++ if windows.IsNew (after.known searchPath) directory then [directory] else [] := by
    simp only [newAmong_concat, h.isNew_iff]
  by_cases new : windows.IsNew (after.known searchPath) directory
  · rw [if_pos new] at concat
    rw [register_of_isNew h.opens new]
    refine ⟨h.opens, ?_, h.type, fun none => ?_, fun _ => rfl⟩
    · rw [concat, ← List.append_assoc, ← h.entries]
      exact entries_withDirectory after.value isEntry
    · rw [concat] at none
      exact absurd none (by simp)
  · rw [if_neg new, List.append_nil] at concat
    rw [register_of_not_isNew h.opens new]
    exact ⟨h.opens, concat ▸ h.entries, h.type, concat ▸ h.unwritten, concat ▸ h.written⟩

lemma extends_registerAll (searchPath : Text) (opens : key.refusal = none)
    (areEntries : ∀ directory ∈ directories, IsEntry directory) :
    key.Extends searchPath directories (key.registerAll searchPath directories) := by
  induction directories using List.reverseRecOn with
  | nil => exact .refl opens
  | append_singleton directories directory ih =>
    obtain ⟨before, last⟩ := List.forall_mem_append.mp areEntries
    rw [registerAll_concat]
    exact (ih before).step (last directory (List.mem_singleton_self _))

/-- When directories are registered one after another, the entries of the PATH value stay, and
behind them come those directories that were known neither at the start nor from before them. Only
these change something. A value keeps its type, and a new one is expandable. Nothing changes when
the key cannot be opened. -/
theorem registerAll_appends (key : EnvironmentKey) (searchPath : Text)
    (areEntries : ∀ directory ∈ directories, IsEntry directory) :
    (key.refusal = none →
      windows.entries (key.registerAll searchPath directories).value.value
          = windows.entries key.value.value
            ++ windows.newAmong (key.known searchPath) directories ∧
        (windows.newAmong (key.known searchPath) directories = [] →
          key.registerAll searchPath directories = key) ∧
        (windows.newAmong (key.known searchPath) directories ≠ [] →
          ∃ text, (key.registerAll searchPath directories).path
            = some ⟨text, (key.path.map RegistryValue.type).getD RegistryValue.expandable⟩)) ∧
      (key.refusal ≠ none → key.registerAll searchPath directories = key) ∧
      ∀ earlier directory later, directories = earlier ++ directory :: later →
        (((key.registerAll searchPath earlier).register searchPath directory).2.changed = true ↔
          key.refusal = none ∧ windows.IsNew (key.known searchPath ++ earlier) directory) ∧
        (((key.registerAll searchPath earlier).register searchPath directory).2.changed = false →
          ((key.registerAll searchPath earlier).register searchPath directory).1
            = key.registerAll searchPath earlier) := by
  have type : key.value.type = (key.path.map RegistryValue.type).getD RegistryValue.expandable := by
    rw [value]
    cases key.path <;> rfl
  refine ⟨?_, ?_, ?_⟩
  · intro opens
    have extended := extends_registerAll searchPath opens areEntries
    refine ⟨extended.entries, extended.unwritten, fun some => ?_⟩
    refine ⟨(key.registerAll searchPath directories).value.value, ?_⟩
    rw [extended.written some, ← type, ← extended.type]
  · intro refused
    obtain ⟨cause, refused⟩ := Option.ne_none_iff_exists'.mp refused
    exact registerAll_of_refusal refused
  · rintro earlier directory later rfl
    refine ⟨?_, register_of_unchanged⟩
    rw [changed_register_iff]
    cases refusal : key.refusal with
    | some cause => simp [registerAll_of_refusal refusal, refusal]
    | none =>
      have extended := extends_registerAll searchPath refusal
        (List.forall_mem_append.mp areEntries).1
      rw [extended.isNew_iff]
      exact and_congr_left' (iff_of_true extended.opens rfl)

/-- A value with an empty entry. -/
def sampleKey : EnvironmentKey :=
  ⟨some ⟨"C:\\Tools;;c:/Bin/".toList, 1⟩, none⟩

/-- Directories in several spellings, some of them entries of the value. -/
def sampleDirectories : List Text :=
  ["c:\\windows\\.".toList, "D:\\x".toList, "C:\\BIN".toList, "d:/X/".toList, "E:\\y".toList]

theorem registerAll_appends_sampleKey :
    (∀ directory ∈ sampleDirectories, IsEntry directory) ∧
      windows.entries (sampleKey.registerAll "C:\\Windows".toList sampleDirectories).value.value
        = ["C:\\Tools".toList, "c:/Bin/".toList, "D:\\x".toList, "E:\\y".toList] ∧
      (sampleKey.registerAll "C:\\Windows".toList sampleDirectories).path
        = some ⟨"C:\\Tools;;c:/Bin/;D:\\x;E:\\y".toList, 1⟩ := by
  have areEntries : ∀ directory ∈ sampleDirectories, IsEntry directory := by decide +kernel
  obtain ⟨opened, -, -⟩ := registerAll_appends sampleKey "C:\\Windows".toList areEntries
  obtain ⟨entries, -, -⟩ := opened rfl
  exact ⟨areEntries, entries.trans (by decide +kernel), by decide +kernel⟩

end TreeDump.EnvironmentKey
