import Mathlib.Logic.Function.Iterate
import TreeDump.Proofs.Configuration.Accepted
import TreeDump.Proofs.Configuration.Outcome

/-!
# What is loaded after saving

A configuration that has been saved in a file is loaded from it, made of its two lists, if the file
may be read. Whatever stands where a configuration is looked for, loading ends with a configuration:
the one that the file holds, or else the defaults, which are taken from then on.
-/

namespace TreeDump.FileSystem

variable {fs after : FileSystem} {log : List Log.Entry} {path : PlainPath} {config : Configuration}

/-- The path leads to a file that may be read. -/
def IsReadable (fs : FileSystem) (path : PlainPath) : Prop :=
  fs.isDenied .reading path.text = false ∧ (fs.content? path.text).isSome = true

instance (fs : FileSystem) (path : PlainPath) : Decidable (fs.IsReadable path) :=
  inferInstanceAs (Decidable (_ ∧ _))

/-- There is a warning among some entries of the log. -/
def Warns (log : List Log.Entry) : Prop :=
  ∃ entry ∈ log, entry.level = .warning

instance (log : List Log.Entry) : Decidable (Warns log) :=
  inferInstanceAs (Decidable (∃ entry ∈ log, _))

/-! ### Saved files -/

lemma exists_writes_of_saved (saves : fs.saveConfiguration config path = ⟨after, log, .ok true⟩) :
    ∃ built : FileSystem, Writes built path.text (Utf8.encode config.print) after := by
  match parents : fs.makeDirectories path.parent with
  | (built, .error e) =>
    rw [saveConfiguration_of_error _ parents] at saves
    cases e <;> cases saves
  | (built, .ok ()) =>
    rw [saveConfiguration_of_ok _ parents] at saves
    split at saves
    next e _ => cases e <;> cases saves
    next written =>
      cases saves
      exact ⟨built, writes_of_write (unlessDenied_eq_ok_iff.mp written).2⟩

/-- A configuration is saved in a file by putting its document in the place to which the path
leads. -/
lemma exists_set_of_saved (saves : fs.saveConfiguration config path = ⟨after, log, .ok true⟩)
    (isFile : (after.content? path.text).isSome = true) :
    ∃ (built : FileSystem) (target : Target), built.resolve .write path.text = .ok target ∧
      Free target ∧ after = built.set target.1 (.file (Utf8.encode config.print)) := by
  obtain ⟨built, writes⟩ := exists_writes_of_saved saves
  cases writes with
  | file leads free => exact ⟨built, _, leads, free, rfl⟩
  | swallowed leads swallows =>
    rw [content?_of_swallows (resolve_look_of_write leads) swallows] at isFile
    cases isFile

/-- What is saved anywhere but in a file is swallowed. -/
lemma read_of_saved (saves : fs.saveConfiguration config path = ⟨after, log, .ok true⟩)
    (noFile : after.content? path.text = none) : after.read path.text = .ok [] := by
  obtain ⟨built, writes⟩ := exists_writes_of_saved saves
  cases writes with
  | file leads free =>
    rw [content?_eq (resolve_written leads free _)] at noFile
    cases noFile
  | swallowed leads swallows => exact read_of_swallows (resolve_look_of_write leads) swallows

/-- A configuration that has been saved in a file is found if the file may be read, made of its two
lists. -/
lemma findConfiguration_of_saved (config : Configuration)
    (saves : fs.saveConfiguration config path = ⟨after, log, .ok true⟩)
    (readable : after.IsReadable path) :
    after.findConfiguration path
      = .configuration (.ofLists config.extensions.toList config.ignored.toList) := by
  obtain ⟨built, target, leads, free, rfl⟩ := exists_set_of_saved saves readable.2
  have allowed : built.isDenied .reading path.text = false :=
    ((keeps_set leads free _).isDenied_eq _ _).symm.trans readable.1
  exact findConfiguration_set config allowed leads free

/-- A configuration that has been saved elsewhere, or in a file that may not be read, is not
found. -/
lemma findConfiguration_of_lost (saves : fs.saveConfiguration config path = ⟨after, log, .ok true⟩)
    (lost : ¬after.IsReadable path) :
    ∃ cause, after.findConfiguration path = .nothing (.configurationInvalid path.text cause) := by
  cases denied : after.isDenied .reading path.text with
  | true =>
    have refused : after.readConfiguration path
        = .error (.file (.system .denied path.text)) := by
      rw [readConfiguration, readAllowed, unlessDenied, if_pos denied]
      rfl
    exact ⟨_, by rw [findConfiguration, refused]⟩
  | false =>
    have noFile : after.content? path.text = none := by
      simpa [IsReadable, denied] using lost
    have empty : after.readAllowed path.text = .ok [] :=
      unlessDenied_eq_ok_iff.mpr ⟨denied, read_of_saved saves noFile⟩
    rw [findConfiguration, readConfiguration_of_read empty]
    exact ⟨_, rfl⟩

lemma loadConfiguration_of_configuration
    (finds : fs.findConfiguration path = .configuration config) :
    fs.loadConfiguration path = ⟨fs, [.configurationLoaded path.text], .ok config⟩ := by
  rw [loadConfiguration, finds]

/-! ### Saving and loading -/

/-- A configuration is saved in a file in ASCII. If the file may be read, loading takes the two
lists from it and changes nothing. -/
theorem loadConfiguration_of_saved (config : Configuration)
    (saves : fs.saveConfiguration config path = ⟨after, log, .ok true⟩)
    (isFile : (after.content? path.text).isSome = true) :
    after.content? path.text = some (Utf8.encode config.print) ∧
      (∀ byte ∈ Utf8.encode config.print, byte < 0x80) ∧
      (after.isDenied .reading path.text = false →
        after.loadConfiguration path
          = ⟨after, [.configurationLoaded path.text],
              .ok (.ofLists config.extensions.toList config.ignored.toList)⟩) := by
  refine ⟨?_, ?_, fun allowed => ?_⟩
  · obtain ⟨built, target, leads, free, rfl⟩ := exists_set_of_saved saves isFile
    exact content?_eq_some_iff.mpr ⟨_, resolve_written leads free _⟩
  · exact Utf8.lt_of_mem_encode fun c mem =>
      (isPortable_iff.mp (Configuration.isPortable_print config c mem)).1
  · exact loadConfiguration_of_configuration
      (findConfiguration_of_saved _ saves ⟨allowed, isFile⟩)

/-- A configuration with texts that have to be escaped in its document. -/
def sampleEscaped : Configuration where
  extensions := .ofList [".\"Ü\"\\\n\x01😀".toList]
  ignored := .ofList ["\tobj ".toList]

theorem loadConfiguration_of_saved_sampleEscaped :
    ∃ after log, saveConfiguration ⟨.empty, [], []⟩ sampleEscaped (.ofText "a/c.json".toList)
        = ⟨after, log, .ok true⟩ ∧
      (after.content? "a/c.json".toList).isSome = true ∧
      after.isDenied .reading "a/c.json".toList = false ∧
      ∃ loaded, after.loadConfiguration (.ofText "a/c.json".toList)
          = ⟨after, [.configurationLoaded "a/c.json".toList], .ok loaded⟩ ∧
        loaded.extensions.toList = ["\"ü\"\\\n\x01😀".toList] ∧
        loaded.ignored.toList = ["obj".toList] := by
  obtain ⟨-, -, loads⟩ := @loadConfiguration_of_saved ⟨.empty, [], []⟩ _ _
    (.ofText "a/c.json".toList) sampleEscaped rfl (by decide +kernel)
  exact ⟨_, _, rfl, by decide +kernel, by decide +kernel, _, loads (by decide +kernel),
    by decide +kernel, by decide +kernel⟩

/-- A directory that holds the null device and a file that may be written but not read. -/
def sampleKeepless : FileSystem where
  nodes := (Trie.empty.insert ["null".toList] .nullDevice).insert ["c.json".toList] (.file [])
  workingDirectory := []
  denied := [(.reading, "/c.json".toList)]

/-- Where nothing is kept, or what is kept may not be read, a configuration is saved and not
loaded. -/
theorem loadConfiguration_loses_saved :
    let saving path := sampleKeepless.saveConfiguration (.ofLists ["py".toList] []) path
    let device := PlainPath.ofText "null".toList
    let closed := PlainPath.ofText "c.json".toList
    ((saving device).saved = .ok true ∧
        Warns ((saving device).fileSystem.loadConfiguration device).log) ∧
      (saving closed).saved = .ok true ∧
        Warns ((saving closed).fileSystem.loadConfiguration closed).log := by
  decide +kernel

/-- A configuration that was made of lists, saved in a file that may be read, and loaded keeps its
directories. It keeps its extensions exactly if each of them shows a character right behind its
points. -/
theorem loadConfiguration_of_saved_ofLists (extensions ignored : List Text)
    (saves : fs.saveConfiguration (.ofLists extensions ignored) path = ⟨after, log, .ok true⟩)
    (readable : after.IsReadable path) :
    ∃ loaded, after.loadConfiguration path
        = ⟨after, [.configurationLoaded path.text], .ok loaded⟩ ∧
      loaded.ignored = (Configuration.ofLists extensions ignored).ignored ∧
      (loaded = .ofLists extensions ignored ↔ Configuration.ShowsExtensions extensions) := by
  refine ⟨_, loadConfiguration_of_configuration (findConfiguration_of_saved _ saves readable), ?_,
    Configuration.ofLists_toList_ofLists_iff⟩
  exact Configuration.ofList_map_eq fun t mem => Configuration.normal_ignored mem

theorem loadConfiguration_of_saved_pointed :
    ∃ after log, saveConfiguration ⟨.empty, [], []⟩
          (.ofLists [" .Py".toList, "..c\t".toList, "  ".toList] [".git ".toList])
          (.ofText "c.json".toList)
        = ⟨after, log, .ok true⟩ ∧
      after.IsReadable (.ofText "c.json".toList) ∧
      (after.loadConfiguration (.ofText "c.json".toList)).config
        = .ok (.ofLists [" .Py".toList, "..c\t".toList, "  ".toList] [".git ".toList]) := by
  obtain ⟨loaded, loads, -, same⟩ := @loadConfiguration_of_saved_ofLists ⟨.empty, [], []⟩ _ _
    (.ofText "c.json".toList)
    [" .Py".toList, "..c\t".toList, "  ".toList] [".git ".toList] rfl ⟨rfl, rfl⟩
  refine ⟨_, _, rfl, ⟨rfl, rfl⟩, ?_⟩
  rw [loads, same.mpr (by decide +kernel)]

/-- A blank behind the point of an extension is kept when the configuration is made, and lost when
it is loaded. -/
theorem loadConfiguration_loses_blank :
    ∃ after log loaded,
      saveConfiguration ⟨.empty, [], []⟩ (.ofLists [". py".toList] []) (.ofText "c.json".toList)
        = ⟨after, log, .ok true⟩ ∧
      after.loadConfiguration (.ofText "c.json".toList)
        = ⟨after, [.configurationLoaded "c.json".toList], .ok loaded⟩ ∧
      (Configuration.ofLists [". py".toList] []).extensions.toList = [" py".toList] ∧
      loaded.extensions.toList = ["py".toList] := by
  have finds := @findConfiguration_of_saved ⟨.empty, [], []⟩ _ _
    (.ofText "c.json".toList) (.ofLists [". py".toList] []) rfl
    (by decide +kernel)
  exact ⟨_, _, _, rfl, loadConfiguration_of_configuration finds, by decide +kernel,
    by decide +kernel⟩

/-! ### Loading whatever is there -/

/-- Loading once more, however often, after the defaults have been taken. -/
lemma loadConfiguration_settled (n : Nat)
    (defaults : (fs.loadConfiguration path).config = .ok Configuration.defaults) :
    ((fun fs => (fs.loadConfiguration path).fileSystem)^[n]
        (fs.loadConfiguration path).fileSystem).loadConfiguration path
      = ⟨(fs.loadConfiguration path).fileSystem,
          ((fs.loadConfiguration path).fileSystem.loadConfiguration path).log,
          .ok Configuration.defaults⟩ := by
  obtain ⟨same, again⟩ := fs.loadConfiguration_again path
  rw [Function.iterate_fixed same]
  generalize fs.loadConfiguration path = loading at same again defaults
  calc loading.fileSystem.loadConfiguration path
      = ⟨(loading.fileSystem.loadConfiguration path).fileSystem,
          (loading.fileSystem.loadConfiguration path).log,
          (loading.fileSystem.loadConfiguration path).config⟩ := rfl
    _ = ⟨loading.fileSystem, (loading.fileSystem.loadConfiguration path).log,
          .ok Configuration.defaults⟩ := by rw [same, again, defaults]

/-- Loading ends with the configuration that the file holds, and changes nothing. Where none is held
it ends with the defaults, and changes what saving them changes. Once they have been saved they are
taken without another change, however often; they are loaded from their file, or else there is a
warning again, as the path leads to no file that may be read. -/
theorem loadConfiguration_total (limits : fs.WithinLimits path) :
    (∀ extensions ignored, fs.HoldsConfiguration path extensions ignored →
      fs.loadConfiguration path = ⟨fs, [.configurationLoaded path.text],
        .ok (.ofLists (extensions.map Json.asText) (ignored.map Json.asText))⟩) ∧
    ((¬∃ extensions ignored, fs.HoldsConfiguration path extensions ignored) →
      (fs.loadConfiguration path).config = .ok Configuration.defaults ∧
      (fs.loadConfiguration path).fileSystem
        = (fs.saveConfiguration Configuration.defaults path).fileSystem ∧
      ((fs.saveConfiguration Configuration.defaults path).saved = .ok true → ∀ n : Nat, ∃ log,
        ((fun fs => (fs.loadConfiguration path).fileSystem)^[n]
            (fs.loadConfiguration path).fileSystem).loadConfiguration path
          = ⟨(fs.loadConfiguration path).fileSystem, log, .ok Configuration.defaults⟩ ∧
        ((fs.loadConfiguration path).fileSystem.IsReadable path →
          log = [.configurationLoaded path.text]) ∧
        (¬(fs.loadConfiguration path).fileSystem.IsReadable path → Warns log))) := by
  constructor
  · intro extensions ignored holds
    exact loadConfiguration_of_configuration
      (findConfiguration_eq_configuration_iff.mpr ⟨extensions, ignored, holds, rfl⟩)
  · intro none
    have nothing : ∃ reason, fs.findConfiguration path = .nothing reason := by
      cases finding : fs.findConfiguration path with
      | configuration config =>
        obtain ⟨extensions, ignored, holds, -⟩ := findConfiguration_eq_configuration_iff.mp finding
        exact absurd ⟨extensions, ignored, holds⟩ none
      | nothing reason => exact ⟨reason, rfl⟩
      | failure cause => exact absurd finding (limits.findConfiguration_ne_failure cause)
    obtain ⟨reason, nothing⟩ := nothing
    obtain ⟨fileSystem, defaults⟩ := loadConfiguration_of_nothing nothing
    rw [fs.defaults_saveConfiguration _ limits.noNull limits.depth] at defaults
    refine ⟨defaults, fileSystem, fun saved n => ?_⟩
    have saves : fs.saveConfiguration Configuration.defaults path
        = ⟨(fs.loadConfiguration path).fileSystem,
            (fs.saveConfiguration Configuration.defaults path).log, .ok true⟩ := by
      rw [fileSystem, ← saved]
    refine ⟨_, loadConfiguration_settled n defaults, ?_, ?_⟩
    · intro readable
      rw [loadConfiguration_of_configuration (findConfiguration_of_saved _ saves readable)]
    · intro lost
      obtain ⟨cause, finds⟩ := findConfiguration_of_lost saves lost
      generalize (fs.loadConfiguration path).fileSystem = after at finds ⊢
      rw [loadConfiguration, finds]
      exact ⟨_, List.mem_cons_self, rfl⟩

/-- A configuration file that ends behind its first brace. -/
def sampleBroken : FileSystem where
  nodes := Trie.empty.insert ["c.json".toList] (.file [0x7b])
  workingDirectory := []
  denied := []

theorem loadConfiguration_total_sampleBroken :
    sampleBroken.WithinLimits (.ofText "c.json".toList) ∧
      (¬∃ extensions ignored,
        sampleBroken.HoldsConfiguration (.ofText "c.json".toList) extensions ignored) ∧
      ∀ n : Nat, ((fun fs => (fs.loadConfiguration (.ofText "c.json".toList)).fileSystem)^[n]
          (sampleBroken.loadConfiguration (.ofText "c.json".toList)).fileSystem).loadConfiguration
            (.ofText "c.json".toList)
        = ⟨(sampleBroken.loadConfiguration (.ofText "c.json".toList)).fileSystem,
            [.configurationLoaded "c.json".toList], .ok Configuration.defaults⟩ := by
  have limits : sampleBroken.WithinLimits (.ofText "c.json".toList) := by
    refine ⟨by decide, by decide, ?_⟩
    intro container deep
    cases deep
  have none : ¬∃ extensions ignored,
      sampleBroken.HoldsConfiguration (.ofText "c.json".toList) extensions ignored := by
    rintro ⟨extensions, ignored, holds⟩
    have finds := findConfiguration_eq_configuration_iff.mpr ⟨extensions, ignored, holds, rfl⟩
    cases finds
  obtain ⟨-, -, settles⟩ := (loadConfiguration_total limits).2 none
  refine ⟨limits, none, fun n => ?_⟩
  obtain ⟨log, loads, heals, -⟩ := settles rfl n
  rw [loads, heals (by decide +kernel)]
  rfl

/-- Where nothing is kept, or what is kept may not be read, there is a warning again although the
defaults have been saved. -/
theorem loadConfiguration_warns_again :
    let saving path := sampleKeepless.saveConfiguration Configuration.defaults path
    let loading path := sampleKeepless.loadConfiguration path
    let device := PlainPath.ofText "null".toList
    let closed := PlainPath.ofText "c.json".toList
    ((saving device).saved = .ok true ∧
        Warns ((loading device).fileSystem.loadConfiguration device).log) ∧
      (saving closed).saved = .ok true ∧
        Warns ((loading closed).fileSystem.loadConfiguration closed).log := by
  decide +kernel

end TreeDump.FileSystem
