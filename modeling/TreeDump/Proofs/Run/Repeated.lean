import TreeDump.Proofs.Configuration.Reload
import TreeDump.Proofs.Run.Walk
import TreeDump.Run

/-!
# Repeated runs

A run that scans, with its log on the console, can be repeated: the second run ends in the same way,
prints and copies the same texts, and changes nothing. The reports on the error output may differ,
since the first run may have had to save a configuration. So two states of a run are compared up to
these reports.
-/

namespace TreeDump

/-! ### Results -/

/-- Two results that differ in nothing but what has been reported. -/
structure RunResult.Agrees (a b : RunResult) : Prop where
  ending : a.ending = b.ending
  output : a.output = b.output
  copied : a.copied = b.copied
  progress : a.progress = b.progress
  fileSystem : a.fileSystem = b.fileSystem

lemma RunState.Agrees.result {a b : RunState} (h : a.Agrees b) (code : Nat) (copied : List Text)
    (progress : Option Nat) :
    (a.result code copied progress).Agrees (b.result code copied progress) :=
  ⟨rfl, h.output, rfl, rfl, h.fileSystem⟩

namespace RunResult.Agrees

variable {a b c : RunResult}

lemma symm (h : a.Agrees b) : b.Agrees a :=
  ⟨h.ending.symm, h.output.symm, h.copied.symm, h.progress.symm, h.fileSystem.symm⟩

lemma trans (h : a.Agrees b) (h' : b.Agrees c) : a.Agrees c :=
  ⟨h.ending.trans h'.ending, h.output.trans h'.output, h.copied.trans h'.copied,
    h.progress.trans h'.progress, h.fileSystem.trans h'.fileSystem⟩

end RunResult.Agrees

/-! ### The parts of a run -/

namespace Run

variable {surroundings : Surroundings} {options : Options} {a b : RunState}

lemma fail_agrees (h : a.Agrees b) (cause : Failure) :
    (fail surroundings a cause).Agrees (fail surroundings b cause) :=
  ((h.reportAll surroundings [.runFailed] [.runFailed]).print _).result 1 [] none

lemma scan_agrees (h : a.Agrees b) (config : Configuration) (directory : Text) :
    (scan surroundings options config directory a).Agrees
      (scan surroundings options config directory b) := by
  have intended := h.reportAll surroundings (intention directory options)
    (intention directory options)
  obtain ⟨built, same⟩ := buildArtifact_agrees surroundings intended config
    options.mode options.cleanup directory
  obtain ⟨built', same'⟩ := buildArtifact_agrees surroundings
    (.refl intended.right) config options.mode options.cleanup directory
  have agree := built.trans built'.symm
  simp only [scan]
  rw [same, same']
  split
  next e _ => exact fail_agrees agree (.file e)
  next artifact _ => exact ((agree.reportAll surroundings _ _).print _).result 0 _ _

lemma scanLoaded_agrees (h : a.Agrees b) (path : PlainPath)
    (config : Except Failure Configuration) :
    (scanLoaded surroundings options path a config).Agrees
      (scanLoaded surroundings options path b config) := by
  cases config with
  | error cause => exact fail_agrees h cause
  | ok config =>
    have printed := h.print (banner config path)
    simp only [scanLoaded]
    rw [printed.fileSystem]
    split
    · exact scan_agrees printed config _
    · exact ((printed.reportAll surroundings [_] [_]).print _).result 1 [] none

/-! ### The file system of a run -/

lemma fileSystem_fail (console : a.target.isFile = false) (cause : Failure) :
    (fail surroundings a cause).fileSystem = a.fileSystem :=
  ((RunState.Agrees.refl console).report_left surroundings .runFailed).fileSystem

lemma fileSystem_scan (console : a.target.isFile = false) (config : Configuration)
    (directory : Text) :
    (scan surroundings options config directory a).fileSystem = a.fileSystem := by
  have intended := (RunState.Agrees.refl console).reportAll_left surroundings
    (intention directory options)
  have built := (buildArtifact_agrees surroundings intended config options.mode
    options.cleanup directory).1
  simp only [scan]
  split
  next e _ => exact (fileSystem_fail built.left (.file e)).trans built.fileSystem
  next artifact _ => exact (built.reportAll_left surroundings _).fileSystem

lemma fileSystem_scanLoaded (console : a.target.isFile = false) (path : PlainPath)
    (config : Except Failure Configuration) :
    (scanLoaded surroundings options path a config).fileSystem = a.fileSystem := by
  cases config with
  | error cause => exact fileSystem_fail console cause
  | ok config =>
    have printed := (RunState.Agrees.refl console).print (banner config path)
    simp only [scanLoaded]
    split
    · exact fileSystem_scan printed.left config _
    · exact (printed.report_left surroundings _).fileSystem

/-- Loading in a run is loading, but for its reports. -/
lemma loadConfiguration_agrees (surroundings : Surroundings) (console : a.target.isFile = false)
    (path : PlainPath) :
    (loadConfiguration surroundings path a).1.Agrees
        { a with fileSystem := (a.fileSystem.loadConfiguration path).fileSystem } ∧
      (loadConfiguration surroundings path a).2
        = (a.fileSystem.loadConfiguration path).config := by
  have same := RunState.Agrees.refl console
  rw [loadConfiguration, FileSystem.loadConfiguration]
  cases a.fileSystem.findConfiguration path with
  | configuration config => exact ⟨same.report_left surroundings _, rfl⟩
  | failure cause => exact ⟨same, rfl⟩
  | nothing reason =>
    have reported := same.report_left surroundings reason
    dsimp only
    rw [reported.fileSystem]
    refine ⟨RunState.Agrees.reportAll_left surroundings ?_ _, rfl⟩
    exact ⟨rfl, reported.output, reported.left, console⟩

/-- The state in which a run on a file system starts. -/
def starting (fs : FileSystem) : RunState :=
  ⟨fs, .console, [], []⟩

/-- A run scans what loading the configuration leaves. -/
lemma loadAndScan_agrees (surroundings : Surroundings) (options : Options) (fs : FileSystem) :
    (loadAndScan surroundings options (starting fs)).Agrees
      (scanLoaded surroundings options (configFile surroundings options)
        (starting (fs.loadConfiguration (configFile surroundings options)).fileSystem)
        (fs.loadConfiguration (configFile surroundings options)).config) := by
  obtain ⟨loaded, config⟩ := loadConfiguration_agrees surroundings (a := starting fs) rfl
    (configFile surroundings options)
  simp only [loadAndScan]
  rw [config]
  exact scanLoaded_agrees loaded _ _

end Run

/-! ### Running twice -/

/-- A run can be repeated: it ends in the same way, prints and copies the same, and changes nothing.
The first run changes nothing but the configuration file and missing directories on the way to
it. -/
theorem run_again {surroundings : Surroundings} {arguments : List Text} {options : Options}
    (fs : FileSystem) (parses : Options.parse arguments = .ok options)
    (noSetPath : options.setPath = false) (noLogging : options.logging = false) :
    (run surroundings (run surroundings fs arguments).fileSystem arguments).Agrees
        (run surroundings fs arguments) ∧
      FileSystem.Prepares (Run.configFile surroundings options) fs
        (run surroundings fs arguments).fileSystem := by
  have runs : ∀ fs, run surroundings fs arguments
      = Run.loadAndScan surroundings options (Run.starting fs) := by
    intro fs
    simp [run, parses, Run.perform, Run.openLog, noSetPath, noLogging, Run.starting]
  have leaves : (run surroundings fs arguments).fileSystem
      = (fs.loadConfiguration (Run.configFile surroundings options)).fileSystem := by
    rw [runs, (Run.loadAndScan_agrees surroundings options fs).fileSystem]
    exact Run.fileSystem_scanLoaded rfl _ _
  obtain ⟨fileSystem, config⟩ :=
    fs.loadConfiguration_again (Run.configFile surroundings options)
  constructor
  · have second := Run.loadAndScan_agrees surroundings options
      (fs.loadConfiguration (Run.configFile surroundings options)).fileSystem
    rw [fileSystem, config] at second
    rw [leaves, runs, runs]
    exact second.trans (Run.loadAndScan_agrees surroundings options fs).symm
  · rw [leaves]
    exact fs.loadConfiguration_prepares _

/-- Surroundings in which everything is in order. -/
def sampleSurroundings : Surroundings where
  program := "/opt/codestruct.py".toList
  home := "/home/u".toList
  searchPath := .ofText "/bin".toList
  columns := none
  configVariable := none
  defaultConfig := .ofText "/opt/config.json".toList
  clipboard := none
  encoder text := .ok text.length
  notebooks := .ok
  stamp := []

/-- A command line that names a configuration file in directories that need not be there. -/
def sampleArguments : List Text :=
  ["-c", "--config", "settings/tree/config.json"].map String.toList

theorem run_again_on_empty :
    (run sampleSurroundings (run sampleSurroundings ⟨.empty, [], []⟩ sampleArguments).fileSystem
        sampleArguments).Agrees
        (run sampleSurroundings ⟨.empty, [], []⟩ sampleArguments) ∧
      FileSystem.Prepares (.ofText "settings/tree/config.json".toList) ⟨.empty, [], []⟩
        (run sampleSurroundings ⟨.empty, [], []⟩ sampleArguments).fileSystem := by
  have parses : Options.parse sampleArguments
      = .ok { console := true, config := some (.text "settings/tree/config.json".toList) } := by
    rfl
  exact run_again ⟨.empty, [], []⟩ parses rfl rfl

end TreeDump
