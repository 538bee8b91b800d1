import TreeDump.Options.Help
import TreeDump.Options.Parser
import TreeDump.Run.Walk

/-!
# A run of the program

From a command line, a file system and the rest of the surroundings to all that a run leaves
behind: its exit code, what it prints, what it puts on the clipboard, and the file system that it
leaves.
-/

namespace TreeDump

/-! ### Results -/

/-- How a run ends: with an exit code, or with a log file that cannot be opened. -/
inductive Ending
  | exit (code : Nat)
  | noLogFile (error : FileError)
  deriving DecidableEq, Repr

/-- What a run leaves behind. -/
structure RunResult where
  ending : Ending
  output : Text
  errorOutput : Text
  /-- the texts put on the clipboard -/
  copied : List Text
  /-- the number of events that a progress bar has counted, if there was one -/
  progress : Option Nat
  fileSystem : FileSystem

/-- The result of a run that ends in a state. -/
def RunState.result (state : RunState) (code : Nat) (copied : List Text)
    (progress : Option Nat) : RunResult :=
  ⟨.exit code, state.output, state.errorOutput, copied, progress, state.fileSystem⟩

namespace Run

/-! ### The parts of a run -/

/-- The introduction that every scan prints: how to use the program, and the configuration in
force. -/
def banner (config : Configuration) (path : PlainPath) : Text :=
  ("Usage information:\n"
    ++ "  -c, --console     Output to console instead of clipboard\n"
    ++ "  --cl              Clean up file content\n"
    ++ "  -s, --structure   Generate file and directory structure\n"
    ++ "  -d, --directories Generate only directory structure without files\n"
    ++ "  --set-path        Set CodeStruct path in system environment variables\n").toList
    ++ "  Allowed extensions: ".toList ++ ", ".toList.intercalate config.extensions.toList
    ++ "\n  Ignored directories: ".toList ++ ", ".toList.intercalate config.ignored.toList
    ++ "\n\nConfiguration file: ".toList ++ path.text ++ "\n\n".toList

/-- End a run that cannot go on. -/
def fail (surroundings : Surroundings) (state : RunState) (cause : Failure) : RunResult :=
  let state := state.report surroundings .runFailed
  (state.print ("An error occurred: ".toList ++ cause.message ++ ['\n'])).result 1 [] none

/-- Register the directory of the program. -/
def registerProgram (surroundings : Surroundings) (state : RunState) : RunResult :=
  let fs := state.fileSystem
  let directory := Registration.programDirectory
    (FileSystem.absoluteText fs.workingDirectory) surroundings.program
  let (fs', registered) := fs.register surroundings.searchPath (Profile.ofHome surroundings.home)
    (.ofText directory)
  let state := { state with fileSystem := fs' }
  match registered with
  | .error cause => fail surroundings state cause
  | .ok registration =>
    let state := state.reportAll surroundings registration.log
    (state.print registration.output).result 0 [] none

/-- The directory to scan, as an absolute path. -/
def scanDirectory (fs : FileSystem) (options : Options) : Text :=
  fs.absolute ((options.directory.filter (· != [])).getD
    (FileSystem.absoluteText fs.workingDirectory))

/-- What is reported before a scan. -/
def intention (directory : Text) (options : Options) : List Log.Entry :=
  [.workingDirectory directory, .generating options.mode]
    ++ if options.mode = .fullDump then [.cleanupChosen options.cleanup] else []

/-- Deliver an artifact where the options say. The console of a run is in UTF-8: on another one it
might already be the introduction that cannot be printed, and that does not fall back on ASCII. -/
def deliver (surroundings : Surroundings) (options : Options) (text : Text) : Delivery :=
  let delivery :=
    if options.console then Delivery.toConsole .utf8 text
    else Delivery.toClipboard surroundings.clipboard .utf8 text
  let notice : Log.Entry := if options.console then .writingToConsole else .copyingToClipboard
  { delivery with log := notice :: delivery.log }

/-- Scan a directory and deliver the artifact. -/
def scan (surroundings : Surroundings) (options : Options) (config : Configuration)
    (directory : Text) (state : RunState) : RunResult :=
  let state := state.reportAll surroundings (intention directory options)
  let (state, built) :=
    buildArtifact surroundings config options.mode options.cleanup directory state
  match built with
  | .error e => fail surroundings state (.file e)
  | .ok artifact =>
    let (tokens, tokenLog) := countTokens surroundings.encoder artifact.text
    let delivery := deliver surroundings options artifact.text
    let state := state.reportAll surroundings
      (.generated :: tokenLog ++ .tokensCounted tokens :: delivery.log)
    (state.print delivery.output).result 0 delivery.copied.toList
      (if options.progress then some artifact.eventCount else none)

/-- Load the configuration. A report goes out as soon as there is something to report, since the
log and the configuration may be kept in one file. -/
def loadConfiguration (surroundings : Surroundings) (path : PlainPath) (state : RunState) :
    RunState × Except Failure Configuration :=
  match state.fileSystem.findConfiguration path with
  | .configuration config =>
    (state.report surroundings (.configurationLoaded path.text), .ok config)
  | .nothing reason =>
    let state := state.report surroundings reason
    let saving := state.fileSystem.saveConfiguration Configuration.defaults path
    ({ state with fileSystem := saving.fileSystem }.reportAll surroundings saving.log,
      saving.defaults)
  | .failure cause => (state, .error cause)

/-- The file of the configuration. -/
def configFile (surroundings : Surroundings) (options : Options) : PlainPath :=
  Configuration.locate (options.config.bind SettingValue.text?) surroundings.configVariable
    surroundings.defaultConfig

/-- Scan the directory, if it is one and the configuration has been loaded. -/
def scanLoaded (surroundings : Surroundings) (options : Options) (path : PlainPath)
    (state : RunState) : Except Failure Configuration → RunResult
  | .error cause => fail surroundings state cause
  | .ok config =>
    let state := state.print (banner config path)
    let directory := scanDirectory state.fileSystem options
    if state.fileSystem.isDirectory directory then
      scan surroundings options config directory state
    else
      let state := state.report surroundings (.invalidDirectory directory)
      (state.print ("Error: Invalid directory: ".toList ++ directory ++ ['\n'])).result 1 [] none

/-- Load the configuration and scan the directory. -/
def loadAndScan (surroundings : Surroundings) (options : Options) (state : RunState) :
    RunResult :=
  let path := configFile surroundings options
  let (state, config) := loadConfiguration surroundings path state
  scanLoaded surroundings options path state config

/-- Open the log: on the console, unless logging to a file is asked for and the file has a
name. -/
def openLog (fs : FileSystem) (options : Options) : Except FileError (FileSystem × LogTarget) :=
  if !options.logging then .ok (fs, .console)
  else
    match options.logFile.text? with
    | none => .ok (fs, .consoleInFull)
    | some file =>
      let path := fs.absolute file
      (fs.writeAllowed path []).map fun fs' => (fs', .file path 0)

/-- Do what the options ask for. -/
def perform (surroundings : Surroundings) (fs : FileSystem) (options : Options) : RunResult :=
  match openLog fs options with
  | .error e => ⟨.noLogFile e, [], [], [], none, fs⟩
  | .ok (fs', target) =>
    let state : RunState := ⟨fs', target, [], []⟩
    if options.setPath then registerProgram surroundings state
    else loadAndScan surroundings options state

end Run

/-- Run the program with the arguments of a command line. -/
def run (surroundings : Surroundings) (fs : FileSystem) (arguments : List Text) : RunResult :=
  let width := Usage.lineWidth (Usage.columns surroundings.columns)
  match Options.parse arguments with
  | .error .help =>
    ⟨.exit 0, Usage.help width surroundings.defaultConfig.text, [], [], none, fs⟩
  | .error (.complaint complaint) => ⟨.exit 2, [], complaint.output width, [], none, fs⟩
  | .ok options => Run.perform surroundings fs options

end TreeDump
