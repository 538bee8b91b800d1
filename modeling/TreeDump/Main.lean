import Std.Time
import TreeDump.Run

/-!
# The command line

The outer layer of the program. It takes down the part of the file system that a run may look at,
runs on it, prints what the run prints, and writes back what the run has changed. There is no
clipboard, no encoder and no renderer of notebooks here, so each of them answers with a complaint.
-/

namespace TreeDump.CommandLine

/-- What has been taken down of the file system. -/
structure Capture where
  nodes : Array (List Text × Node) := #[]
  denied : Array (Denial × Text) := #[]

namespace Capture

/-- The names of an absolute path. -/
def namesOf (path : String) : List Text :=
  Path.resolve true (Path.components path.toList)

/-- Note a node, unless it has been noted. -/
def note (capture : Capture) (path : String) (node : Node) : Capture :=
  let names := namesOf path
  if capture.nodes.any fun entry => entry.1 = names then capture
  else { capture with nodes := capture.nodes.push (names, node) }

/-- Note that a path may not be opened. -/
def deny (capture : Capture) (path : String) : Capture :=
  { capture with denied := capture.denied.push (.opening, Path.normalize path.toList) }

/-- The file system as far as it has been noted. -/
def fileSystem (capture : Capture) (workingDirectory : String) : FileSystem :=
  ⟨capture.nodes.foldl (fun nodes entry => nodes.insert entry.1 entry.2) .empty,
    namesOf workingDirectory, capture.denied.toList⟩

/-- Take down what stands at an absolute path, and what is below it when `below` says so. Links are
taken down as links to the place where they really lead. -/
partial def take (below : String → Bool) (capture : Capture) (path : String) : IO Capture := do
  let place := (← IO.currentDir) / path
  match ← place.symlinkMetadata.toBaseIO with
  | .error _ => return capture
  | .ok data =>
    match data.type with
    | .dir =>
      let capture := capture.note path .directory
      if !below path then return capture
      match ← place.readDir.toBaseIO with
      | .error _ => return capture.deny path
      | .ok entries =>
        entries.foldlM (fun capture entry => take below capture s!"{path}/{entry.fileName}")
          capture
    | .file =>
      match ← (IO.FS.readBinFile place).toBaseIO with
      | .error _ => return (capture.note path (.file [])).deny path
      | .ok content => return capture.note path (.file content.toList)
    | .symlink =>
      match ← (IO.FS.realPath place).toBaseIO with
      | .error _ => return capture.note path (.link path.toList)
      | .ok target =>
        let known := capture.nodes.any fun entry => entry.1 = namesOf target.toString
        let capture := capture.note path (.link target.toString.toList)
        if known then return capture else take below capture target.toString
    | .other => return capture.note path (if path == "/dev/null" then .nullDevice else .pipe)

/-- Take down an absolute path with the directories above it. -/
def takeWithParents (below : String → Bool) (capture : Capture) (path : String) :
    IO Capture := do
  let names := namesOf path
  let mut capture := capture
  for count in [1:names.length] do
    capture ← take (fun _ => false) capture
      (String.ofList (FileSystem.absoluteText (names.take count)))
  take below capture (String.ofList (FileSystem.absoluteText names))

end Capture

/-- Is the last name of a path one of a directory to go into? -/
def goesInto (config : Configuration) (path : String) : Bool :=
  !config.ignores (Path.baseName path.toList)

/-- Take down all that a run with these options may look at. -/
def captureFor (surroundings : Surroundings) (options : Options) (workingDirectory : String) :
    IO FileSystem := do
  let empty := Capture.fileSystem {} workingDirectory
  let config := Configuration.locate (options.config.bind SettingValue.text?)
    surroundings.configVariable surroundings.defaultConfig
  let profile := (Profile.ofHome surroundings.home).toOption.map PlainPath.text
  let files := config.text :: (profile.toList ++ options.logFile.text?.toList)
  let flat : String → Bool := fun _ => false
  let capture ← (workingDirectory :: files.map fun file => String.ofList (empty.absolute file)).foldlM
    (Capture.takeWithParents flat) {}
  match (capture.fileSystem workingDirectory |>.loadConfiguration config).config with
  | .error _ => return capture.fileSystem workingDirectory
  | .ok loaded =>
    let directory := String.ofList (Run.scanDirectory empty options)
    let capture ← capture.takeWithParents (fun path => path == directory || goesInto loaded path)
      directory
    return capture.fileSystem workingDirectory

/-- Write what differs in `after` from `before`. -/
def writeBack (before after : FileSystem) : IO Unit := do
  for (names, node) in after.nodes.toList do
    if before.node? names != some node then
      let path := String.ofList (FileSystem.absoluteText names)
      match node with
      | .directory => IO.FS.createDirAll path
      | .file content => IO.FS.writeBinFile path ⟨content.toArray⟩
      | .link _ | .pipe | .nullDevice | .socket => pure ()

/-- The surroundings of the process. -/
def surroundings : IO Surroundings := do
  let home := ((← IO.getEnv "HOME").getD "/").toList
  let stamp ← Std.Time.PlainDateTime.now
  return {
    program := (← IO.appPath).toString.toList
    home := home
    searchPath := .ofText ((← IO.getEnv "PATH").getD "").toList
    columns := (← IO.getEnv "COLUMNS").map String.toList
    configVariable := (← IO.getEnv "CODESTRUCT_CONFIG").map String.toList
    defaultConfig := ((PlainPath.ofText home).child ".codestruct".toList).child
      "config.json".toList
    clipboard := some "no clipboard is available".toList
    encoder := fun _ => .error "no encoder is available".toList
    notebooks := fun _ => .error "notebooks cannot be rendered".toList
    stamp := (stamp.format "uuuu-MM-dd HH:mm:ss,SSS").toList }

end TreeDump.CommandLine

open TreeDump in
/-- Run the program. -/
def main (arguments : List String) : IO UInt32 := do
  let arguments := arguments.map String.toList
  let surroundings ← CommandLine.surroundings
  let workingDirectory := (← IO.currentDir).toString
  let before ← match Options.parse arguments with
    | .ok options => CommandLine.captureFor surroundings options workingDirectory
    | .error _ => pure (CommandLine.Capture.fileSystem {} workingDirectory)
  let result := run surroundings before arguments
  CommandLine.writeBack before result.fileSystem
  IO.print (String.ofList result.output)
  IO.eprint (String.ofList result.errorOutput)
  match result.ending with
  | .exit code => return UInt32.ofNat code
  | .noLogFile e =>
    IO.eprintln (String.ofList e.message)
    return 1
