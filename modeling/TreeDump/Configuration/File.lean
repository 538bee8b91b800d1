import TreeDump.Encoding.Utf8
import TreeDump.FileSystem.Access
import TreeDump.Log

/-!
# Configuration files

Where the configuration is kept, and how it is loaded and saved. A file that is missing, unreadable
or of the wrong shape is replaced by the defaults, so that there is always a file to edit.
-/

namespace TreeDump

namespace Configuration

/-- The file to use: the one given explicitly, else the one of the environment, else the default.
An empty path is as good as none. -/
def locate (explicit environment : Option Text) (default : PlainPath) : PlainPath :=
  match explicit.filter (· != []), environment.filter (· != []) with
  | some path, _ => .ofText path
  | none, some path => .ofText path
  | none, none => default

/-- The configuration in the bytes of a file. -/
def ofBytes (bytes : Bytes) : Except Failure Configuration := do
  let text ← (Utf8.decode bytes).mapError .decoding
  let document ← (Json.ofText text.unifyNewlines).mapError .json
  (ofJson document).mapError .shape

end Configuration

namespace FileSystem

/-! ### Saving -/

/-- What comes of saving a configuration. A failure of the system is reported, and the file is
then not saved; a path that the system is never asked about is an error. -/
structure Saving where
  fileSystem : FileSystem
  log : List Log.Entry
  saved : Except FileError Bool

/-- Saving that fails. -/
def Saving.failed (fs : FileSystem) (path : PlainPath) : FileError → Saving
  | .nullByte => ⟨fs, [], .error .nullByte⟩
  | .tooDeep => ⟨fs, [], .error .tooDeep⟩
  | .system error p => ⟨fs, [.configurationUnsaved path.text (.system error p)], .ok false⟩

/-- Save a configuration, making missing parent directories. -/
def saveConfiguration (fs : FileSystem) (config : Configuration) (path : PlainPath) : Saving :=
  match fs.makeDirectories path.parent with
  | (fs', .error e) => .failed fs' path e
  | (fs', .ok ()) =>
    match fs'.writeAllowed path.text (Utf8.encode config.print) with
    | .error e => .failed fs' path e
    | .ok fs'' => ⟨fs'', [.configurationSaved path.text], .ok true⟩

/-! ### Loading -/

/-- The configuration in a file. -/
def readConfiguration (fs : FileSystem) (path : PlainPath) : Except Failure Configuration := do
  let bytes ← (fs.readAllowed path.text).mapError .file
  Configuration.ofBytes bytes

/-- What a path holds where a configuration is looked for. -/
inductive Finding
  | configuration (config : Configuration)
  /-- nothing of use, and the report of that -/
  | nothing (reason : Log.Entry)
  /-- a document that cannot even be judged -/
  | failure (cause : Failure)

/-- Look for a configuration. A document that is nested too deeply to be read is left alone. -/
def findConfiguration (fs : FileSystem) (path : PlainPath) : Finding :=
  match fs.readConfiguration path with
  | .ok config => .configuration config
  | .error (.file (.system .notFound _)) => .nothing (.configurationMissing path.text)
  | .error (.json (.tooDeep container)) => .failure (.json (.tooDeep container))
  | .error cause => .nothing (.configurationInvalid path.text cause)

/-- What comes of loading a configuration. Saving that ends in an error is an error here too, and so
is a document that is nested too deeply. -/
structure Loading where
  fileSystem : FileSystem
  log : List Log.Entry
  config : Except Failure Configuration

/-- What comes of taking the defaults once they have been saved or not. -/
def Saving.defaults (saving : Saving) : Except Failure Configuration :=
  (saving.saved.map fun _ => Configuration.defaults).mapError .file

/-- Load the configuration in a file, or report why there is none, take the defaults and save them
there. -/
def loadConfiguration (fs : FileSystem) (path : PlainPath) : Loading :=
  match fs.findConfiguration path with
  | .configuration config => ⟨fs, [.configurationLoaded path.text], .ok config⟩
  | .nothing reason =>
    let saving := fs.saveConfiguration Configuration.defaults path
    ⟨saving.fileSystem, reason :: saving.log, saving.defaults⟩
  | .failure cause => ⟨fs, [], .error cause⟩

end FileSystem

end TreeDump
