import TreeDump.Artifact.Basic
import TreeDump.Configuration.File
import TreeDump.Delivery
import TreeDump.Registration.Profile

/-!
# The state of a run

What a run meets, where its log goes, and what it has done so far. A report goes out at once: a log
file holds all that has been reported before the run goes on, and the run may come to read it.
-/

namespace TreeDump

/-- What a run meets besides the file system and the command line. -/
structure Surroundings where
  /-- the path under which the program was started -/
  program : Text
  /-- the home directory of the user -/
  home : Text
  /-- the search path of the process, as the system hands it over -/
  searchPath : RawText
  /-- the width of the screen, as the environment states it -/
  columns : Option Text
  /-- the configuration file that the environment names -/
  configVariable : Option Text
  defaultConfig : PlainPath
  clipboard : Clipboard
  encoder : Encoder
  notebooks : NotebookRenderer
  /-- the time that stands before the lines of a log file -/
  stamp : Text

/-! ### Where the log goes -/

/-- Where the log of a run goes. -/
inductive LogTarget
  /-- short lines on the console -/
  | console
  /-- full lines on the console -/
  | consoleInFull
  /-- a file, and how much has been written to it -/
  | file (path : Text) (written : Nat)
  deriving DecidableEq, Repr

/-- The content with `bytes` written over it from an offset on. A gap is filled with zeros. -/
def overwrite (offset : Nat) (bytes content : Bytes) : Bytes :=
  content.take offset ++ List.replicate (offset - content.length) 0 ++ bytes
    ++ content.drop (offset + bytes.length)

/-- The state of a run: the file system, and what has been printed and reported so far. -/
structure RunState where
  fileSystem : FileSystem
  target : LogTarget
  output : Text
  errorOutput : Text

namespace RunState

/-- Print a text. -/
def print (state : RunState) (text : Text) : RunState :=
  { state with output := state.output ++ text }

/-- Report an entry. -/
def report (surroundings : Surroundings) (state : RunState) (entry : Log.Entry) : RunState :=
  match state.target with
  | .console =>
    { state with errorOutput := state.errorOutput ++ (entry.consoleLine?).getD [] }
  | .consoleInFull =>
    { state with errorOutput := state.errorOutput ++ entry.fileLine surroundings.stamp }
  | .file path written =>
    let bytes := Utf8.encode (entry.fileLine surroundings.stamp)
    match state.fileSystem.modify path (overwrite written bytes) with
    | .ok fs => { state with fileSystem := fs, target := .file path (written + bytes.length) }
    | .error _ => state

/-- Report several entries. -/
def reportAll (surroundings : Surroundings) (state : RunState) (log : List Log.Entry) :
    RunState :=
  log.foldl (report surroundings) state

/-- Take the members of a list one after another, each in the state that the one before has left. -/
def each {α β : Type} (step : RunState → α → RunState × β) (state : RunState) :
    List α → RunState × List β
  | [] => (state, [])
  | a :: rest =>
    let (state, b) := step state a
    let (state, others) := state.each step rest
    (state, b :: others)

end RunState

end TreeDump
