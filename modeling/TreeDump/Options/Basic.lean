import TreeDump.Mode

/-!
# Options

What the command line can say: switches, settings with a value, and one directory.
-/

namespace TreeDump

/-- The flags that stand alone. -/
inductive Switch
  | help
  | console
  | cleanup
  | outline
  | directories
  | setPath
  | progress
  | logging
  deriving DecidableEq, Repr

/-- The flags with a value. -/
inductive Setting
  | config
  | logFile
  deriving DecidableEq, Repr

/-- The flags. -/
inductive Flag
  | switch (switch : Switch)
  | setting (setting : Setting)
  deriving DecidableEq, Repr

/-- What a setting is given: a text, or nothing at all. -/
inductive SettingValue
  | text (text : Text)
  | nothing
  deriving DecidableEq, Repr

/-- The text of a value, if it has one that is not empty. -/
def SettingValue.text? : SettingValue → Option Text
  | .text [] | .nothing => none
  | .text t => some t

/-- What a command line asks for. -/
structure Options where
  directory : Option Text := none
  console : Bool := false
  cleanup : Bool := false
  /-- only the structure, with the names of files -/
  outline : Bool := false
  /-- only the structure, without files -/
  directories : Bool := false
  setPath : Bool := false
  progress : Bool := false
  logging : Bool := false
  config : Option SettingValue := none
  logFile : SettingValue := .text "codestruct.log".toList
  deriving DecidableEq, Repr

namespace Options

/-- Turn a switch on. Asking for help is not kept. -/
def turnOn (options : Options) : Switch → Options
  | .help => options
  | .console => { options with console := true }
  | .cleanup => { options with cleanup := true }
  | .outline => { options with outline := true }
  | .directories => { options with directories := true }
  | .setPath => { options with setPath := true }
  | .progress => { options with progress := true }
  | .logging => { options with logging := true }

/-- Give a setting its value. -/
def give (options : Options) (value : SettingValue) : Setting → Options
  | .config => { options with config := some value }
  | .logFile => { options with logFile := value }

/-- The mode of a run. An outline with files comes before one without. -/
def mode (options : Options) : Mode :=
  if options.outline then .structureWithFiles
  else if options.directories then .structureDirectoriesOnly
  else .fullDump

end Options

end TreeDump
