import TreeDump.Encoding.Basic
import TreeDump.Failure
import TreeDump.Mode

/-!
# The log

What a run has to report, entry by entry, and the two layouts of a log line.
-/

namespace TreeDump.Log

/-- How much an entry matters. -/
inductive Level
  | debug
  | info
  | warning
  | error
  deriving DecidableEq, Repr

/-- The name of a level. -/
def Level.name : Level → Text
  | .debug => "DEBUG".toList
  | .info => "INFO".toList
  | .warning => "WARNING".toList
  | .error => "ERROR".toList

/-- Something to report. -/
inductive Entry
  | configurationLoaded (path : Text)
  | configurationMissing (path : Text)
  | configurationInvalid (path : Text) (cause : Failure)
  | configurationSaved (path : Text)
  | configurationUnsaved (path : Text) (cause : FileError)
  | notebookConverted (path : Text)
  | notUtf16 (path : Text) (cause : DecodeError)
  | readAsCp1252 (path : Text)
  | readAsLatin1 (path : Text)
  | inaccessibleEntry (path : Text) (cause : FileError)
  | unreadableDirectory (path : Text) (cause : FileError)
  | unreadableFile (path : Text) (cause : Failure)
  | sourceFound (path : Text)
  | ignoredDirectory (path : Text)
  | tokensEstimated (cause : Text)
  | asciiFallback
  | clipboardFailed (cause : Text)
  | registrationFailed (cause : Text)
  | invalidDirectory (path : Text)
  | workingDirectory (path : Text)
  | generating (mode : Mode)
  | cleanupChosen (cleanup : Bool)
  | generated
  | tokensCounted (count : Nat)
  | writingToConsole
  | copyingToClipboard
  | runFailed
  deriving DecidableEq, Repr

namespace Entry

/-- The level of an entry. -/
def level : Entry → Level
  | .configurationLoaded _ | .configurationSaved _ | .notebookConverted _
  | .ignoredDirectory _ => .debug
  | .configurationMissing _ | .sourceFound _ | .workingDirectory _ | .generating _
  | .cleanupChosen _ | .generated | .tokensCounted _ | .writingToConsole
  | .copyingToClipboard => .info
  | .configurationInvalid _ _ | .notUtf16 _ _ | .readAsCp1252 _ | .readAsLatin1 _
  | .tokensEstimated _ | .asciiFallback => .warning
  | .configurationUnsaved _ _ | .inaccessibleEntry _ _ | .unreadableDirectory _ _
  | .unreadableFile _ _ | .clipboardFailed _ | .registrationFailed _ | .invalidDirectory _
  | .runFailed => .error

/-- The wording of an entry. -/
def message : Entry → Text
  | .configurationLoaded path => "Configuration loaded: ".toList ++ path
  | .configurationMissing path => "No configuration found, creating defaults: ".toList ++ path
  | .configurationInvalid path cause =>
    "Invalid configuration ".toList ++ path ++ " (".toList ++ cause.message
      ++ "), restoring defaults".toList
  | .configurationSaved path => "Configuration saved: ".toList ++ path
  | .configurationUnsaved path cause =>
    "Could not save configuration to ".toList ++ path ++ ": ".toList ++ cause.message
  | .notebookConverted path => "Converting notebook to markdown: ".toList ++ path
  | .notUtf16 path cause =>
    "File ".toList ++ path ++ " has a UTF-16 BOM but is not UTF-16: ".toList ++ cause.message
  | .readAsCp1252 path => "File ".toList ++ path ++ " read with cp1252 encoding".toList
  | .readAsLatin1 path => "File ".toList ++ path ++ " read with latin-1 encoding".toList
  | .inaccessibleEntry path cause =>
    "Cannot access entry ".toList ++ path ++ ": ".toList ++ cause.message
  | .unreadableDirectory path cause =>
    "Cannot read directory ".toList ++ path ++ ": ".toList ++ cause.message
  | .unreadableFile path cause =>
    "Cannot read file ".toList ++ path ++ ": ".toList ++ cause.message
  | .sourceFound path => "Source found: ".toList ++ path
  | .ignoredDirectory path => "Ignored directory: ".toList ++ path
  | .tokensEstimated cause => "Token counting unavailable, estimating: ".toList ++ cause
  | .asciiFallback => "Output written with ASCII fallback due to encoding issues".toList
  | .clipboardFailed cause => "Error copying to clipboard: ".toList ++ cause
  | .registrationFailed cause => "Failed to set environment path: ".toList ++ cause
  | .invalidDirectory path => "Invalid directory: ".toList ++ path
  | .workingDirectory path => "Working directory: ".toList ++ path
  | .generating .fullDump => "Generating code structure...".toList
  | .generating .structureWithFiles => "Generating directory structure with files...".toList
  | .generating .structureDirectoriesOnly =>
    "Generating directory structure without files...".toList
  | .cleanupChosen true => "Cleanup content: True".toList
  | .cleanupChosen false => "Cleanup content: False".toList
  | .generated => "Structure has been successfully generated!".toList
  | .tokensCounted count => "Total tokens: ".toList ++ Text.ofNatGrouped count
  | .writingToConsole => "Writing to console...".toList
  | .copyingToClipboard => "Copying to clipboard...".toList
  | .runFailed => "An error occurred in the main execution".toList

/-- The line of an entry on the console. Entries of the lowest level do not appear there. -/
def consoleLine? (entry : Entry) : Option Text :=
  match entry.level with
  | .debug => none
  | level => some (level.name ++ ": ".toList ++ entry.message ++ ['\n'])

/-- The line of an entry in a log file, at the time `stamp`. -/
def fileLine (stamp : Text) (entry : Entry) : Text :=
  stamp ++ " - ".toList ++ entry.level.name ++ " - ".toList ++ entry.message ++ ['\n']

end Entry

end TreeDump.Log
