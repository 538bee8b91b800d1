import TreeDump.Log
import TreeDump.Path.SearchList

/-!
# Registration

What comes of adding a directory to the search path of the user.
-/

namespace TreeDump

/-- What comes of a registration. -/
inductive Registration
  | added
  | present
  | failed (cause : Text)
  deriving DecidableEq, Repr

namespace Registration

/-- Has the search path been changed? -/
def changed : Registration → Bool
  | .added => true
  | .present | .failed _ => false

/-- What is printed. -/
def output : Registration → Text
  | .added => "CodeStruct path has been added to the system PATH variable.\n".toList
  | .present => "CodeStruct path is already in the system PATH variable.\n".toList
  | .failed cause => "Failed to set environment path: ".toList ++ cause ++ ['\n']

/-- What is reported. -/
def log : Registration → List Log.Entry
  | .added | .present => []
  | .failed cause => [.registrationFailed cause]

/-- The directory of the program with the given path, seen from the working directory. -/
def programDirectory (workingDirectory program : Text) : Text :=
  Path.parentOf (Path.absolute workingDirectory program)

end Registration

end TreeDump
