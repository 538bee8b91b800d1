import TreeDump.Text.Blank
import TreeDump.Text.LowerCase
import TreeDump.Text.Sorted

/-!
# Configurations

Which files are taken and which directories are passed over, and the two tests that a walk makes
with them.
-/

namespace TreeDump

/-- The extensions of the files to take, and the names of the directories to pass over. -/
structure Configuration where
  extensions : TextSet
  ignored : TextSet

/-- An extension as it is compared: trimmed, without leading points, in small letters. -/
def normalizeExtension (extension : Text) : Text :=
  Text.lower ((Text.trim extension).dropWhile (· == '.'))

/-- The extension of a file name: the text after its last point in small letters, and nothing for
a name without a point. -/
def extensionOf (name : Text) : Text :=
  if '.' ∈ name then Text.lower (name.reverse.takeWhile (· != '.')).reverse else []

namespace Configuration

/-- The configuration of two lists. Blank items do not count. -/
def ofLists (extensions ignored : List Text) : Configuration :=
  let named (texts : List Text) := texts.filter fun t => t.trim != []
  ⟨.ofList ((named extensions).map normalizeExtension), .ofList ((named ignored).map Text.trim)⟩

/-- Is a file of this name taken? -/
def allows (config : Configuration) (name : Text) : Bool :=
  extensionOf name != [] && config.extensions.contains (extensionOf name)

/-- Is a directory of this name passed over? -/
def ignores (config : Configuration) (name : Text) : Bool :=
  config.ignored.contains name

/-! ### Defaults -/

/-- The extensions that are taken by default. -/
def defaultExtensions : List Text :=
  ["c", "h", "cpp", "hpp", "cs", "csproj", "cshtml", "csx", "csharp", "vb", "java", "kotlin",
   "py", "php", "js", "ts", "html", "css", "go", "ruby", "pl", "r", "groovy", "swift", "asm",
   "bat", "cmd", "ps1"].map String.toList

/-- The directories that are passed over by default. -/
def defaultIgnored : List Text :=
  ["node_modules", ".git", ".svn", ".run", ".idea", "bin", "obj", ".vs", ".vscode", ".metadata",
   ".recommenders", ".settings", ".angular", ".keep", ".venv", ".virtualenv", "_builds", "_notes",
   "Build", "Debug", "release", "tmp", "temp"].map String.toList

/-- The configuration in force when none is found. -/
def defaults : Configuration :=
  ofLists defaultExtensions defaultIgnored

end Configuration

end TreeDump
