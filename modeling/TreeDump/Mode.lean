import TreeDump.Text.Quoted

/-!
# Modes

What a run makes of a directory tree.
-/

namespace TreeDump

/-- The kinds of artifact. -/
inductive Mode
  /-- every file with its content -/
  | fullDump
  /-- the directories with the names of their files -/
  | structureWithFiles
  /-- the directories alone -/
  | structureDirectoriesOnly
  deriving DecidableEq, Repr

namespace Mode

/-- The name of a mode. -/
def name : Mode → Text
  | .fullDump => "full_dump".toList
  | .structureWithFiles => "structure_with_files".toList
  | .structureDirectoriesOnly => "structure_dirs_only".toList

/-- All modes. -/
def all : List Mode := [.fullDump, .structureWithFiles, .structureDirectoriesOnly]

/-- The complaint about a name that no mode has. -/
def unknownMessage (name : Text) : Text :=
  name.quoted ++ " is not a valid ScanMode".toList

/-- The mode of a name. -/
def ofName? (name : Text) : Option Mode :=
  all.find? fun mode => mode.name = name

end Mode

end TreeDump
