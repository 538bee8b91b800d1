import TreeDump.Text.Basic

/-!
# Events

What a walk meets: files that it takes and directories that it goes on to. Places are display
paths of directories seen from the root of the walk, with a slash after each name, so that the
root itself is empty.
-/

namespace TreeDump

/-- A file that is taken. -/
structure FileRecord where
  /-- the path seen from the root -/
  path : Text
  content : Text
  /-- the place of the directory that holds the file -/
  place : Text
  name : Text
  deriving DecidableEq, Repr

/-- A directory that the walk goes on to. -/
structure DirectoryRecord where
  /-- the place of the directory that holds this one -/
  place : Text
  name : Text
  deriving DecidableEq, Repr

/-- What a walk meets. -/
inductive Event
  | file (record : FileRecord)
  | directory (record : DirectoryRecord)
  deriving DecidableEq, Repr

/-- The file of an event. -/
def Event.file? : Event → Option FileRecord
  | .file record => some record
  | .directory _ => none

/-- The directory of an event. -/
def Event.directory? : Event → Option DirectoryRecord
  | .file _ => none
  | .directory record => some record

end TreeDump
