import TreeDump.Text.Blank
import TreeDump.Walk.Event

/-!
# Outlines

The artifact that shows how a tree is built: a section for each directory, sorted by path, with a
hyphen before the path and the names of the files below it.
-/

namespace TreeDump.Outline

/-- The path of a directory record. -/
def pathOf (record : DirectoryRecord) : Text :=
  record.place ++ record.name

/-- The path of the directory that holds a file. -/
def directoryOf (record : FileRecord) : Text :=
  Text.dropEndWhile (· == '/') record.place

/-- The directory that an event shows. -/
def directoryOfEvent : Event → Text
  | .file record => directoryOf record
  | .directory record => pathOf record

/-- The directories that get a section: the root, and all that the events show. -/
def directories (events : List Event) : List Text :=
  Text.sortDistinct ([] :: events.map directoryOfEvent)

/-- The names of the files directly in a directory, sorted. -/
def filesIn (events : List Event) (directory : Text) : List Text :=
  Text.sort ((events.filterMap Event.file?).filterMap fun record =>
    if directoryOf record = directory then some record.name else none)

/-- The section of a directory. -/
def sectionOf (withFiles : Bool) (events : List Event) (directory : Text) : Text :=
  ['\n'].intercalate
    (('-' :: directory) :: if withFiles then filesIn events directory else [])

/-- The sections of all directories, a blank line between them. -/
def assemble (withFiles : Bool) (events : List Event) : Text :=
  Text.trimEnd (['\n', '\n'].intercalate
    ((directories events).map (sectionOf withFiles events)))

end TreeDump.Outline
