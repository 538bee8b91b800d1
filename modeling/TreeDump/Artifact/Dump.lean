import TreeDump.Comment
import TreeDump.Text.Blank
import TreeDump.Walk.Event

/-!
# Dumps

The artifact that holds the content of every file: the path of the file, and its content between
two fences. The content is shown as it is, or in a short form without comments and with one space
between words.
-/

namespace TreeDump

/-- The content without comments, on one line, its words one space apart. -/
def cleanUp (content : Text) : Text :=
  Text.collapseBlanks (Comment.strip content)

namespace Dump

/-- The line before and after a content. -/
def fence : Text := "```".toList

/-- The block of a file. -/
def block (path content : Text) : Text :=
  path ++ '\n' :: fence ++ '\n' :: content ++ '\n' :: fence ++ ['\n']

/-- The content that is shown of a file. -/
def contentOf (cleanup : Bool) (record : FileRecord) : Text :=
  if cleanup then cleanUp record.content else record.content

/-- The blocks of the files among the events, in their order, without the last line end. -/
def assemble (cleanup : Bool) (events : List Event) : Text :=
  Text.trimEnd ((events.filterMap Event.file?).flatMap fun record =>
    block record.path (contentOf cleanup record))

end Dump

end TreeDump
