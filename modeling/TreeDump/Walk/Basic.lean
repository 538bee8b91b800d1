import TreeDump.Walk.Event
import TreeDump.Walk.Source

/-!
# The walk

A walk goes through a directory tree breadth first: the directories of one level in order, then
those of the next. In each directory it first takes the files whose extension is allowed, then goes
on to the subdirectories that are not ignored, both by name. A directory that cannot be listed and
a file that cannot be read are reported and left out.
-/

namespace TreeDump

/-! ### Listings -/

/-- The files and the subdirectories of a directory by name, with a report of the entries whose
kind is out of reach. -/
structure Listing where
  files : List Text
  directories : List Text
  log : List Log.Entry

/-- The name of an entry of the given kind. -/
def DirectoryEntry.nameIf? (kind : EntryKind) (entry : DirectoryEntry) : Option Text :=
  match entry.kind with
  | .ok k => if k = kind then some entry.name else none
  | .error _ => none

/-- The report of an entry whose kind is out of reach. -/
def DirectoryEntry.log? (directory : Text) (entry : DirectoryEntry) : Option Log.Entry :=
  match entry.kind with
  | .ok _ => none
  | .error e => some (.inaccessibleEntry (Path.join directory entry.name) e)

/-- The listing of the entries of a directory. -/
def Listing.ofEntries (directory : Text) (entries : List DirectoryEntry) : Listing where
  files := Text.sort (entries.filterMap (·.nameIf? .file))
  directories := Text.sort (entries.filterMap (·.nameIf? .directory))
  log := entries.filterMap (·.log? directory)

/-! ### One directory -/

namespace Walk

/-- A directory to visit: its path, and its place seen from the root of the walk. -/
structure Item where
  directory : Text
  place : Text
  deriving DecidableEq, Repr

/-- What comes of one entry of a directory. -/
structure Outcome where
  events : List Event
  log : List Log.Entry
  children : List Item

/-- What comes of one directory. -/
structure Visit where
  item : Item
  /-- the report of the listing -/
  log : List Log.Entry
  /-- what comes of the entries; there are none when the listing fails -/
  outcomes : List Outcome

/-- The events of a visit. -/
def Visit.events (visit : Visit) : List Event :=
  visit.outcomes.flatMap Outcome.events

/-- The whole report of a visit. -/
def Visit.report (visit : Visit) : List Log.Entry :=
  visit.log ++ visit.outcomes.flatMap Outcome.log

/-- The directories to visit later. -/
def Visit.children (visit : Visit) : List Item :=
  visit.outcomes.flatMap Outcome.children

/-- The record of a file of a directory. -/
def Item.fileRecord (item : Item) (name content : Text) : FileRecord :=
  ⟨item.place ++ name, content, item.place, name⟩

/-- A subdirectory as a directory to visit. -/
def Item.child (item : Item) (name : Text) : Item :=
  ⟨Path.join item.directory name, item.place ++ name ++ ['/']⟩

/-- Take a file. Its content is read for a dump only. -/
def visitFile (source : Source) (mode : Mode) (item : Item) (name : Text) : Outcome :=
  let path := Path.join item.directory name
  let reading : Reading := if mode = .fullDump then source.read path else ⟨.ok [], []⟩
  match reading.content with
  | .ok content =>
    ⟨[.file (item.fileRecord name content)],
      reading.log ++ [.sourceFound (item.place ++ name)], []⟩
  | .error cause => ⟨[], reading.log ++ [.unreadableFile path cause], []⟩

/-- Go on to a subdirectory, or pass it over. -/
def visitDirectory (config : Configuration) (item : Item) (name : Text) : Outcome :=
  if config.ignores name then ⟨[], [.ignoredDirectory (item.place ++ name)], []⟩
  else ⟨[.directory ⟨item.place, name⟩], [], [item.child name]⟩

/-- Visit a directory. -/
def visit (source : Source) (config : Configuration) (mode : Mode) (item : Item) : Visit :=
  match source.list item.directory with
  | .error e => ⟨item, [.unreadableDirectory item.directory e], []⟩
  | .ok entries =>
    let listing := Listing.ofEntries item.directory entries
    let files :=
      if mode = .structureDirectoriesOnly then [] else listing.files.filter config.allows
    ⟨item, listing.log,
      files.map (visitFile source mode item)
        ++ listing.directories.map (visitDirectory config item)⟩

/-! ### All directories -/

/-- Visit the items of a level in order, then their children, and so on for at most `depth`
levels. -/
def levels (visit : Item → Visit) : Nat → List Item → List Visit
  | 0, _ => []
  | depth + 1, items =>
    if items.isEmpty then []
    else
      let visits := items.map visit
      visits ++ levels visit depth (visits.flatMap Visit.children)

end Walk

/-- The visits of a walk from `root`. Every level makes paths longer, so that there are fewer
levels than a path may have characters. -/
def Source.walk (source : Source) (config : Configuration) (mode : Mode) (root : Text) :
    List Walk.Visit :=
  Walk.levels (Walk.visit source config mode) (FileSystem.pathLimit + 1) [⟨root, []⟩]

/-- The events of a walk. -/
def Walk.events (visits : List Walk.Visit) : List Event :=
  visits.flatMap Walk.Visit.events

/-- The report of a walk. -/
def Walk.report (visits : List Walk.Visit) : List Log.Entry :=
  visits.flatMap Walk.Visit.report

namespace FileSystem

/-- Walk through a file system. A root with a null character is refused. -/
def walk (fs : FileSystem) (render : NotebookRenderer) (config : Configuration) (mode : Mode)
    (root : Text) : Except FileError (List Walk.Visit) :=
  if '\x00' ∈ root then .error .nullByte
  else .ok ((fs.source render).walk config mode root)

/-- The listing of a directory. -/
def listing (fs : FileSystem) (path : Text) : Except FileError Listing :=
  (fs.listAllowed path).map (Listing.ofEntries path)

end FileSystem

end TreeDump
