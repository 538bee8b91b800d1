import TreeDump.Run.State

/-!
# The walk of a run

A run reports while it walks, and may keep its log in a file of the tree through which it goes. So a
file is read as it is once all has been reported that comes before it. The visits are those of a
walk through a file system that changes on the way.
-/

namespace TreeDump.Run

open Walk

/-- The files as the walk finds them in a state. -/
def source (surroundings : Surroundings) (state : RunState) : Source :=
  state.fileSystem.source surroundings.notebooks

/-- Take a file. Some of the report goes out before the file is read, and the rest behind it. -/
def visitFile (surroundings : Surroundings) (mode : Mode) (item : Item) (state : RunState)
    (name : Text) : RunState × Outcome :=
  let before :=
    if mode = .fullDump then Reading.announcement (Path.join item.directory name) else []
  let state := state.reportAll surroundings before
  let outcome := Walk.visitFile (source surroundings state) mode item name
  (state.reportAll surroundings (outcome.log.drop before.length), outcome)

/-- Go on to a subdirectory, or pass it over. -/
def visitDirectory (surroundings : Surroundings) (config : Configuration) (item : Item)
    (state : RunState) (name : Text) : RunState × Outcome :=
  let outcome := Walk.visitDirectory config item name
  (state.reportAll surroundings outcome.log, outcome)

/-- Visit a directory. -/
def visit (surroundings : Surroundings) (config : Configuration) (mode : Mode) (state : RunState)
    (item : Item) : RunState × Visit :=
  match (source surroundings state).list item.directory with
  | .error e =>
    let log := [.unreadableDirectory item.directory e]
    (state.reportAll surroundings log, ⟨item, log, []⟩)
  | .ok entries =>
    let listing := Listing.ofEntries item.directory entries
    let files :=
      if mode = .structureDirectoriesOnly then [] else listing.files.filter config.allows
    let state := state.reportAll surroundings listing.log
    let (state, taken) := state.each (visitFile surroundings mode item) files
    let (state, passed) := state.each (visitDirectory surroundings config item) listing.directories
    (state, ⟨item, listing.log, taken ++ passed⟩)

/-- Visit the items of a level in order, then their children, and so on for at most `depth`
levels. -/
def levels (visit : RunState → Item → RunState × Visit) :
    Nat → RunState → List Item → RunState × List Visit
  | 0, state, _ => (state, [])
  | depth + 1, state, items =>
    if items.isEmpty then (state, [])
    else
      let (state, visits) := state.each visit items
      let (state, later) := levels visit depth state (visits.flatMap Visit.children)
      (state, visits ++ later)

/-- Walk through the tree of a directory. -/
def walk (surroundings : Surroundings) (config : Configuration) (mode : Mode) (root : Text)
    (state : RunState) : RunState × List Visit :=
  levels (visit surroundings config mode) (FileSystem.pathLimit + 1) state [⟨root, []⟩]

/-- Make the artifact of a directory tree. A root with a null character is refused. -/
def buildArtifact (surroundings : Surroundings) (config : Configuration) (mode : Mode)
    (cleanup : Bool) (root : Text) (state : RunState) : RunState × Except FileError Artifact :=
  if '\x00' ∈ root then (state, .error .nullByte)
  else
    let (state, visits) := walk surroundings config mode root state
    (state, .ok (.ofVisits mode cleanup visits))

end TreeDump.Run
