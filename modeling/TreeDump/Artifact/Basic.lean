import TreeDump.Artifact.Dump
import TreeDump.Artifact.Outline
import TreeDump.Walk.Basic

/-!
# Artifacts

The text that a run delivers, by mode.
-/

namespace TreeDump

/-- The artifact of some events. Only a dump shows contents, so only there they are cleaned. -/
def assemble (mode : Mode) (cleanup : Bool) (events : List Event) : Text :=
  match mode with
  | .fullDump => Dump.assemble cleanup events
  | .structureWithFiles => Outline.assemble true events
  | .structureDirectoriesOnly => Outline.assemble false events

/-- An artifact, with the number of events that went into it and the report of the walk. -/
structure Artifact where
  text : Text
  eventCount : Nat
  log : List Log.Entry

/-- The artifact of a walk. -/
def Artifact.ofVisits (mode : Mode) (cleanup : Bool) (visits : List Walk.Visit) : Artifact :=
  let events := Walk.events visits
  ⟨assemble mode cleanup events, events.length, Walk.report visits⟩

/-- The artifact of a directory tree. -/
def FileSystem.artifact (fs : FileSystem) (render : NotebookRenderer) (config : Configuration)
    (mode : Mode) (cleanup : Bool) (root : Text) : Except FileError Artifact :=
  (fs.walk render config mode root).map (Artifact.ofVisits mode cleanup)

end TreeDump
