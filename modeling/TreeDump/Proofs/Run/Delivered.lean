import TreeDump.Proofs.Artifact.Outline
import TreeDump.Proofs.Configuration.Outcome
import TreeDump.Proofs.Run.Repeated

/-!
# What a run delivers

A run that scans ends in one of two ways. When the directory to scan is one, once the configuration
has been loaded, the artifact goes to exactly one place; otherwise the directory is refused, and
nothing is delivered. Loading may make the directory on its way to the configuration file, and never
takes one away.
-/

namespace TreeDump

/-! ### Reports -/

/-- The second state comes from the first by reports: no more has been printed, directories and
links are as they were, and the log goes on to the console or to a file. -/
structure RunState.Reports (before after : RunState) : Prop where
  output : after.output = before.output
  keeps : before.fileSystem.Keeps after.fileSystem
  target : after.target.isFile = before.target.isFile

namespace RunState

variable {a b c : RunState}

lemma Reports.refl (state : RunState) : state.Reports state :=
  ⟨rfl, .refl _, rfl⟩

lemma Reports.trans (h : a.Reports b) (h' : b.Reports c) : a.Reports c :=
  ⟨h'.output.trans h.output, h.keeps.trans h'.keeps, h'.target.trans h.target⟩

end RunState

namespace Run

variable {surroundings : Surroundings} {options : Options} {fs fs' : FileSystem}

/-! ### The directory to scan -/

/-- The state in which a directory is scanned: the introduction has been printed, and the scan has
been announced. -/
def announced (surroundings : Surroundings) (options : Options) (config : Configuration)
    (directory : Text) (loaded : RunState) : RunState :=
  (loaded.print (banner config (configFile surroundings options))).reportAll surroundings
    (intention directory options)

end Run

end TreeDump
