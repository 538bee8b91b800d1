import Mathlib.Data.List.Induction
import Mathlib.Tactic.Common
import TreeDump.Proofs.Artifact.Outline

/-!
# Trees that are alike

What a walk passes over leaves no trace. Two trees may differ in ignored directories and all that
lies below them, in files that are not allowed, and in entries that are neither file nor directory,
and also in where they stand: the walks through them show the same, and so do the artifacts.
-/

namespace TreeDump

namespace Source

/-- The trees under two roots have the same directories that are not ignored and, in them, the same
allowed files, with the same contents or with none that can be read. Nothing is said about what lies
below an ignored directory. -/
structure Alike (config : Configuration) (source : Source) (root : Text) (other : Source)
    (otherRoot : Text) : Prop where
  directories : ∀ names name, source.Visits config root names → config.ignores name = false →
    (source.Lists (Walk.pathTo root names) name .directory ↔
      other.Lists (Walk.pathTo otherRoot names) name .directory)
  files : ∀ names name, source.Visits config root names → config.allows name = true →
    (source.Lists (Walk.pathTo root names) name .file ↔
      other.Lists (Walk.pathTo otherRoot names) name .file)
  contents : ∀ names name, source.Visits config root names → config.allows name = true →
    source.Lists (Walk.pathTo root names) name .file →
    (source.read (Walk.pathTo root (names ++ [name]))).content.toOption
      = (other.read (Walk.pathTo otherRoot (names ++ [name]))).content.toOption

variable {source other : Source} {config : Configuration} {root otherRoot : Text}

/-- The names of the entries of one kind. -/
def named (source : Source) (kind : EntryKind) (path : Text) : List Text :=
  (source.entries path).filterMap (·.nameIf? kind)

lemma mem_named {kind : EntryKind} {path name : Text} :
    name ∈ source.named kind path ↔ source.Lists path name kind :=
  mem_filterMap_nameIf.trans lists_iff.symm

/-- It is enough to compare the directories of a list that holds the root, and with each directory
those that a walk goes on to. -/
lemma Alike.of_closed (tree : List (List Text)) (root_mem : [] ∈ tree)
    (closed : ∀ names ∈ tree,
      ((source.named .directory (Walk.pathTo root names)).filter (!config.ignores ·)).Perm
        ((other.named .directory (Walk.pathTo otherRoot names)).filter (!config.ignores ·)) ∧
      ((source.named .file (Walk.pathTo root names)).filter config.allows).Perm
        ((other.named .file (Walk.pathTo otherRoot names)).filter config.allows) ∧
      (∀ name ∈ source.named .directory (Walk.pathTo root names), config.ignores name = false →
        names ++ [name] ∈ tree) ∧
      ∀ name ∈ source.named .file (Walk.pathTo root names), config.allows name = true →
        (source.read (Walk.pathTo root (names ++ [name]))).content.toOption
          = (other.read (Walk.pathTo otherRoot (names ++ [name]))).content.toOption) :
    Alike config source root other otherRoot := by
  have inTree : ∀ names, source.Visits config root names → names ∈ tree := by
    intro names
    induction names using List.reverseRecOn with
    | nil => exact fun _ => root_mem
    | append_singleton names name ih =>
      intro visits
      obtain ⟨above, listed, kept⟩ := visits_concat.mp visits
      exact (closed names (ih above)).2.2.1 name (mem_named.mpr listed) kept
  constructor
  · intro names name visits kept
    have same := (closed names (inTree names visits)).1.mem_iff (a := name)
    simpa [mem_named, kept] using same
  · intro names name visits allowed
    have same := (closed names (inTree names visits)).2.1.mem_iff (a := name)
    simpa [mem_named, allowed] using same
  · intro names name visits allowed listed
    exact (closed names (inTree names visits)).2.2.2 name (mem_named.mpr listed) allowed

namespace Alike

/-! ### The directories -/

lemma wantedDirectories (alike : Alike config source root other otherRoot) {names : List Text}
    (visits : source.Visits config root names) :
    source.wantedDirectories config (Walk.pathTo root names)
      = other.wantedDirectories config (Walk.pathTo otherRoot names) := by
  apply Text.eq_of_pairwise_before (pairwise_wantedDirectories _) (pairwise_wantedDirectories _)
  intro name
  rw [mem_wantedDirectories, mem_wantedDirectories]
  exact and_congr_left fun kept => alike.directories names name visits kept

lemma wantedFiles (alike : Alike config source root other otherRoot) {names : List Text}
    (visits : source.Visits config root names) :
    source.wantedFiles config (Walk.pathTo root names)
      = other.wantedFiles config (Walk.pathTo otherRoot names) := by
  apply Text.eq_of_pairwise_before (pairwise_wantedFiles _) (pairwise_wantedFiles _)
  intro name
  rw [mem_wantedFiles, mem_wantedFiles]
  exact and_congr_left fun allowed => alike.files names name visits allowed

/-- The same directories are visited, in the same order. -/
lemma visited (alike : Alike config source root other otherRoot) :
    source.visited config root = other.visited config otherRoot := by
  rw [Source.visited, Source.visited]
  congr 1
  funext depth
  apply Walk.level_congr
  intro depth names mem
  exact alike.wantedDirectories (mem_level.mp mem).2

/-! ### The events -/

lemma contentFor (alike : Alike config source root other otherRoot) (mode : Mode)
    {names : List Text} (visits : source.Visits config root names) {name : Text}
    (wanted : name ∈ source.wantedFiles config (Walk.pathTo root names)) :
    source.contentFor mode (Path.join (Walk.pathTo root names) name)
      = other.contentFor mode (Path.join (Walk.pathTo otherRoot names) name) := by
  obtain ⟨listed, allowed⟩ := mem_wantedFiles.mp wanted
  have same := alike.contents names name visits allowed listed
  rw [Walk.pathTo_concat, Walk.pathTo_concat] at same
  rw [Source.contentFor, Source.contentFor, same]

lemma visit_events (alike : Alike config source root other otherRoot) (mode : Mode)
    {names : List Text} (visits : source.Visits config root names) :
    (Walk.visit source config mode (Walk.itemAt root names)).events
      = (Walk.visit other config mode (Walk.itemAt otherRoot names)).events := by
  simp only [Source.visit_events, Walk.itemAt_directory, Walk.itemAt_place,
    ← alike.wantedFiles visits, ← alike.wantedDirectories visits]
  congr 2
  apply List.filterMap_congr
  intro name wanted
  rw [alike.contentFor mode visits wanted]
  rfl

/-- Walks through trees that are alike show the same. -/
lemma events (alike : Alike config source root other otherRoot) (mode : Mode) :
    Walk.events (source.walk config mode root) = Walk.events (other.walk config mode otherRoot) := by
  rw [events_walk, events_walk, ← alike.visited]
  apply List.flatMap_congr
  intro names mem
  exact alike.visit_events mode (mem_visited.mp mem)

end Alike

end Source

namespace FileSystem

/-! ### The artifact -/

/-- The text of an artifact is made of the events of a walk and of nothing else. -/
lemma text_artifact (fs : FileSystem) (render : NotebookRenderer) (config : Configuration)
    (mode : Mode) (cleanup : Bool) (root : Text) :
    (fs.artifact render config mode cleanup root).map Artifact.text
      = ((fs.walk render config mode root).map Walk.events).map (assemble mode cleanup) := by
  rw [artifact]
  cases fs.walk render config mode root <;> rfl

/-- What is ignored or not allowed leaves no trace: the walks through trees that are alike show the
same events, and their artifacts are the same texts. -/
theorem artifact_of_alike {fs fs' : FileSystem} {render render' : NotebookRenderer}
    {config : Configuration} {root root' : Text}
    (alike : Source.Alike config (fs.source render) root (fs'.source render') root')
    (asked : '\x00' ∈ root ↔ '\x00' ∈ root') (mode : Mode) (cleanup : Bool) :
    (fs.walk render config mode root).map Walk.events
        = (fs'.walk render' config mode root').map Walk.events ∧
      (fs.artifact render config mode cleanup root).map Artifact.text
        = (fs'.artifact render' config mode cleanup root').map Artifact.text := by
  have events : (fs.walk render config mode root).map Walk.events
      = (fs'.walk render' config mode root').map Walk.events := by
    simp only [walk, asked]
    split
    · rfl
    · exact congrArg Except.ok (alike.events mode)
  refine ⟨events, ?_⟩
  rw [text_artifact, text_artifact, events]

/-- The sample tree under another name: the ignored directory cannot be listed, the link is a
directory, and there are two more entries that a walk passes over. -/
def sampleTreeElsewhere : FileSystem where
  nodes := [("s", .directory), ("s/b.py", .file []), ("s/notes.txt", .file [0xff]),
    ("s/src", .directory), ("s/src/a.c", .file []), ("s/src/q.py", .pipe), ("s/tmp", .directory),
    ("s/more", .directory), ("s/more/a.c", .file [])].foldl
      (fun nodes (path, node) => nodes.insert (Path.components path.toList) node) .empty
  workingDirectory := []
  denied := [(.opening, "/s/tmp".toList)]

/-- A configuration for the sample trees. -/
def sampleConfiguration : Configuration where
  extensions := ⟨["c".toList, "py".toList], by simp [Text.Before, Text.inOrder]⟩
  ignored := ⟨["tmp".toList], List.pairwise_singleton _ _⟩

theorem artifact_of_alike_sampleTree :
    Source.Alike sampleConfiguration (sampleTree.source .ok) "/r".toList
        (sampleTreeElsewhere.source .ok) "/s".toList ∧
      (sampleTree.walk .ok sampleConfiguration .fullDump "/r".toList).map Walk.events
          = (sampleTreeElsewhere.walk .ok sampleConfiguration .fullDump "/s".toList).map
              Walk.events ∧
        (sampleTree.artifact .ok sampleConfiguration .fullDump true "/r".toList).map Artifact.text
          = (sampleTreeElsewhere.artifact .ok sampleConfiguration .fullDump true "/s".toList).map
              Artifact.text := by
  have alike : Source.Alike sampleConfiguration (sampleTree.source .ok) "/r".toList
      (sampleTreeElsewhere.source .ok) "/s".toList :=
    .of_closed [[], ["src".toList], ["more".toList]] (by decide) (by decide +kernel)
  exact ⟨alike, artifact_of_alike alike (by decide) .fullDump true⟩

end FileSystem

end TreeDump
