import TreeDump.Artifact.Basic
import TreeDump.Proofs.Text.Blank
import TreeDump.Proofs.Text.Lines

/-!
# Dumps that are read back

The lines of a dump are those of its blocks. A content none of whose lines is a fence ends at the
first fence after it, whatever else its lines are, so that the paths and contents of such files are
read back from the dump alone. The end that a dump is trimmed of is the last line feed. A content
that has been cleaned is a single line, whatever it was, and is read back by its position.
-/

namespace TreeDump

namespace Dump

/-! ### The lines of a dump -/

/-- The lines of the block of a file. -/
def blockLines (path content : Text) : List Text :=
  path :: fence :: (content.lines ++ [fence])

lemma lines_block_append {path : Text} (oneLine : '\n' ∉ path) (content rest : Text) :
    (block path content ++ rest).lines = blockLines path content ++ rest.lines := by
  have noLineFeed : '\n' ∉ fence := by decide
  have block : block path content ++ rest
      = path ++ '\n' :: (fence ++ '\n' :: (content ++ '\n' :: (fence ++ '\n' :: rest))) := by
    simp [block]
  rw [block, Text.lines_append, Text.lines_append, Text.lines_append, Text.lines_append,
    Text.lines_eq_singleton oneLine, Text.lines_eq_singleton noLineFeed]
  simp [blockLines]

lemma block_eq_concat (path content : Text) :
    ∃ body, block path content = body ++ ['\n'] ∧ body.EndsVisibly := by
  refine ⟨path ++ '\n' :: fence ++ '\n' :: content ++ '\n' :: fence, ?_, ?_⟩
  · simp [block]
  · exact ⟨path ++ '\n' :: fence ++ '\n' :: content ++ '\n' :: ['`', '`'], '`', by simp [fence],
      by decide⟩

variable {records : List FileRecord} {contentOf : FileRecord → Text}

/-- The blocks of some files, with what is shown of each. -/
def blocks (contentOf : FileRecord → Text) (records : List FileRecord) : Text :=
  records.flatMap fun record => block record.path (contentOf record)

lemma lines_blocks (contentOf : FileRecord → Text)
    (oneLine : ∀ record ∈ records, '\n' ∉ record.path) :
    (blocks contentOf records).lines
      = (records.flatMap fun record => blockLines record.path (contentOf record)) ++ [[]] := by
  induction records with
  | nil => rfl
  | cons record records ih =>
    obtain ⟨here, others⟩ := List.forall_mem_cons.mp oneLine
    have step := lines_block_append here (contentOf record) (blocks contentOf records)
    rw [ih others] at step
    simpa [blocks] using step

/-- Trimming takes the last line feed away and nothing else. -/
lemma trimEnd_blocks (nonempty : records ≠ []) :
    blocks contentOf records = Text.trimEnd (blocks contentOf records) ++ ['\n'] := by
  obtain none | ⟨others, last, rfl⟩ := List.eq_nil_or_concat' records
  · exact absurd none nonempty
  · obtain ⟨body, concat, visible⟩ := block_eq_concat last.path (contentOf last)
    have whole : blocks contentOf (others ++ [last])
        = (blocks contentOf others ++ body) ++ ['\n'] := by
      simp [blocks, concat]
    rw [whole, Text.trimEnd, Text.dropEndWhile_concat_of_pos (by decide), ← Text.trimEnd,
      (visible.append _).trimEnd_eq]

lemma lines_trimEnd_blocks (contentOf : FileRecord → Text) (nonempty : records ≠ [])
    (oneLine : ∀ record ∈ records, '\n' ∉ record.path) :
    (Text.trimEnd (blocks contentOf records)).lines
      = records.flatMap fun record => blockLines record.path (contentOf record) := by
  have lines := lines_blocks contentOf oneLine
  rw [trimEnd_blocks nonempty, Text.lines_append] at lines
  exact List.append_cancel_right lines

/-! ### Reading a dump -/

/-- The lines before the first fence, and those after it. -/
def cutAtFence? : List Text → Option (List Text × List Text)
  | [] => none
  | line :: lines =>
    if line = fence then some ([], lines)
    else (cutAtFence? lines).map fun (before, after) => (line :: before, after)

lemma length_lt_of_cutAtFence? {lines before after : List Text}
    (h : cutAtFence? lines = some (before, after)) : after.length < lines.length := by
  induction lines generalizing before with
  | nil => cases h
  | cons line lines ih =>
    rw [cutAtFence?] at h
    split at h
    · cases h
      exact Nat.lt_succ_self _
    · obtain ⟨⟨before', after'⟩, cut, same⟩ := Option.map_eq_some_iff.mp h
      cases same
      exact Nat.lt_succ_of_lt (ih cut)

lemma cutAtFence?_append {before : List Text} (h : fence ∉ before) (after : List Text) :
    cutAtFence? (before ++ fence :: after) = some (before, after) := by
  induction before with
  | nil => exact if_pos rfl
  | cons line before ih =>
    obtain ⟨here, others⟩ := List.ne_and_not_mem_of_not_mem_cons h
    rw [List.cons_append, cutAtFence?, if_neg (Ne.symm here), ih others]
    rfl

/-- The paths and contents that lines show: a path, a fence, and the lines up to the next fence,
again and again. -/
def filesIn? : List Text → Option (List (Text × Text))
  | [] => some []
  | [_] => none
  | path :: opening :: lines =>
    if opening = fence then
      match _ : cutAtFence? lines with
      | none => none
      | some (content, rest) =>
        (filesIn? rest).map fun files => (path, ['\n'].intercalate content) :: files
    else none
termination_by lines => lines.length
decreasing_by
  have shorter := length_lt_of_cutAtFence? ‹cutAtFence? lines = some (content, rest)›
  simp only [List.length_cons]
  omega

/-- The paths and contents that a dump shows. A dump of no files is empty. -/
def files? (dump : Text) : Option (List (Text × Text)) :=
  if dump = [] then some [] else filesIn? dump.lines

lemma filesIn?_blockLines {content : Text} (noFence : fence ∉ content.lines) (path : Text)
    (rest : List Text) :
    filesIn? (blockLines path content ++ rest)
      = (filesIn? rest).map fun files => (path, content) :: files := by
  have cut : cutAtFence? (content.lines ++ fence :: rest) = some (content.lines, rest) :=
    cutAtFence?_append noFence rest
  have lines : blockLines path content ++ rest
      = path :: fence :: (content.lines ++ fence :: rest) := by
    simp [blockLines]
  rw [lines, filesIn?, if_pos rfl]
  split
  next none => simp [cut] at none
  next some =>
    rw [cut] at some
    cases some
    rw [Text.intercalate_lines]

lemma filesIn?_flatMap_blockLines
    (noFence : ∀ record ∈ records, fence ∉ (contentOf record).lines) :
    filesIn? (records.flatMap fun record => blockLines record.path (contentOf record))
      = some (records.map fun record => (record.path, contentOf record)) := by
  induction records with
  | nil => rw [List.flatMap_nil, filesIn?, List.map_nil]
  | cons record records ih =>
    obtain ⟨here, others⟩ := List.forall_mem_cons.mp noFence
    rw [List.flatMap_cons, filesIn?_blockLines here, ih others]
    rfl

/-- The paths and contents of files are read back from their dump, unless a path has more than one
line or a content has a fence among its lines. Trimming takes nothing from a content. -/
theorem files?_assemble (events : List Event)
    (oneLine : ∀ record ∈ events.filterMap Event.file?, '\n' ∉ record.path)
    (noFence : ∀ record ∈ events.filterMap Event.file?, fence ∉ record.content.lines) :
    files? (TreeDump.assemble .fullDump false events)
        = some ((events.filterMap Event.file?).map fun record => (record.path, record.content)) ∧
      (events.filterMap Event.file? ≠ [] →
        (events.filterMap Event.file?).flatMap (fun record => block record.path record.content)
          = TreeDump.assemble .fullDump false events ++ ['\n']) := by
  have dump : TreeDump.assemble .fullDump false events
      = Text.trimEnd (blocks FileRecord.content (events.filterMap Event.file?)) := rfl
  rw [dump]
  refine ⟨?_, trimEnd_blocks⟩
  generalize events.filterMap Event.file? = records at oneLine noFence ⊢
  by_cases none : records = []
  · subst none
    rfl
  · have lines := lines_trimEnd_blocks FileRecord.content none oneLine
    rw [files?, if_neg, lines, filesIn?_flatMap_blockLines noFence]
    intro empty
    rw [empty] at lines
    obtain ⟨first, others, rfl⟩ := List.exists_cons_of_ne_nil none
    simp [blockLines, Text.lines] at lines

/-- Files whose contents have fences inside of lines, blanks at their ends, or nothing. -/
def sampleFiles : List Event :=
  [.file ⟨"a.md".toList, "```` \n a ```\n\n \t".toList, [], "a.md".toList⟩,
   .directory ⟨[], "src".toList⟩,
   .file ⟨"src/b.c".toList, [], "src/".toList, "b.c".toList⟩,
   .file ⟨"src/c.c".toList, "int c;\r\n```c\n\n".toList, "src/".toList, "c.c".toList⟩]

theorem files?_assemble_sampleFiles :
    files? (TreeDump.assemble .fullDump false sampleFiles)
        = some [("a.md".toList, "```` \n a ```\n\n \t".toList), ("src/b.c".toList, []),
            ("src/c.c".toList, "int c;\r\n```c\n\n".toList)] ∧
      (sampleFiles.filterMap Event.file?).flatMap (fun record => block record.path record.content)
        = TreeDump.assemble .fullDump false sampleFiles ++ ['\n'] := by
  obtain ⟨read, trimmed⟩ := files?_assemble sampleFiles (by decide) (by decide)
  exact ⟨read, trimmed (by decide)⟩

/-! ### Cleaned contents -/

/-- A cleaned content has no line end of any kind, also where a comment or a literal had one. -/
lemma lineFeed_not_mem_cleanUp (content : Text) : '\n' ∉ cleanUp content := by
  intro mem
  exact absurd (Text.eq_space_of_mem_collapseBlanks mem (by decide)) (by decide)

/-- The lines that are shown of a file whose content has been cleaned. -/
def cleanedLines (record : FileRecord) : List Text :=
  [record.path, fence, cleanUp record.content, fence]

lemma blockLines_cleanUp (record : FileRecord) :
    blockLines record.path (cleanUp record.content) = cleanedLines record := by
  rw [blockLines, Text.lines_eq_singleton (lineFeed_not_mem_cleanUp record.content)]
  rfl

/-- The paths and contents that lines show by their positions: of each four lines, the first is a
path and the third is its content. -/
def filesByPosition : List Text → List (Text × Text)
  | path :: _ :: content :: _ :: lines => (path, content) :: filesByPosition lines
  | _ => []

lemma filesByPosition_flatMap_cleanedLines (records : List FileRecord) :
    filesByPosition (records.flatMap cleanedLines)
      = records.map fun record => (record.path, cleanUp record.content) := by
  induction records with
  | nil => rfl
  | cons record records ih =>
    rw [List.map_cons, ← ih]
    rfl

/-- The dump of cleaned contents has four lines for each file, whatever the contents are, unless a
path has more than one line. Paths and cleaned contents are read back by their positions. -/
theorem lines_assemble_cleaned (events : List Event)
    (oneLine : ∀ record ∈ events.filterMap Event.file?, '\n' ∉ record.path) :
    (events.filterMap Event.file? = [] → TreeDump.assemble .fullDump true events = []) ∧
      (events.filterMap Event.file? ≠ [] →
        (TreeDump.assemble .fullDump true events).lines
            = ((events.filterMap Event.file?).flatMap fun record =>
                [record.path, fence, cleanUp record.content, fence]) ∧
          (TreeDump.assemble .fullDump true events).lines.length
            = 4 * (events.filterMap Event.file?).length ∧
          filesByPosition (TreeDump.assemble .fullDump true events).lines
            = (events.filterMap Event.file?).map fun record =>
                (record.path, cleanUp record.content)) := by
  have dump : TreeDump.assemble .fullDump true events
      = Text.trimEnd (blocks (fun record => cleanUp record.content)
          (events.filterMap Event.file?)) := rfl
  rw [dump]
  generalize events.filterMap Event.file? = records at oneLine ⊢
  constructor
  · rintro rfl
    rfl
  · intro nonempty
    have lines := lines_trimEnd_blocks (fun record => cleanUp record.content) nonempty oneLine
    simp only [blockLines_cleanUp] at lines
    rw [lines]
    refine ⟨rfl, ?_, filesByPosition_flatMap_cleanedLines records⟩
    have four : ∀ record, (cleanedLines record).length = 4 := fun _ => rfl
    simp [List.length_flatMap, four, Nat.mul_comm]

/-- Files with a fence for a line, line ends in comments and literals, and open ends. -/
def sampleSources : List Event :=
  [.file ⟨"a.c".toList, "int a; // one\r\n```\n/* two\n".toList, [], "a.c".toList⟩,
   .directory ⟨[], "src".toList⟩,
   .file ⟨"src/b.c".toList, "'open\n// \t```".toList, "src/".toList, "b.c".toList⟩,
   .file ⟨"src/c.c".toList, "//".toList, "src/".toList, "c.c".toList⟩]

theorem lines_assemble_cleaned_sampleSources :
    (∀ record ∈ sampleSources.filterMap Event.file?, '\n' ∉ record.path) ∧
      (TreeDump.assemble .fullDump true sampleSources).lines
        = ["a.c".toList, fence, "int a; ```".toList, fence,
            "src/b.c".toList, fence, "'open // ```".toList, fence,
            "src/c.c".toList, fence, [], fence] ∧
      filesByPosition (TreeDump.assemble .fullDump true sampleSources).lines
        = [("a.c".toList, "int a; ```".toList), ("src/b.c".toList, "'open // ```".toList),
            ("src/c.c".toList, [])] := by
  have oneLine : ∀ record ∈ sampleSources.filterMap Event.file?, '\n' ∉ record.path := by decide
  obtain ⟨lines, -, files⟩ := (lines_assemble_cleaned sampleSources oneLine).2 (by decide)
  exact ⟨oneLine, lines.trans (by decide +kernel), files.trans (by decide +kernel)⟩

end Dump

end TreeDump
