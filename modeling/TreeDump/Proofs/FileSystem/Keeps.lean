import TreeDump.FileSystem.Access
import TreeDump.Proofs.FileSystem.Leads
import TreeDump.Proofs.Path.Plain

/-!
# What changes leave alone

Paths are resolved by the relation `Leads`. A file system that keeps the directories and links
of another leads every path to a directory where it led before, and every path to a place that was
free, or held a file, to what stands there now.
-/

namespace TreeDump.FileSystem

variable {fs fs' : FileSystem} {purpose : Purpose} {path : PlainPath} {target : Target}

/-! ### Resolving paths -/

/-- A path that the system follows at all: it is not empty, holds no null character, is not too
long, and starts at a directory. -/
structure Admits (fs : FileSystem) (text : Text) : Prop where
  nonempty : text ≠ []
  noNull : '\x00' ∉ text
  short : text.utf8Length < pathLimit
  start : fs.node? (fs.start text) = some .directory

lemma mapError_eq_ok {ε ε' α : Type} {f : ε → ε'} {result : Except ε α} {a : α} :
    result.mapError f = .ok a ↔ result = .ok a := by
  cases result <;> simp [Except.mapError]

lemma admits_of_resolve {text : Text} (h : fs.resolve purpose text = .ok target) :
    fs.Admits text := by
  have noNull : '\x00' ∉ text := by
    intro null
    rw [resolve, if_pos null] at h
    cases h
  rw [resolve, if_neg noNull] at h
  have nonempty : text ≠ [] := by
    intro empty
    rw [if_pos empty] at h
    cases h
  rw [if_neg nonempty] at h
  have short : text.utf8Length < pathLimit := by
    by_contra long
    rw [if_pos (Nat.not_lt.mp long)] at h
    cases h
  rw [if_neg (Nat.not_le.mpr short)] at h
  refine ⟨nonempty, noNull, short, ?_⟩
  by_contra noStart
  rw [if_neg noStart] at h
  cases h

lemma resolve_of_admits {text : Text} (admits : fs.Admits text) :
    fs.resolve purpose text =
      (fs.follow purpose linkLimit (fs.trailTo (fs.start text))
        (Path.components text)).mapError (.system · text) := by
  rw [resolve, if_neg admits.noNull, if_neg admits.nonempty,
    if_neg (Nat.not_le.mpr admits.short), if_pos admits.start]

/-- A path leads where its components lead. -/
theorem resolve_text_eq_ok {text : Text} :
    fs.resolve purpose text = .ok target ↔
      fs.Admits text ∧
        Leads fs purpose linkLimit (fs.start text) (Path.components text) target := by
  constructor
  · intro h
    have admits := admits_of_resolve h
    rw [resolve_of_admits admits, mapError_eq_ok, follow_eq_ok] at h
    exact ⟨admits, h⟩
  · rintro ⟨admits, h⟩
    rw [resolve_of_admits admits, mapError_eq_ok, follow_eq_ok]
    exact h

lemma text_ne_nil (path : PlainPath) : path.text ≠ [] := by
  rw [PlainPath.text, Path.orHere]
  split
  next => decide
  next nonempty => exact nonempty

/-- A plain path leads where its names lead. -/
theorem resolve_eq_ok :
    fs.resolve purpose path.text = .ok target ↔
      fs.Admits path.text ∧
        Leads fs purpose linkLimit (fs.start path.text) path.names target := by
  obtain ⟨blanks, blank, components⟩ := path.components_text
  rw [resolve_text_eq_ok, components, Leads.stay_iff blank]

/-- A path that the system is asked about leads somewhere, or the system refuses it. -/
lemma eq_system_of_resolve {purpose : Purpose} {e : FileError} (noNull : '\x00' ∉ path.text)
    (h : fs.resolve purpose path.text = .error e) : ∃ error, e = .system error path.text := by
  rw [resolve, if_neg noNull] at h
  split at h
  · cases h
    exact ⟨_, rfl⟩
  split at h
  · cases h
    exact ⟨_, rfl⟩
  split at h
  · cases leads : fs.follow purpose linkLimit (fs.trailTo (fs.start path.text))
        (Path.components path.text) with
    | ok target => simp [leads, Except.mapError] at h
    | error error =>
      rw [leads] at h
      cases h
      exact ⟨error, rfl⟩
  · cases h
    exact ⟨_, rfl⟩

lemma isDirectory_iff {text : Text} :
    fs.isDirectory text = true ↔
      ∃ place, fs.resolve .look text = .ok (place, some .directory) := by
  rw [isDirectory]
  constructor
  · intro h
    split at h
    next place leads => exact ⟨place, leads⟩
    next => cases h
  · rintro ⟨place, leads⟩
    rw [leads]

lemma Admits.parent (admits : fs.Admits path.text) : fs.Admits path.parent.text where
  nonempty := text_ne_nil path.parent
  noNull null := admits.noNull (PlainPath.mem_text_of_parent (by decide) null)
  short := Nat.lt_of_le_of_lt path.utf8Length_parent_le admits.short
  start := by
    rw [PlainPath.start_congr fs (show path.parent.lead = path.lead from rfl)]
    exact admits.start

/-- A path that leads anywhere leads through a directory. -/
lemma isDirectory_parent (h : fs.resolve purpose path.text = .ok target) :
    fs.isDirectory path.parent.text = true := by
  obtain ⟨admits, leads⟩ := resolve_eq_ok.mp h
  have start := PlainPath.start_congr fs (show path.parent.lead = path.lead from rfl)
  rw [isDirectory_iff]
  obtain none | ⟨above, name, concat⟩ := List.eq_nil_or_concat' path.names
  · refine ⟨fs.start path.text, resolve_eq_ok.mpr ⟨admits.parent, ?_⟩⟩
    rw [start, PlainPath.names_parent, none]
    exact .here
  · rw [concat] at leads
    obtain ⟨through, leads⟩ := leads.directory_of_append (by simp)
    refine ⟨through, resolve_eq_ok.mpr ⟨admits.parent, ?_⟩⟩
    rw [start, PlainPath.names_parent, concat, List.dropLast_concat]
    exact leads

/-- A path leads to the same target for another purpose that follows links, unless the target is a
link, or a directory that would be written to. -/
lemma resolve_for {text : Text} {other : Purpose} (h : fs.resolve purpose text = .ok target)
    (follows : other ≠ .lookAtName) (notLink : ∀ text, target.2 ≠ some (.link text))
    (notDirectory : other = .write → target.2 ≠ some .directory) :
    fs.resolve other text = .ok target := by
  obtain ⟨admits, leads⟩ := resolve_text_eq_ok.mp h
  exact resolve_text_eq_ok.mpr ⟨admits, leads.follow_for follows notLink notDirectory⟩

lemma resolve_ne_link {text : Text} (h : fs.resolve purpose text = .ok target)
    (purpose_ne : purpose ≠ .lookAtName) (other : Text) : target.2 ≠ some (.link other) :=
  (resolve_text_eq_ok.mp h).2.ne_link purpose_ne other

/-! ### What is kept -/

/-- The second file system has the directories and the links of the first. -/
structure Keeps (fs fs' : FileSystem) : Prop where
  directory : ∀ place, fs.node? place = some .directory → fs'.node? place = some .directory
  link : ∀ place text, fs.node? place = some (.link text) → fs'.node? place = some (.link text)
  workingDirectory : fs'.workingDirectory = fs.workingDirectory
  denied : fs'.denied = fs.denied

lemma Keeps.refl (fs : FileSystem) : fs.Keeps fs :=
  ⟨fun _ h => h, fun _ _ h => h, rfl, rfl⟩

lemma Keeps.trans {fs'' : FileSystem} (keeps : fs.Keeps fs') (keeps' : fs'.Keeps fs'') :
    fs.Keeps fs'' where
  directory place h := keeps'.directory place (keeps.directory place h)
  link place text h := keeps'.link place text (keeps.link place text h)
  workingDirectory := keeps'.workingDirectory.trans keeps.workingDirectory
  denied := keeps'.denied.trans keeps.denied

lemma Keeps.start_eq (keeps : fs.Keeps fs') (text : Text) : fs'.start text = fs.start text := by
  rw [start, start, keeps.workingDirectory]

lemma Keeps.admits (keeps : fs.Keeps fs') {text : Text} (admits : fs.Admits text) :
    fs'.Admits text where
  nonempty := admits.nonempty
  noNull := admits.noNull
  short := admits.short
  start := by
    rw [keeps.start_eq]
    exact keeps.directory _ admits.start

lemma Keeps.isDenied_eq (keeps : fs.Keeps fs') (denial : Denial) (text : Text) :
    fs'.isDenied denial text = fs.isDenied denial text := by
  simp only [isDenied, absolute, keeps.workingDirectory, keeps.denied]

lemma Leads.directory_of_keeps {links : Nat} {place names through : List Text}
    (keeps : fs.Keeps fs')
    (h : Leads fs purpose links place names (through, some .directory)) :
    Leads fs' purpose links place names (through, some .directory) := by
  generalize htarget : (through, some Node.directory) = target at h
  induction h with
  | here => exact .here
  | stay blank _ ih => exact .stay blank (ih htarget)
  | up _ ih => exact .up (ih htarget)
  | enter enters node _ ih => exact .enter enters (keeps.directory _ node) (ih htarget)
  | follow enters node through _ ih =>
    exact .follow enters (keeps.link _ _ node) through (ih htarget)
  | stop _ _ final =>
    cases htarget
    exact absurd rfl final.1

lemma Leads.node_of_keeps {links : Nat} {place names : List Text} (keeps : fs.Keeps fs')
    (h : Leads fs purpose links place names target) (notDirectory : target.2 ≠ some .directory)
    (notLink : ∀ text, fs'.node? target.1 ≠ some (.link text)) :
    Leads fs' purpose links place names (target.1, fs'.node? target.1) := by
  induction h with
  | here => exact absurd rfl notDirectory
  | stay blank _ ih => exact .stay blank (ih notDirectory notLink)
  | up _ ih => exact .up (ih notDirectory notLink)
  | enter enters node _ ih =>
    exact .enter enters (keeps.directory _ node) (ih notDirectory notLink)
  | follow enters node through _ ih =>
    exact .follow enters (keeps.link _ _ node) through (ih notDirectory notLink)
  | @stop _ place name _ enters node final =>
    by_cases now : fs'.node? (place ++ [name]) = some .directory
    · rw [now]
      exact .enter enters now .here
    · exact .stop enters rfl ⟨now, fun text isLink => absurd isLink (notLink text)⟩

/-- A path to a directory leads there still. -/
lemma Keeps.resolve_directory {place : List Text} {text : Text} (keeps : fs.Keeps fs')
    (h : fs.resolve purpose text = .ok (place, some .directory)) :
    fs'.resolve purpose text = .ok (place, some .directory) := by
  obtain ⟨admits, leads⟩ := resolve_text_eq_ok.mp h
  rw [resolve_text_eq_ok, keeps.start_eq]
  exact ⟨keeps.admits admits, leads.directory_of_keeps keeps⟩

lemma Keeps.isDirectory {text : Text} (keeps : fs.Keeps fs') (h : fs.isDirectory text = true) :
    fs'.isDirectory text = true := by
  obtain ⟨place, leads⟩ := isDirectory_iff.mp h
  exact isDirectory_iff.mpr ⟨place, keeps.resolve_directory leads⟩

/-! ### Setting a node -/

/-- What a path leads to is no directory and no link, so that a node can be set there. -/
def Free (target : Target) : Prop :=
  target.2 ≠ some .directory ∧ ∀ text, target.2 ≠ some (.link text)

lemma free_none (place : List Text) : Free (place, none) :=
  ⟨by simp, by simp⟩

lemma node?_eq_of_resolve {text : Text} (h : fs.resolve purpose text = .ok target)
    (free : Free target) : target.1 ≠ [] ∧ fs.node? target.1 = target.2 :=
  (resolve_text_eq_ok.mp h).2.node?_eq free.1

lemma keeps_set {text : Text} (h : fs.resolve purpose text = .ok target) (free : Free target)
    (node : Node) : fs.Keeps (fs.set target.1 node) := by
  obtain ⟨nonempty, before⟩ := node?_eq_of_resolve h free
  have elsewhere : ∀ place, fs.node? place ≠ target.2 →
      (fs.set target.1 node).node? place = fs.node? place := by
    intro place other
    rw [node?_set fs nonempty, if_neg]
    rintro rfl
    exact other before
  refine ⟨?_, ?_, rfl, rfl⟩
  · intro place there
    rw [elsewhere place (there ▸ free.1.symm), there]
  · intro place text there
    rw [elsewhere place (there ▸ (free.2 text).symm), there]

lemma node?_of_set_file {place changed : List Text} {content : Bytes} {node : Node}
    (nonempty : changed ≠ [])
    (there : (fs.set changed (.file content)).node? place = some node)
    (other : node ≠ .file content) : fs.node? place = some node := by
  rw [node?_set fs nonempty] at there
  split at there
  · cases there
    exact absurd rfl other
  · exact there

/-- With a file set somewhere, what leads anywhere leads to the file, or where it led before. -/
lemma Leads.of_set_file {links : Nat} {place names changed : List Text} {content : Bytes}
    (nonempty : changed ≠ [])
    (h : Leads (fs.set changed (.file content)) purpose links place names target) :
    target = (changed, some (.file content)) ∨ Leads fs purpose links place names target := by
  induction h with
  | here => exact .inr .here
  | stay blank _ ih => exact ih.imp_right (.stay blank)
  | up _ ih => exact ih.imp_right .up
  | enter enters node _ ih =>
    exact ih.imp_right (.enter enters (node?_of_set_file nonempty node (by simp)))
  | follow enters node through _ ih =>
    exact ih.imp_right (.follow enters (node?_of_set_file nonempty node (by simp)) through)
  | stop enters node final =>
    rw [node?_set fs nonempty] at node
    split at node
    next same => exact .inl (by rw [same, node])
    next => exact .inr (.stop enters node final)

lemma resolve_of_set_file {text : Text} {changed : List Text} {content : Bytes}
    (nonempty : changed ≠ [])
    (h : (fs.set changed (.file content)).resolve purpose text = .ok target) :
    target = (changed, some (.file content)) ∨ fs.resolve purpose text = .ok target := by
  obtain ⟨admits, leads⟩ := resolve_text_eq_ok.mp h
  have admitted : fs.Admits text := by
    refine ⟨admits.nonempty, admits.noNull, admits.short, ?_⟩
    exact node?_of_set_file nonempty admits.start (by simp)
  exact (leads.of_set_file nonempty).imp_right fun leads => resolve_text_eq_ok.mpr ⟨admitted, leads⟩

/-- The path leads to what has been set. -/
lemma resolve_set {text : Text} (h : fs.resolve purpose text = .ok target) (free : Free target)
    {node : Node} (notLink : ∀ text, node ≠ .link text) :
    (fs.set target.1 node).resolve purpose text = .ok (target.1, some node) := by
  obtain ⟨admits, leads⟩ := resolve_text_eq_ok.mp h
  have keeps := keeps_set h free node
  have now : (fs.set target.1 node).node? target.1 = some node := by
    rw [node?_set fs (node?_eq_of_resolve h free).1, if_pos rfl]
  refine resolve_text_eq_ok.mpr ⟨keeps.admits admits, ?_⟩
  rw [keeps.start_eq, ← now]
  apply leads.node_of_keeps keeps free.1
  intro text
  rw [now, ne_eq, Option.some.injEq]
  exact notLink text

end TreeDump.FileSystem
