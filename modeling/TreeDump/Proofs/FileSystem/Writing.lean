import TreeDump.Proofs.FileSystem.Keeps

/-!
# Reading what has been written

A path that is written to leads to the changed file from then on, or to something that has swallowed
what was written. What cannot be written cannot be read. No change of a file touches directories and
links.
-/

namespace TreeDump.FileSystem

variable {fs fs' : FileSystem} {path : PlainPath} {text : Text}

/-! ### Contents -/

/-- The content of a node that is a file. -/
def contentOf? : Option Node → Option Bytes
  | some (.file content) => some content
  | _ => none

lemma contentOf?_eq_some_iff {node? : Option Node} {content : Bytes} :
    contentOf? node? = some content ↔ node? = some (.file content) := by
  fun_cases contentOf? node? with
  | case1 => simp
  | case2 _ notFile => simpa using notFile content

/-- The content of the file that a path leads to, if it leads to a file. -/
def content? (fs : FileSystem) (text : Text) : Option Bytes :=
  match fs.resolve .look text with
  | .ok (_, node?) => contentOf? node?
  | .error _ => none

/-- The path leads to nothing that is there. -/
def Missing (fs : FileSystem) (path : PlainPath) : Prop :=
  ∀ place node, fs.resolve .look path.text ≠ .ok (place, some node)

lemma content?_eq {target : Target} (leads : fs.resolve .look text = .ok target) :
    fs.content? text = contentOf? target.2 := by
  rw [content?, leads]

lemma content?_eq_some_iff {content : Bytes} :
    fs.content? text = some content ↔
      ∃ place, fs.resolve .look text = .ok (place, some (.file content)) := by
  constructor
  · intro holds
    rw [content?] at holds
    split at holds
    next place node? leads => exact ⟨place, by rw [leads, contentOf?_eq_some_iff.mp holds]⟩
    next => cases holds
  · rintro ⟨place, leads⟩
    rw [content?_eq leads]
    rfl

/-! ### Reading -/

lemma read_of_swallows {place : List Text} {node : Node}
    (leads : fs.resolve .look text = .ok (place, some node)) (swallows : node.swallows = true) :
    fs.read text = .ok [] := by
  rw [read, leads]
  cases node <;> first | rfl | cases swallows

/-- What is read is the content of a file, or nothing, where all that is written is swallowed. -/
lemma read_eq_ok_iff {bytes : Bytes} :
    fs.read text = .ok bytes ↔ fs.content? text = some bytes ∨
      bytes = [] ∧ ∃ place node, fs.resolve .look text = .ok (place, some node) ∧
        node.swallows = true := by
  constructor
  · intro h
    rw [read] at h
    split at h
    next place content leads =>
      cases h
      exact .inl (content?_eq_some_iff.mpr ⟨place, leads⟩)
    next => cases h
    next => cases h
    next place node notFile notDirectory notSocket leads =>
      cases h
      refine .inr ⟨rfl, place, node, leads, ?_⟩
      cases node with
      | file content => exact absurd rfl (notFile content)
      | directory => exact absurd rfl notDirectory
      | link other => exact absurd rfl (resolve_ne_link leads (by simp) other)
      | socket => exact absurd rfl notSocket
      | pipe | nullDevice => rfl
    next => cases h
    next => cases h
  · rintro (holds | ⟨rfl, place, node, leads, swallows⟩)
    · obtain ⟨place, leads⟩ := content?_eq_some_iff.mp holds
      rw [read, leads]
    · exact read_of_swallows leads swallows

lemma read_eq_error_of_not_isDirectory (above : fs.isDirectory path.parent.text = false) :
    ∃ e, fs.read path.text = .error e := by
  cases leads : fs.resolve .look path.text with
  | error e => exact ⟨e, by rw [read, leads]⟩
  | ok target =>
    rw [isDirectory_parent leads] at above
    cases above

lemma eq_system_of_read {e : FileError} (noNull : '\x00' ∉ path.text)
    (h : fs.read path.text = .error e) : ∃ error text, e = .system error text := by
  rw [read] at h
  split at h
  case h_6 failed =>
    cases h
    obtain ⟨error, rfl⟩ := eq_system_of_resolve noNull failed
    exact ⟨_, _, rfl⟩
  all_goals cases h
  all_goals exact ⟨_, _, rfl⟩

lemma eq_system_of_unlessDenied {α : Type} {denial : Denial} {action : Except FileError α}
    {e : FileError} (system : ∀ e, action = .error e → ∃ error text, e = .system error text)
    (h : fs.unlessDenied denial text action = .error e) : ∃ error text, e = .system error text := by
  rw [unlessDenied] at h
  split at h
  next =>
    cases h
    exact ⟨_, _, rfl⟩
  next => exact system e h

lemma unlessDenied_eq_ok_iff {α : Type} {denial : Denial} {action : Except FileError α} {a : α} :
    fs.unlessDenied denial text action = .ok a ↔
      fs.isDenied denial text = false ∧ action = .ok a := by
  cases denied : fs.isDenied denial text <;> simp [unlessDenied, denied]

/-- What may not be opened may be neither read nor written. -/
lemma isDenied_of_opening (denial : Denial) (closed : fs.isDenied .opening text = true) :
    fs.isDenied denial text = true := by
  rw [isDenied, Bool.or_self] at closed
  rw [isDenied, closed, Bool.true_or]

lemma readAllowed_eq_error
    (h : fs.isDenied .reading text = true ∨ ∃ e, fs.read text = .error e) :
    ∃ e, fs.readAllowed text = .error e := by
  rw [readAllowed, unlessDenied]
  split
  next => exact ⟨_, rfl⟩
  next allowed => exact h.resolve_left allowed

/-! ### Changing a file -/

/-- What comes of changing the content of a file: a file with the changed content, or nothing, where
it is swallowed. A new file starts empty. -/
inductive Modifies (fs : FileSystem) (text : Text) (change : Bytes → Bytes) : FileSystem → Prop
  | file {target : Target} (leads : fs.resolve .write text = .ok target) (free : Free target) :
      Modifies fs text change
        (fs.set target.1 (.file (change ((contentOf? target.2).getD []))))
  | swallowed {place : List Text} {node : Node}
      (leads : fs.resolve .write text = .ok (place, some node)) (swallows : node.swallows = true) :
      Modifies fs text change fs

lemma modifies_of_modify {change : Bytes → Bytes} (h : fs.modify text change = .ok fs') :
    Modifies fs text change fs' := by
  rw [modify] at h
  split at h
  next leads =>
    cases h
    exact .file leads ⟨by simp, by simp⟩
  next leads =>
    cases h
    exact .file leads (free_none _)
  next => cases h
  next => cases h
  next place node notFile notDirectory notSocket leads =>
    cases h
    refine .swallowed leads ?_
    cases node with
    | file content => exact absurd rfl (notFile content)
    | directory => exact absurd rfl notDirectory
    | link other => exact absurd rfl (resolve_ne_link leads (by simp) other)
    | socket => exact absurd rfl notSocket
    | pipe | nullDevice => rfl
  next => cases h

lemma modify_of_swallows {place : List Text} {node : Node} {change : Bytes → Bytes}
    (leads : fs.resolve .write text = .ok (place, some node)) (swallows : node.swallows = true) :
    fs.modify text change = .ok fs := by
  rw [modify, leads]
  cases node <;> first | rfl | cases swallows

/-- Writing at a path, wherever it leads, leaves directories and links alone. -/
lemma Modifies.keeps {change : Bytes → Bytes} (h : Modifies fs text change fs') : fs.Keeps fs' := by
  cases h with
  | file leads free => exact keeps_set leads free _
  | swallowed => exact .refl fs

lemma keeps_modify {change : Bytes → Bytes} (h : fs.modify text change = .ok fs') :
    fs.Keeps fs' :=
  (modifies_of_modify h).keeps

lemma resolve_written {target : Target} (leads : fs.resolve .write text = .ok target)
    (free : Free target) (content : Bytes) :
    (fs.set target.1 (.file content)).resolve .look text = .ok (target.1, some (.file content)) := by
  have written := resolve_set leads free (show ∀ text, Node.file content ≠ .link text by simp)
  exact resolve_for written (by simp) (by simp) (by simp)

/-- What a path is written to is what it leads to. -/
lemma resolve_look_of_write {target : Target} (leads : fs.resolve .write text = .ok target) :
    fs.resolve .look text = .ok target :=
  resolve_for leads (by simp) (resolve_ne_link leads (by simp)) (by simp)

lemma content?_of_swallows {place : List Text} {node : Node}
    (leads : fs.resolve .look text = .ok (place, some node)) (swallows : node.swallows = true) :
    fs.content? text = none := by
  rw [content?_eq leads]
  cases node <;> first | rfl | cases swallows

/-- A file has the changed content from then on. -/
lemma content?_of_modify {change : Bytes → Bytes} (h : fs.modify text change = .ok fs')
    (keeps : ∀ place node, fs.resolve .look text = .ok (place, some node) →
      node.swallows = false) :
    fs'.content? text = some (change ((fs.content? text).getD [])) := by
  cases modifies_of_modify h with
  | file leads free =>
    rw [content?_eq (resolve_look_of_write leads), content?_eq (resolve_written leads free _)]
    rfl
  | swallowed leads swallows =>
    rw [keeps _ _ (resolve_look_of_write leads)] at swallows
    cases swallows

lemma eq_system_of_modify {change : Bytes → Bytes} {e : FileError} (noNull : '\x00' ∉ path.text)
    (h : fs.modify path.text change = .error e) : ∃ error text, e = .system error text := by
  rw [modify] at h
  split at h
  case h_6 failed =>
    cases h
    obtain ⟨error, rfl⟩ := eq_system_of_resolve noNull failed
    exact ⟨_, _, rfl⟩
  all_goals cases h
  all_goals exact ⟨_, _, rfl⟩

/-! ### Writing a file -/

/-- What comes of writing: a file with the content, or nothing, where it is swallowed. -/
abbrev Writes (fs : FileSystem) (text : Text) (content : Bytes) : FileSystem → Prop :=
  Modifies fs text fun _ => content

lemma writes_of_write {content : Bytes} (h : fs.write text content = .ok fs') :
    Writes fs text content fs' :=
  modifies_of_modify h

/-- With a file set somewhere, what is read is its content, or could be read before. -/
lemma read_of_set_file {changed : List Text} {content bytes : Bytes} (nonempty : changed ≠ [])
    (h : (fs.set changed (.file content)).read text = .ok bytes) :
    bytes = content ∨ fs.read text = .ok bytes := by
  rcases read_eq_ok_iff.mp h with holds | ⟨rfl, place, node, leads, swallows⟩
  · obtain ⟨place, leads⟩ := content?_eq_some_iff.mp holds
    rcases resolve_of_set_file nonempty leads with file | leads
    · cases file
      exact .inl rfl
    · exact .inr (read_eq_ok_iff.mpr (.inl (content?_eq_some_iff.mpr ⟨place, leads⟩)))
  · rcases resolve_of_set_file nonempty leads with file | leads
    · cases file
      cases swallows
    · exact .inr (read_of_swallows leads swallows)

/-- What is read after writing has been written, or could be read before. -/
lemma read_of_write {other : Text} {content bytes : Bytes} (h : fs.write text content = .ok fs')
    (reads : fs'.read other = .ok bytes) : bytes = content ∨ fs.read other = .ok bytes := by
  cases writes_of_write h with
  | file leads free => exact read_of_set_file (node?_eq_of_resolve leads free).1 reads
  | swallowed => exact .inr reads

/-- What cannot be written cannot be read. -/
lemma read_eq_error_of_write {content : Bytes} {e : FileError}
    (h : fs.write text content = .error e) : ∃ e', fs.read text = .error e' := by
  cases reads : fs.read text with
  | error e' => exact ⟨e', rfl⟩
  | ok bytes =>
    have opens : ∃ place node, fs.resolve .look text = .ok (place, some node) ∧
        ((∃ content, node = .file content) ∨ node.swallows = true) := by
      rcases read_eq_ok_iff.mp reads with holds | ⟨-, place, node, leads, swallows⟩
      · obtain ⟨place, leads⟩ := content?_eq_some_iff.mp holds
        exact ⟨place, _, leads, .inl ⟨bytes, rfl⟩⟩
      · exact ⟨place, node, leads, .inr swallows⟩
    obtain ⟨place, node, leads, kind⟩ := opens
    have notDirectory : node ≠ .directory := by
      rintro rfl
      simp [Node.swallows] at kind
    have written : fs.resolve .write text = .ok (place, some node) :=
      resolve_for leads (by simp) (resolve_ne_link leads (by simp)) (by simpa using notDirectory)
    rcases kind with ⟨_, rfl⟩ | swallows
    · rw [write, modify, written] at h
      cases h
    · rw [write, modify_of_swallows written swallows] at h
      cases h

lemma readAllowed_eq_error_of_writeAllowed {content : Bytes} {e : FileError}
    (h : fs.writeAllowed text content = .error e) : ∃ e', fs.readAllowed text = .error e' := by
  apply readAllowed_eq_error
  rw [writeAllowed, unlessDenied] at h
  split at h
  next closed => exact .inl (isDenied_of_opening .reading closed)
  next => exact .inr (read_eq_error_of_write h)

/-- What has been written once is written again without another change. -/
lemma write_again {content : Bytes} (h : fs.write text content = .ok fs') :
    fs'.write text content = .ok fs' := by
  cases writes_of_write h with
  | swallowed => exact h
  | @file target leads free =>
    have leads' := resolve_set leads free (show ∀ text, Node.file content ≠ .link text by simp)
    rw [write, modify, leads']
    exact congrArg Except.ok (set_set ..)

end TreeDump.FileSystem
