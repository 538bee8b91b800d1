import TreeDump.Reading

/-!
# Sources

All that a walk needs to know about a file system: how a directory is listed and how a file is
read. The entries of a directory have proper names, no two of them the same. Since a path that is
too long cannot be listed, no walk goes down forever, not even around a circle of links.
-/

namespace TreeDump

/-- Something to walk through. -/
structure Source where
  /-- the entries of a directory, in the order in which they happen to come -/
  list : Text → Except FileError (List DirectoryEntry)
  read : Text → Reading
  /-- no name is empty or holds a slash -/
  isName_of_list : ∀ {path entries}, list path = .ok entries →
    ∀ entry ∈ entries, FileSystem.isName entry.name = true
  /-- no name comes twice -/
  nodup_of_list : ∀ {path entries}, list path = .ok entries →
    (entries.map DirectoryEntry.name).Nodup
  /-- a path that is too long is not listed -/
  list_long : ∀ path : Text, FileSystem.pathLimit ≤ path.length → ∃ e, list path = .error e

/-! ### File systems as sources -/

theorem Text.length_le_utf8Length (t : Text) : t.length ≤ t.utf8Length := by
  induction t with
  | nil => exact Nat.le_refl _
  | cons c r ih =>
    have h : 0 < c.utf8Size := c.utf8Size_pos
    rw [List.length_cons, Text.utf8Length]
    omega

namespace FileSystem

theorem resolve_long (fs : FileSystem) (purpose : Purpose) {path : Text}
    (h : pathLimit ≤ path.length) : ∃ e, fs.resolve purpose path = .error e := by
  have h' : pathLimit ≤ path.utf8Length := Nat.le_trans h path.length_le_utf8Length
  unfold resolve
  split
  · exact ⟨_, rfl⟩
  · split
    · exact ⟨_, rfl⟩
    · exact ⟨_, rfl⟩

/-- What is listed are the children of some directory. -/
theorem listAllowed_eq_ok {fs : FileSystem} {path : Text} {entries : List DirectoryEntry}
    (h : fs.listAllowed path = .ok entries) :
    ∃ place, entries = (fs.children place).map fun (name, node) =>
      ⟨name, fs.entryKind (Path.join path name) node⟩ := by
  unfold listAllowed unlessDenied at h
  split at h
  · exact absurd h (by simp)
  · unfold list at h
    split at h
    · exact ⟨_, (Except.ok.inj h).symm⟩
    all_goals exact absurd h (by simp)

theorem listAllowed_long (fs : FileSystem) {path : Text} (h : pathLimit ≤ path.length) :
    ∃ e, fs.listAllowed path = .error e := by
  obtain ⟨e, he⟩ := fs.resolve_long .look h
  unfold listAllowed unlessDenied
  split
  · exact ⟨_, rfl⟩
  · exact ⟨e, by simp [list, he]⟩

/-- A file system to walk through. -/
def source (fs : FileSystem) (render : NotebookRenderer) : Source where
  list := fs.listAllowed
  read := fs.readContent render
  isName_of_list h entry hentry := by
    obtain ⟨place, rfl⟩ := listAllowed_eq_ok h
    obtain ⟨child, hchild, rfl⟩ := List.mem_map.1 hentry
    exact isName_of_mem_children hchild
  nodup_of_list h := by
    obtain ⟨place, rfl⟩ := listAllowed_eq_ok h
    simpa [List.map_map, Function.comp_def] using fs.nodup_children place
  list_long _ := fs.listAllowed_long

end FileSystem

end TreeDump
