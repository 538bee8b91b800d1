import TreeDump.Proofs.FileSystem.Keeps

/-!
# Making missing directories

What `makeDirectories` changes, and what it comes to when it is done again: a path that is a
directory afterwards is left as it is, and a path that could not be made one is refused again,
without another change.
-/

namespace TreeDump.FileSystem

variable {fs fs' fs'' : FileSystem} {path : PlainPath}

/-! ### One directory -/

/-- A directory that is there is not made again. -/
lemma makeDirectory_of_isDirectory (h : fs.isDirectory path.text = true) :
    fs.makeDirectory path.text = .error (.system .alreadyExists path.text) := by
  obtain ⟨place, h⟩ := isDirectory_iff.mp h
  obtain ⟨admits, leads⟩ := resolve_eq_ok.mp h
  obtain ⟨⟨named, node?⟩, there, leads⟩ := leads.lookAtName_of_look (by simp)
  obtain ⟨node, rfl⟩ := Option.ne_none_iff_exists'.mp there
  rw [makeDirectory, resolve_eq_ok.mpr ⟨admits, leads⟩]

/-- Making a directory under a place that is free, or finding one, or being refused. -/
inductive MakesLast (fs : FileSystem) (path : PlainPath) :
    FileSystem × Except FileError Unit → Prop
  | made {place : List Text} (free : fs.resolve .lookAtName path.text = .ok (place, none)) :
      MakesLast fs path (fs.set place .directory, .ok ())
  | found (there : fs.isDirectory path.text = true) : MakesLast fs path (fs, .ok ())
  | refused {e : FileError} (failed : fs.makeDirectory path.text = .error e)
      (notThere : fs.isDirectory path.text = false) : MakesLast fs path (fs, .error e)

lemma makesLast (fs : FileSystem) (path : PlainPath) : MakesLast fs path (fs.makeLast path) := by
  rw [makeLast]
  split
  next fs' made =>
    rw [makeDirectory] at made
    split at made
    next place free =>
      cases made
      exact .made free
    all_goals cases made
  next e failed =>
    rw [unlessDirectory]
    split
    next there => exact .found there
    next notThere => exact .refused failed (Bool.eq_false_iff.mpr notThere)

/-! ### With the parents -/

/-- A directory on the way to the path is missing. -/
def MissesParent (fs : FileSystem) (path : PlainPath) : Prop :=
  path.names ≠ [] ∧ ∃ text, fs.makeDirectory path.text = .error (.system .notFound text)

lemma makeParents_of_missesParent (room : Nat) (misses : fs.MissesParent path) :
    fs.makeParents (room + 1) path =
      match fs.makeParents room path.parent with
      | (fs', .ok ()) => fs'.makeLast path
      | (fs', .error e) => (fs', .error e) := by
  obtain ⟨named, text, missing⟩ := misses
  rw [makeParents, missing]
  exact if_neg named

lemma makeParents_of_not_missesParent (room : Nat) (misses : ¬fs.MissesParent path) :
    fs.makeParents (room + 1) path = fs.makeLast path := by
  rw [makeParents, makeLast]
  cases made : fs.makeDirectory path.text with
  | ok fs' => rfl
  | error e =>
    split
    next wrong => cases wrong
    next text missing =>
      cases missing
      have unnamed : path.names = [] := by
        by_contra named
        exact misses ⟨named, text, made⟩
      have notThere : ¬fs.isDirectory path.text = true := by
        intro there
        rw [makeDirectory_of_isDirectory there] at made
        cases made
      simp only [unnamed, if_pos, unlessDirectory, if_neg notThere]
    next same =>
      cases same
      rfl

/-! ### What changes -/

/-- The second file system has more directories than the first, each where a path leads through
which the given path goes, and is otherwise the same. -/
structure Builds (path : PlainPath) (fs fs' : FileSystem) : Prop where
  made : ∀ place, fs'.node? place ≠ fs.node? place →
    fs.node? place = none ∧ fs'.node? place = some .directory ∧
      ∃ above : PlainPath, above.OnWayTo path ∧
        fs'.resolve .look above.text = .ok (place, some .directory)
  workingDirectory : fs'.workingDirectory = fs.workingDirectory
  denied : fs'.denied = fs.denied

lemma Builds.refl (path : PlainPath) (fs : FileSystem) : Builds path fs fs :=
  ⟨fun _ changed => absurd rfl changed, rfl, rfl⟩

lemma Builds.keeps (h : Builds path fs fs') : fs.Keeps fs' := by
  have same : ∀ place, fs.node? place ≠ none → fs'.node? place = fs.node? place := by
    intro place there
    by_contra changed
    exact there (h.made place changed).1
  refine ⟨?_, ?_, h.workingDirectory, h.denied⟩
  · intro place there
    rw [same place (by simp [there]), there]
  · intro place text there
    rw [same place (by simp [there]), there]

lemma Builds.trans (h : Builds path fs fs') (h' : Builds path fs' fs'') : Builds path fs fs'' where
  made place changed := by
    by_cases changed' : fs''.node? place = fs'.node? place
    · rw [changed'] at changed ⊢
      obtain ⟨free, made, above, onWay, leads⟩ := h.made place changed
      exact ⟨free, made, above, onWay, h'.keeps.resolve_directory leads⟩
    · obtain ⟨free, made, above, onWay, leads⟩ := h'.made place changed'
      refine ⟨?_, made, above, onWay, leads⟩
      by_contra there
      have first : fs'.node? place = fs.node? place := by
        by_contra changedFirst
        exact there (h.made place changedFirst).1
      exact there (first ▸ free)
  workingDirectory := h'.workingDirectory.trans h.workingDirectory
  denied := h'.denied.trans h.denied

lemma Builds.of_parent (h : Builds path.parent fs fs') : Builds path fs fs' where
  made place changed := by
    obtain ⟨free, made, above, onWay, leads⟩ := h.made place changed
    exact ⟨free, made, above, onWay.of_parent, leads⟩
  workingDirectory := h.workingDirectory
  denied := h.denied

lemma resolve_made {place : List Text}
    (free : fs.resolve .lookAtName path.text = .ok (place, none)) :
    (fs.set place .directory).resolve .look path.text = .ok (place, some .directory) :=
  resolve_for (resolve_set free (free_none place) (by simp)) (by simp) (by simp) (by simp)

lemma builds_made {place : List Text}
    (free : fs.resolve .lookAtName path.text = .ok (place, none)) :
    Builds path fs (fs.set place .directory) where
  made changedPlace changed := by
    obtain ⟨nonempty, before⟩ := node?_eq_of_resolve free (free_none place)
    have same : changedPlace = place := by
      by_contra other
      rw [node?_set fs nonempty, if_neg other] at changed
      exact changed rfl
    subst same
    refine ⟨before, ?_, path, .refl path, resolve_made free⟩
    rw [node?_set fs nonempty, if_pos rfl]
  workingDirectory := rfl
  denied := rfl

lemma makeLast_builds (fs : FileSystem) (path : PlainPath) :
    Builds path fs (fs.makeLast path).1 := by
  have makes := fs.makesLast path
  generalize fs.makeLast path = result at makes ⊢
  cases makes with
  | made free => exact builds_made free
  | found _ => exact .refl path fs
  | refused _ _ => exact .refl path fs

theorem makeParents_builds (fs : FileSystem) (room : Nat) (path : PlainPath) :
    Builds path fs (fs.makeParents room path).1 := by
  induction room generalizing path with
  | zero => exact .refl path fs
  | succ room ih =>
    by_cases misses : fs.MissesParent path
    · rw [makeParents_of_missesParent room misses]
      have parents := (ih path.parent).of_parent
      match h : fs.makeParents room path.parent with
      | (fs', .ok ()) =>
        rw [h] at parents
        exact parents.trans (fs'.makeLast_builds path)
      | (fs', .error e) =>
        rw [h] at parents
        exact parents
    · rw [makeParents_of_not_missesParent room misses]
      exact fs.makeLast_builds path

/-! ### Success -/

lemma isDirectory_of_makeLast (h : fs.makeLast path = (fs', .ok ())) :
    fs'.isDirectory path.text = true := by
  have makes := fs.makesLast path
  rw [h] at makes
  cases makes with
  | @made place free => exact isDirectory_iff.mpr ⟨place, resolve_made free⟩
  | found there => exact there

theorem isDirectory_of_makeParents {room : Nat} (h : fs.makeParents room path = (fs', .ok ())) :
    fs'.isDirectory path.text = true := by
  cases room with
  | zero => cases h
  | succ room =>
    by_cases misses : fs.MissesParent path
    · rw [makeParents_of_missesParent room misses] at h
      split at h
      · exact isDirectory_of_makeLast h
      · cases h
    · rw [makeParents_of_not_missesParent room misses] at h
      exact isDirectory_of_makeLast h

/-- A directory that is there is left as it is. -/
theorem makeParents_of_isDirectory (room : Nat) (there : fs.isDirectory path.text = true) :
    fs.makeParents (room + 1) path = (fs, .ok ()) := by
  have already := makeDirectory_of_isDirectory there
  rw [makeParents_of_not_missesParent, makeLast, already]
  · simp [unlessDirectory, there]
  · rintro ⟨-, text, missing⟩
    rw [already] at missing
    cases missing

/-- Once the directory above is there, only the last one is made. -/
lemma makeParents_of_isDirectory_parent (room : Nat)
    (above : fs.isDirectory path.parent.text = true) :
    fs.makeParents (room + 2) path = fs.makeLast path := by
  by_cases misses : fs.MissesParent path
  · rw [makeParents_of_missesParent _ misses, makeParents_of_isDirectory room above]
  · exact makeParents_of_not_missesParent _ misses

theorem makeDirectories_of_isDirectory (there : fs.isDirectory path.text = true) :
    fs.makeDirectories path = (fs, .ok ()) :=
  makeParents_of_isDirectory (parentLimit - 1) there

/-! ### Failure -/

lemma makeLast_eq_error {e : FileError} (h : fs.makeLast path = (fs', .error e)) :
    fs' = fs ∧ fs.makeDirectory path.text = .error e ∧ fs.isDirectory path.text = false := by
  have makes := fs.makesLast path
  rw [h] at makes
  cases makes with
  | refused failed notThere => exact ⟨rfl, failed, notThere⟩

/-- The system refuses to make a directory, unless it is never asked. -/
lemma eq_system_of_makeDirectory {e : FileError} (noNull : '\x00' ∉ path.text)
    (h : fs.makeDirectory path.text = .error e) : ∃ error text, e = .system error text := by
  rw [makeDirectory] at h
  split at h
  · cases h
  · cases h
    exact ⟨_, _, rfl⟩
  next failed =>
    cases h
    obtain ⟨error, rfl⟩ := eq_system_of_resolve noNull failed
    exact ⟨_, _, rfl⟩

lemma MissesParent.noNull (h : fs.MissesParent path) : '\x00' ∉ path.text := by
  obtain ⟨-, text, missing⟩ := h
  intro null
  rw [makeDirectory, resolve, if_pos null] at missing
  cases missing

/-- Nothing is made on the way to a path that the system is not asked about in the end. -/
theorem makeParents_eq_error {room : Nat} {e : FileError}
    (h : fs.makeParents room path = (fs', .error e))
    (never : ∀ error text, e ≠ .system error text) : fs' = fs := by
  induction room generalizing path with
  | zero =>
    cases h
    rfl
  | succ room ih =>
    by_cases misses : fs.MissesParent path
    · rw [makeParents_of_missesParent room misses] at h
      split at h
      next fs₁ _ =>
        obtain ⟨rfl, failed, -⟩ := makeLast_eq_error h
        obtain ⟨error, text, rfl⟩ := eq_system_of_makeDirectory misses.noNull failed
        exact absurd rfl (never error text)
      next fs₁ e₁ parents =>
        cases h
        exact ih parents
    · rw [makeParents_of_not_missesParent room misses] at h
      exact (makeLast_eq_error h).1

/-- A path with room for all its names is refused by the system or not at all. -/
theorem eq_system_of_makeParents {room : Nat} {e : FileError} (noNull : '\x00' ∉ path.text)
    (enough : path.names.length < room) (h : fs.makeParents room path = (fs', .error e)) :
    ∃ error text, e = .system error text := by
  induction room generalizing path with
  | zero => exact absurd enough (Nat.not_lt_zero _)
  | succ room ih =>
    by_cases misses : fs.MissesParent path
    · have named := List.length_pos_iff.mpr misses.1
      rw [makeParents_of_missesParent room misses] at h
      split at h
      next fs₁ _ => exact eq_system_of_makeDirectory noNull (makeLast_eq_error h).2.1
      next fs₁ e₁ parents =>
        cases h
        refine ih (fun null => noNull (PlainPath.mem_text_of_parent (by decide) null)) ?_ parents
        rw [PlainPath.names_parent, List.length_dropLast]
        omega
    · rw [makeParents_of_not_missesParent room misses] at h
      exact eq_system_of_makeDirectory noNull (makeLast_eq_error h).2.1

/-- What the system refuses is no directory. -/
lemma isDirectory_of_makeParents_eq_error {room : Nat} {error : SystemError} {text : Text}
    (h : fs.makeParents room path = (fs', .error (.system error text))) :
    fs.isDirectory path.text = false := by
  cases room with
  | zero => cases h
  | succ room =>
    by_contra there
    rw [Bool.not_eq_false] at there
    rw [makeParents_of_isDirectory room there] at h
    cases h

/-- Nothing is made or found where the directory above is not there. -/
lemma makeLast_of_not_isDirectory_parent (notAbove : fs.isDirectory path.parent.text = false) :
    ∃ e, fs.makeDirectory path.text = .error e ∧ fs.makeLast path = (fs, .error e) := by
  have makes := fs.makesLast path
  generalize fs.makeLast path = result at makes ⊢
  cases makes with
  | made free =>
    rw [isDirectory_parent free] at notAbove
    cases notAbove
  | found there =>
    obtain ⟨place, leads⟩ := isDirectory_iff.mp there
    rw [isDirectory_parent leads] at notAbove
    cases notAbove
  | refused failed _ => exact ⟨_, failed, rfl⟩

/-- When the system refuses a path, it does so again, and nothing more is made on the way. -/
theorem makeParents_again {room : Nat} {error : SystemError} {text : Text}
    (h : fs.makeParents room path = (fs', .error (.system error text))) :
    ∃ error' text', fs'.makeParents room path = (fs', .error (.system error' text')) := by
  induction room generalizing path error text with
  | zero => cases h
  | succ room ih =>
    by_cases misses : fs.MissesParent path
    · rw [makeParents_of_missesParent room misses] at h
      split at h
      next parents =>
        -- the directory above has been made, so that it is there the second time
        obtain ⟨rfl, -, -⟩ := makeLast_eq_error h
        have above := isDirectory_of_makeParents parents
        cases room with
        | zero => cases parents
        | succ room =>
          rw [makeParents_of_isDirectory_parent room above]
          exact ⟨error, text, h⟩
      next parents =>
        -- it could not be made, and it is missing or refused the second time
        cases h
        obtain ⟨error', text', again⟩ := ih parents
        by_cases misses' : fs'.MissesParent path
        · rw [makeParents_of_missesParent room misses', again]
          exact ⟨error', text', rfl⟩
        · have notAbove := isDirectory_of_makeParents_eq_error again
          obtain ⟨e, failed, last⟩ := makeLast_of_not_isDirectory_parent notAbove
          obtain ⟨error', text', rfl⟩ := eq_system_of_makeDirectory misses.noNull failed
          rw [makeParents_of_not_missesParent room misses', last]
          exact ⟨error', text', rfl⟩
    · have last := h
      rw [makeParents_of_not_missesParent room misses] at last
      obtain ⟨rfl, -, -⟩ := makeLast_eq_error last
      exact ⟨error, text, h⟩

end TreeDump.FileSystem
