import TreeDump.Proofs.Configuration.Document
import TreeDump.Proofs.Configuration.Normal
import TreeDump.Proofs.FileSystem.Parents
import TreeDump.Proofs.FileSystem.Writing

/-!
# Loading a configuration again

What loading leaves behind is loaded in the same way: the defaults that were saved are found, and
what could not be saved or read is met again. Loading changes nothing but the file that the path
leads to and directories on the way to it that were missing.
-/

namespace TreeDump.FileSystem

variable {fs fs' : FileSystem} {path : PlainPath}

/-! ### Finding -/

lemma readConfiguration_of_read {bytes : Bytes} (h : fs.readAllowed path.text = .ok bytes) :
    fs.readConfiguration path = Configuration.ofBytes bytes := by
  simp [readConfiguration, h, Except.mapError, bind, Except.bind]

/-- Nothing of use is found where nothing can be read. -/
lemma findConfiguration_of_unreadable (h : ∃ e, fs.readAllowed path.text = .error e) :
    ∃ reason, fs.findConfiguration path = .nothing reason := by
  obtain ⟨e, failed⟩ := h
  have unread : fs.readConfiguration path = .error (.file e) := by
    rw [readConfiguration, failed]
    rfl
  rw [findConfiguration, unread]
  split
  next found => cases found
  next => exact ⟨_, rfl⟩
  next deep => cases deep
  next => exact ⟨_, rfl⟩

/-- An empty file holds nothing of use. -/
lemma findConfiguration_of_empty (h : fs.readAllowed path.text = .ok []) :
    ∃ reason, fs.findConfiguration path = .nothing reason := by
  rw [findConfiguration, readConfiguration_of_read h]
  exact ⟨_, rfl⟩

/-- A configuration is found in the file to which it has been written. -/
lemma findConfiguration_set {target : Target} (config : Configuration)
    (allowed : fs.isDenied .reading path.text = false)
    (leads : fs.resolve .write path.text = .ok target) (free : Free target) :
    (fs.set target.1 (.file (Utf8.encode config.print))).findConfiguration path
      = .configuration (.ofLists config.extensions.toList config.ignored.toList) := by
  have keeps := keeps_set leads free (.file (Utf8.encode config.print))
  have leads' := resolve_written leads free (Utf8.encode config.print)
  rw [findConfiguration, readConfiguration_of_read, Configuration.ofBytes_print]
  exact unlessDenied_eq_ok_iff.mpr ⟨(keeps.isDenied_eq _ _).trans allowed, by rw [read, leads']⟩

/-! ### Saving -/

/-- What saving the defaults leads to when it is done again: they are found, or it is all the same
once more. -/
inductive Settled (path : PlainPath) (saving : Saving) : Prop
  | found (loads : saving.fileSystem.findConfiguration path = .configuration Configuration.defaults)
      (saved : saving.saved = .ok true)
  | stuck {reason : Log.Entry}
      (nothing : saving.fileSystem.findConfiguration path = .nothing reason)
      (same : (saving.fileSystem.saveConfiguration Configuration.defaults path).fileSystem
        = saving.fileSystem)
      (saved : (saving.fileSystem.saveConfiguration Configuration.defaults path).saved
        = saving.saved)

lemma settled_of_unchanged {reason : Log.Entry} {saving : Saving}
    (nothing : saving.fileSystem.findConfiguration path = .nothing reason)
    (again : saving.fileSystem.saveConfiguration Configuration.defaults path = saving) :
    Settled path saving :=
  .stuck nothing (by rw [again]) (by rw [again])

lemma saveConfiguration_of_error (config : Configuration) {e : FileError}
    (h : fs.makeDirectories path.parent = (fs', .error e)) :
    fs.saveConfiguration config path = .failed fs' path e := by
  rw [saveConfiguration, h]

lemma saveConfiguration_of_ok (config : Configuration)
    (h : fs.makeDirectories path.parent = (fs', .ok ())) :
    fs.saveConfiguration config path =
      match fs'.writeAllowed path.text (Utf8.encode config.print) with
      | .error e => .failed fs' path e
      | .ok fs'' => ⟨fs'', [.configurationSaved path.text], .ok true⟩ := by
  rw [saveConfiguration]
  split
  next failed => simp [h] at failed
  next made =>
    rw [h] at made
    cases made
    rfl

@[simp] lemma fileSystem_failed (fs : FileSystem) (path : PlainPath) (e : FileError) :
    (Saving.failed fs path e).fileSystem = fs := by
  cases e <;> rfl

/-- A file that may be written but not read is written again. -/
lemma settles_of_unreadable (above : fs.isDirectory path.parent.text = true)
    (written : fs.writeAllowed path.text (Utf8.encode Configuration.defaults.print) = .ok fs')
    (unreadable : fs.isDenied .reading path.text = true) :
    Settled path ⟨fs', [.configurationSaved path.text], .ok true⟩ := by
  obtain ⟨opens, written⟩ := unlessDenied_eq_ok_iff.mp written
  have keeps := keeps_modify written
  obtain ⟨reason, nothing⟩ := findConfiguration_of_unreadable
    (readAllowed_eq_error (.inl ((keeps.isDenied_eq _ _).trans unreadable)))
  have again : fs'.writeAllowed path.text (Utf8.encode Configuration.defaults.print) = .ok fs' :=
    unlessDenied_eq_ok_iff.mpr ⟨(keeps.isDenied_eq _ _).trans opens, write_again written⟩
  refine settled_of_unchanged nothing ?_
  rw [saveConfiguration_of_ok _ (makeDirectories_of_isDirectory (keeps.isDirectory above)), again]

/-- Once the directory is there, saving is writing. -/
lemma settles_of_isDirectory (above : fs.isDirectory path.parent.text = true) :
    Settled path (fs.saveConfiguration Configuration.defaults path) := by
  have saves := saveConfiguration_of_ok Configuration.defaults
    (makeDirectories_of_isDirectory above)
  cases written : fs.writeAllowed path.text (Utf8.encode Configuration.defaults.print) with
  | error e =>
    rw [written] at saves
    dsimp only at saves
    obtain ⟨reason, nothing⟩ :=
      findConfiguration_of_unreadable (readAllowed_eq_error_of_writeAllowed written)
    have unchanged := fileSystem_failed fs path e
    rw [saves]
    exact settled_of_unchanged (unchanged.symm ▸ nothing) (unchanged.symm ▸ saves)
  | ok fs' =>
    rw [written] at saves
    dsimp only at saves
    rw [saves]
    cases readable : fs.isDenied .reading path.text with
    | true => exact settles_of_unreadable above written readable
    | false =>
      cases writes_of_write (unlessDenied_eq_ok_iff.mp written).2 with
      | @file target leads free =>
        have found := findConfiguration_set Configuration.defaults readable leads free
        rw [Configuration.ofLists_toList Configuration.normal_defaults] at found
        exact .found found rfl
      | swallowed leads swallows =>
        have empty := read_of_swallows (resolve_look_of_write leads) swallows
        obtain ⟨reason, nothing⟩ :=
          findConfiguration_of_empty (unlessDenied_eq_ok_iff.mpr ⟨readable, empty⟩)
        exact settled_of_unchanged nothing saves

/-- The directory that could not be made is refused again, and until then nothing can be read. -/
lemma settles_of_refused {error : SystemError} {text : Text}
    (parents : fs.makeDirectories path.parent = (fs', .error (.system error text))) :
    Settled path (fs.saveConfiguration Configuration.defaults path) := by
  obtain ⟨error', text', again⟩ := makeParents_again parents
  have notAbove := isDirectory_of_makeParents_eq_error again
  obtain ⟨reason, nothing⟩ :=
    findConfiguration_of_unreadable
      (readAllowed_eq_error (.inr (read_eq_error_of_not_isDirectory notAbove)))
  rw [saveConfiguration_of_error _ parents]
  refine .stuck nothing ?_ ?_
  · rw [fileSystem_failed, saveConfiguration_of_error _ again, fileSystem_failed]
  · rw [fileSystem_failed, saveConfiguration_of_error _ again]
    rfl

/-- A path that the system is not asked about leaves everything as it is. -/
lemma settles_of_never_asked {reason : Log.Entry} {e : FileError}
    (nothing : fs.findConfiguration path = .nothing reason)
    (parents : fs.makeDirectories path.parent = (fs', .error e))
    (never : ∀ error text, e ≠ .system error text) :
    Settled path (fs.saveConfiguration Configuration.defaults path) := by
  obtain rfl := makeParents_eq_error parents never
  have saves := saveConfiguration_of_error Configuration.defaults parents
  have unchanged := fileSystem_failed fs' path e
  rw [saves]
  exact settled_of_unchanged (unchanged.symm ▸ nothing) (unchanged.symm ▸ saves)

theorem saveConfiguration_settles {reason : Log.Entry}
    (nothing : fs.findConfiguration path = .nothing reason) :
    Settled path (fs.saveConfiguration Configuration.defaults path) := by
  match parents : fs.makeDirectories path.parent with
  | (fs', .ok ()) =>
    have above := isDirectory_of_makeParents parents
    have same : fs.saveConfiguration Configuration.defaults path
        = fs'.saveConfiguration Configuration.defaults path := by
      rw [saveConfiguration_of_ok _ parents,
        saveConfiguration_of_ok _ (makeDirectories_of_isDirectory above)]
    rw [same]
    exact settles_of_isDirectory above
  | (_, .error (.system _ _)) => exact settles_of_refused parents
  | (_, .error .nullByte) => exact settles_of_never_asked nothing parents (by simp)
  | (_, .error .tooDeep) => exact settles_of_never_asked nothing parents (by simp)

/-! ### Loading -/

lemma loadConfiguration_of_nothing {reason : Log.Entry}
    (nothing : fs.findConfiguration path = .nothing reason) :
    (fs.loadConfiguration path).fileSystem
        = (fs.saveConfiguration Configuration.defaults path).fileSystem ∧
      (fs.loadConfiguration path).config
        = (fs.saveConfiguration Configuration.defaults path).defaults := by
  rw [loadConfiguration, nothing]
  exact ⟨rfl, rfl⟩

/-- Loading again gives the same configuration or error, and changes nothing. -/
theorem loadConfiguration_again (fs : FileSystem) (path : PlainPath) :
    ((fs.loadConfiguration path).fileSystem.loadConfiguration path).fileSystem
        = (fs.loadConfiguration path).fileSystem ∧
      ((fs.loadConfiguration path).fileSystem.loadConfiguration path).config
        = (fs.loadConfiguration path).config := by
  cases finding : fs.findConfiguration path with
  | nothing reason =>
    obtain ⟨fileSystem, config⟩ := loadConfiguration_of_nothing finding
    rw [fileSystem, config]
    cases saveConfiguration_settles finding with
    | found loads saved =>
      rw [loadConfiguration, loads, Saving.defaults, saved]
      exact ⟨rfl, rfl⟩
    | stuck nothing same saved =>
      obtain ⟨fileSystem', config'⟩ := loadConfiguration_of_nothing nothing
      rw [fileSystem', config', same, Saving.defaults, Saving.defaults, saved]
      exact ⟨rfl, rfl⟩
  | _ =>
    have unchanged : (fs.loadConfiguration path).fileSystem = fs := by
      rw [loadConfiguration, finding]
    rw [unchanged]
    exact ⟨unchanged, rfl⟩

/-! ### What loading changes -/

/-- The second file system differs from the first in the file that the path leads to, and in
directories on the way to it that were missing. -/
structure Prepares (path : PlainPath) (fs fs' : FileSystem) : Prop where
  changed : ∀ place, fs'.node? place ≠ fs.node? place →
    (∃ content, fs'.node? place = some (.file content) ∧
      fs'.resolve .look path.text = .ok (place, some (.file content))) ∨
    (fs.node? place = none ∧ fs'.node? place = some .directory ∧
      ∃ above : PlainPath, above.OnWayTo path.parent ∧
        fs'.resolve .look above.text = .ok (place, some .directory))
  workingDirectory : fs'.workingDirectory = fs.workingDirectory
  denied : fs'.denied = fs.denied

lemma Prepares.refl (path : PlainPath) (fs : FileSystem) : Prepares path fs fs :=
  ⟨fun _ changed => absurd rfl changed, rfl, rfl⟩

lemma Builds.prepares (h : Builds path.parent fs fs') : Prepares path fs fs' :=
  ⟨fun place changed => .inr (h.made place changed), h.workingDirectory, h.denied⟩

lemma Prepares.write {fs'' : FileSystem} {content : Bytes} (builds : Builds path.parent fs fs')
    (writes : Writes fs' path.text content fs'') : Prepares path fs fs'' := by
  cases writes with
  | swallowed => exact builds.prepares
  | @file target leads free =>
    have nonempty := (node?_eq_of_resolve leads free).1
    have keeps := keeps_set leads free (.file content)
    refine ⟨?_, builds.workingDirectory, builds.denied⟩
    intro place changed
    rw [node?_set fs' nonempty] at changed ⊢
    split at changed
    next same =>
      subst same
      exact .inl ⟨content, if_pos rfl, resolve_written leads free content⟩
    next other =>
      obtain ⟨missing, made, above, onWay, there⟩ := builds.made place changed
      rw [if_neg other]
      exact .inr ⟨missing, made, above, onWay, keeps.resolve_directory there⟩

/-- Saving makes directories on the way, and may then write. -/
lemma saveConfiguration_builds (fs : FileSystem) (config : Configuration) (path : PlainPath) :
    ∃ built, Builds path.parent fs built ∧
      ((fs.saveConfiguration config path).fileSystem = built ∨
        Writes built path.text (Utf8.encode config.print)
          (fs.saveConfiguration config path).fileSystem) := by
  have builds := fs.makeParents_builds parentLimit path.parent
  rw [← makeDirectories] at builds
  match parents : fs.makeDirectories path.parent with
  | (built, .error e) =>
    rw [parents] at builds
    refine ⟨built, builds, .inl ?_⟩
    rw [saveConfiguration_of_error _ parents, fileSystem_failed]
  | (built, .ok ()) =>
    rw [parents] at builds
    refine ⟨built, builds, ?_⟩
    rw [saveConfiguration_of_ok _ parents]
    split
    next => exact .inl (fileSystem_failed _ _ _)
    next written => exact .inr (writes_of_write (unlessDenied_eq_ok_iff.mp written).2)

lemma saveConfiguration_prepares (fs : FileSystem) (config : Configuration) (path : PlainPath) :
    Prepares path fs (fs.saveConfiguration config path).fileSystem := by
  obtain ⟨built, builds, same | writes⟩ := fs.saveConfiguration_builds config path
  · rw [same]
    exact builds.prepares
  · exact .write builds writes

/-- Loading changes nothing but the file that the path leads to and missing directories on the way
to it. -/
theorem loadConfiguration_prepares (fs : FileSystem) (path : PlainPath) :
    Prepares path fs (fs.loadConfiguration path).fileSystem := by
  cases finding : fs.findConfiguration path with
  | nothing reason =>
    rw [(loadConfiguration_of_nothing finding).1]
    exact fs.saveConfiguration_prepares Configuration.defaults path
  | _ =>
    rw [loadConfiguration, finding]
    exact .refl path fs

end TreeDump.FileSystem
