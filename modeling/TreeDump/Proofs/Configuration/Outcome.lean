import TreeDump.Proofs.Configuration.Reload

/-!
# What comes of loading a configuration

A configuration file is looked for within limits: a path that the system can be asked about, with no
more directories on it than are made for one path, and a document that is not nested too deeply.
Within them there is always a configuration. Whatever is saved, directories and links stay.
-/

namespace TreeDump.FileSystem

variable {fs fs' : FileSystem} {path : PlainPath}

/-- The limits within which a configuration file is looked for. -/
structure WithinLimits (fs : FileSystem) (path : PlainPath) : Prop where
  noNull : '\x00' ∉ path.text
  depth : path.names.length ≤ parentLimit
  nesting : ∀ container, fs.readConfiguration path ≠ .error (.json (.tooDeep container))

/-! ### Finding -/

/-- Only a document that has been read is nested too deeply. -/
lemma exists_read_of_tooDeep {container : Json.Container}
    (h : fs.readConfiguration path = .error (.json (.tooDeep container))) :
    ∃ bytes, fs.readAllowed path.text = .ok bytes ∧
      Configuration.ofBytes bytes = .error (.json (.tooDeep container)) := by
  cases reads : fs.readAllowed path.text with
  | error e => simp [readConfiguration, reads, Except.mapError, bind, Except.bind] at h
  | ok bytes => exact ⟨bytes, rfl, (readConfiguration_of_read reads).symm.trans h⟩

lemma WithinLimits.findConfiguration_ne_failure (limits : fs.WithinLimits path) (cause : Failure) :
    fs.findConfiguration path ≠ .failure cause := by
  intro h
  rw [findConfiguration] at h
  split at h
  next => cases h
  next => cases h
  next container deep => exact limits.nesting container deep
  next => cases h

/-- Writing a file that could be read without nesting stays within the limits. -/
lemma WithinLimits.write {text : Text} {content : Bytes} (limits : fs.WithinLimits path)
    (shallow : ∀ container, Configuration.ofBytes content ≠ .error (.json (.tooDeep container)))
    (h : fs.write text content = .ok fs') : fs'.WithinLimits path := by
  refine ⟨limits.noNull, limits.depth, ?_⟩
  intro container deep
  obtain ⟨bytes, reads, deep⟩ := exists_read_of_tooDeep deep
  obtain ⟨allowed, reads⟩ := unlessDenied_eq_ok_iff.mp reads
  rcases read_of_write h reads with rfl | before
  · exact shallow container deep
  · refine limits.nesting container ?_
    have readable : fs.isDenied .reading path.text = false :=
      ((keeps_modify h).isDenied_eq _ _).symm.trans allowed
    rw [readConfiguration_of_read (unlessDenied_eq_ok_iff.mpr ⟨readable, before⟩), deep]

/-! ### Saving -/

/-- A configuration is saved or not, as long as the system can be asked. -/
theorem exists_saved (fs : FileSystem) (config : Configuration) (noNull : '\x00' ∉ path.text)
    (depth : path.names.length ≤ parentLimit) :
    ∃ saved, (fs.saveConfiguration config path).saved = .ok saved := by
  match parents : fs.makeDirectories path.parent with
  | (fs', .error e) =>
    have enough : path.parent.names.length < parentLimit := by
      have positive : 0 < parentLimit := by decide
      rw [PlainPath.names_parent, List.length_dropLast]
      omega
    obtain ⟨error, text, rfl⟩ := eq_system_of_makeParents
      (fun null => noNull (PlainPath.mem_text_of_parent (by decide) null)) enough parents
    exact ⟨false, by rw [saveConfiguration_of_error _ parents, Saving.failed]⟩
  | (fs', .ok ()) =>
    rw [saveConfiguration_of_ok _ parents]
    split
    next e refused =>
      obtain ⟨error, text, rfl⟩ :=
        eq_system_of_unlessDenied (fun _ => eq_system_of_modify noNull) refused
      exact ⟨false, rfl⟩
    next => exact ⟨true, rfl⟩

/-- Saved or not, the defaults are taken. -/
lemma defaults_saveConfiguration (fs : FileSystem) (config : Configuration)
    (noNull : '\x00' ∉ path.text) (depth : path.names.length ≤ parentLimit) :
    (fs.saveConfiguration config path).defaults = .ok Configuration.defaults := by
  obtain ⟨saved, h⟩ := fs.exists_saved config noNull depth
  rw [Saving.defaults, h]
  rfl

end TreeDump.FileSystem
