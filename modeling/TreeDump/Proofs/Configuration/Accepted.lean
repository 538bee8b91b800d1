import TreeDump.Proofs.Configuration.Reload
import TreeDump.Proofs.Json.Objects

/-!
# Files that hold a configuration

A configuration is found exactly where a readable file holds an object in which both keys are bound
to lists. Of several fields under one key the last one counts; everything else in the object is
passed over.
-/

namespace TreeDump

namespace Configuration

/-! ### Documents -/

/-- A text is an object, and the last field under each of the two keys is a list. -/
def IsDocument (text : Text) (extensions ignored : List Json) : Prop :=
  ∃ written, Json.IsObjectOf text written ∧
    written.reverse.lookup (.ofText extensionsKey) = some (.array extensions) ∧
    written.reverse.lookup (.ofText ignoredKey) = some (.array ignored)

lemma field_eq_ok_iff {key : Text} {document value : Json} :
    field key document = .ok value ↔
      ∃ fields, document = .object fields ∧ fields.lookup (.ofText key) = some value := by
  cases document with
  | object fields =>
    cases found : fields.lookup (.ofText key) <;> simp [field, found]
  | _ => simp [field]

lemma ofJson_eq_ok_iff {document : Json} {config : Configuration} :
    ofJson document = .ok config ↔ ∃ extensions ignored,
      field extensionsKey document = .ok (.array extensions) ∧
        field ignoredKey document = .ok (.array ignored) ∧
        config = ofLists (extensions.map Json.asText) (ignored.map Json.asText) := by
  constructor
  · intro h
    rw [ofJson] at h
    cases extensions : field extensionsKey document with
    | error e =>
      rw [extensions] at h
      cases h
    | ok first =>
      cases ignored : field ignoredKey document with
      | error e =>
        rw [extensions, ignored] at h
        cases h
      | ok second =>
        rw [extensions, ignored] at h
        dsimp only [bind, Except.bind] at h
        split at h
        next =>
          cases h
          exact ⟨_, _, rfl, rfl, rfl⟩
        next => cases h
  · rintro ⟨extensions, ignored, first, second, rfl⟩
    rw [ofJson, first, second]
    rfl

lemma isDocument_iff {text : Text} {extensions ignored : List Json} :
    IsDocument text extensions ignored ↔ ∃ document, Json.ofText text = .ok document ∧
      field extensionsKey document = .ok (.array extensions) ∧
      field ignoredKey document = .ok (.array ignored) := by
  constructor
  · rintro ⟨written, isObject, first, second⟩
    refine ⟨_, Json.ofText_eq_object_iff.mpr ⟨written, isObject, rfl⟩,
      field_eq_ok_iff.mpr ⟨_, rfl, ?_⟩, field_eq_ok_iff.mpr ⟨_, rfl, ?_⟩⟩
    · rw [Json.lookup_collectFields, first]
    · rw [Json.lookup_collectFields, second]
  · rintro ⟨document, reads, first, second⟩
    obtain ⟨fields, isObject, extensions⟩ := field_eq_ok_iff.mp first
    subst isObject
    obtain ⟨_, ⟨⟩, ignored⟩ := field_eq_ok_iff.mp second
    obtain ⟨written, isObject, rfl⟩ := Json.ofText_eq_object_iff.mp reads
    exact ⟨written, isObject, Json.lookup_collectFields .. ▸ extensions,
      Json.lookup_collectFields .. ▸ ignored⟩

/-- Bytes are a configuration exactly if their text in UTF-8, with line feeds for all line ends, is
a document. -/
theorem ofBytes_eq_ok_iff {bytes : Bytes} {config : Configuration} :
    ofBytes bytes = .ok config ↔ ∃ text extensions ignored, Utf8.encode text = bytes ∧
      IsDocument text.unifyNewlines extensions ignored ∧
      config = ofLists (extensions.map Json.asText) (ignored.map Json.asText) := by
  have stages : ofBytes bytes = .ok config ↔ ∃ text document, Utf8.decode bytes = .ok text ∧
      Json.ofText text.unifyNewlines = .ok document ∧ ofJson document = .ok config := by
    cases decoded : Utf8.decode bytes with
    | error e => simp [ofBytes, decoded, Except.mapError, bind, Except.bind]
    | ok text =>
      cases reads : Json.ofText text.unifyNewlines with
      | error e => simp [ofBytes, decoded, reads, Except.mapError, bind, Except.bind]
      | ok document =>
        cases accepted : ofJson document <;>
          simp [ofBytes, decoded, reads, accepted, Except.mapError, bind, Except.bind]
  rw [stages]
  constructor
  · rintro ⟨text, document, decoded, reads, accepted⟩
    obtain ⟨extensions, ignored, first, second, rfl⟩ := ofJson_eq_ok_iff.mp accepted
    exact ⟨text, extensions, ignored, Utf8.decode_eq_ok.mp decoded,
      isDocument_iff.mpr ⟨document, reads, first, second⟩, rfl⟩
  · rintro ⟨text, extensions, ignored, encoded, isDocument, rfl⟩
    obtain ⟨document, reads, first, second⟩ := isDocument_iff.mp isDocument
    exact ⟨text, document, Utf8.decode_eq_ok.mpr encoded, reads,
      ofJson_eq_ok_iff.mpr ⟨extensions, ignored, first, second, rfl⟩⟩

end Configuration

namespace FileSystem

variable {fs : FileSystem} {path : PlainPath}

/-! ### Files -/

/-- The path leads to a file that may be read, and its text binds both keys to lists. -/
def HoldsConfiguration (fs : FileSystem) (path : PlainPath) (extensions ignored : List Json) :
    Prop :=
  fs.isDenied .reading path.text = false ∧
    ∃ text, fs.content? path.text = some (Utf8.encode text) ∧
      Configuration.IsDocument text.unifyNewlines extensions ignored

lemma readConfiguration_eq_ok_iff {config : Configuration} :
    fs.readConfiguration path = .ok config ↔ fs.isDenied .reading path.text = false ∧
      ∃ bytes, fs.read path.text = .ok bytes ∧ Configuration.ofBytes bytes = .ok config := by
  have stages : fs.readConfiguration path = .ok config ↔ ∃ bytes,
      fs.readAllowed path.text = .ok bytes ∧ Configuration.ofBytes bytes = .ok config := by
    cases reads : fs.readAllowed path.text <;>
      simp [readConfiguration, reads, Except.mapError, bind, Except.bind]
  simp only [stages, readAllowed, unlessDenied_eq_ok_iff, and_assoc, exists_and_left]

lemma findConfiguration_eq_iff {config : Configuration} :
    fs.findConfiguration path = .configuration config ↔ fs.readConfiguration path = .ok config := by
  constructor
  · intro h
    rw [findConfiguration] at h
    split at h
    next =>
      cases h
      assumption
    all_goals cases h
  · intro h
    rw [findConfiguration, h]

/-- The configuration that is found is the one of the lists that the file holds. -/
theorem findConfiguration_eq_configuration_iff {config : Configuration} :
    fs.findConfiguration path = .configuration config ↔
      ∃ extensions ignored, fs.HoldsConfiguration path extensions ignored ∧
        config = .ofLists (extensions.map Json.asText) (ignored.map Json.asText) := by
  rw [findConfiguration_eq_iff, readConfiguration_eq_ok_iff]
  constructor
  · rintro ⟨allowed, bytes, reads, accepted⟩
    rcases read_eq_ok_iff.mp reads with holds | ⟨rfl, -⟩
    · obtain ⟨text, extensions, ignored, rfl, isDocument, rfl⟩ :=
        Configuration.ofBytes_eq_ok_iff.mp accepted
      exact ⟨extensions, ignored, ⟨allowed, text, holds, isDocument⟩, rfl⟩
    -- nothing is no document
    · cases accepted
  · rintro ⟨extensions, ignored, ⟨allowed, text, holds, isDocument⟩, rfl⟩
    refine ⟨allowed, Utf8.encode text, read_eq_ok_iff.mpr (.inl holds), ?_⟩
    exact Configuration.ofBytes_eq_ok_iff.mpr ⟨text, extensions, ignored, rfl, isDocument, rfl⟩

end FileSystem

end TreeDump
