import TreeDump.Proofs.Encoding.Raw
import TreeDump.Proofs.Encoding.Utf8
import TreeDump.Proofs.FileSystem.Writing
import TreeDump.Proofs.Text.Lines
import TreeDump.Registration.Profile

/-!
# Registering directories in a profile

A directory is added to a profile, found in it, or refused by the system. A failure of another kind
is a profile that holds no text or a directory that is none.
-/

namespace TreeDump

namespace Profile

variable {existing name : Text} {directory : RawText}

lemma registers_iff :
    registers existing directory = true ↔
      ∃ name, directory.text? = some name ∧ exportLine name <:+: existing := by
  simp [registers, Option.any_eq_true, Text.includes_iff]

/-! ### What is added -/

/-- What is added to a profile for a directory. -/
def addition (existing directory : Text) : Text :=
  opening existing ++ marker ++ '\n' :: exportLine directory ++ ['\n']

lemma entry_ofText (name : Text) :
    entry (.ofText name) = .ofText (marker ++ '\n' :: exportLine name ++ ['\n']) := by
  simp [entry, exportLine, RawText.ofText]

lemma text?_entry_eq_none (noText : directory.text? = none) : (entry directory).text? = none :=
  RawText.text?_append_eq_none_left _ (RawText.text?_append_eq_none _ noText)

/-- The line is part of what is added. -/
lemma exportLine_infix_addition (existing directory : Text) :
    exportLine directory <:+: addition existing directory := by
  refine ⟨opening existing ++ marker ++ ['\n'], ['\n'], ?_⟩
  rw [addition]
  simp only [List.append_assoc, List.cons_append, List.nil_append]

lemma exportLine_not_infix_nil : ¬exportLine name <:+: [] := by
  rw [List.infix_nil]
  unfold exportLine
  simp

lemma not_registers_nil : registers [] directory = false := by
  rw [Bool.eq_false_iff]
  intro there
  obtain ⟨name, -, line⟩ := registers_iff.mp there
  exact exportLine_not_infix_nil line

lemma not_mem_exportLine {c : Char} (fixed : c ∉ exportLine []) (absent : c ∉ name) :
    c ∉ exportLine name := by
  unfold exportLine at fixed ⊢
  simp only [List.append_nil, List.mem_append, not_or] at fixed ⊢
  exact ⟨⟨fixed.1, absent⟩, fixed.2⟩

lemma return_not_mem_addition (noReturn : '\r' ∉ name) : '\r' ∉ addition existing name := by
  have before : '\r' ∉ opening existing := by
    rw [opening]
    split <;> decide
  have marker : '\r' ∉ marker := by decide
  have line : '\r' ∉ exportLine name := not_mem_exportLine (by decide) noReturn
  simp [addition, before, marker, line]

/-- What is written behind the opening never completes a newline that the text before it ends in. -/
lemma unifyNewlines_append_opening (text more : Text) (start : more.head? ≠ some '\n') :
    (text ++ (opening text.unifyNewlines ++ more)).unifyNewlines
      = text.unifyNewlines ++ (opening text.unifyNewlines ++ more).unifyNewlines := by
  apply Text.unifyNewlines_append
  intro endsInReturn
  have endsInNewline := Text.getLast?_unifyNewlines endsInReturn
  rwa [opening, if_neg fun openEnd => openEnd.2 endsInNewline, List.nil_append]

lemma unifyNewlines_append_addition (text directory : Text) :
    (text ++ addition text.unifyNewlines directory).unifyNewlines
      = text.unifyNewlines ++ (addition text.unifyNewlines directory).unifyNewlines := by
  have start : marker.head? = some '#' := by decide
  have behind := unifyNewlines_append_opening text
    (marker ++ '\n' :: exportLine directory ++ ['\n']) (by simp [List.head?_append, start])
  simpa only [addition, List.append_assoc] using behind

end Profile

namespace FileSystem

variable {fs after : FileSystem} {profile : PlainPath} {searchPath directory : RawText}
  {existing name : Text}

/-! ### The text of a profile -/

lemma profileText_eq (fs : FileSystem) (profile : PlainPath) :
    fs.profileText profile =
      match fs.exists? profile.text with
      | .error e => .error (.file e)
      | .ok false => .ok []
      | .ok true =>
        match fs.readAllowed profile.text with
        | .error e => .error (.file e)
        | .ok bytes =>
          match Utf8.decode bytes with
          | .error e => .error (.decoding e)
          | .ok text => .ok text.unifyNewlines := by
  rw [profileText]
  cases fs.exists? profile.text with
  | error e => rfl
  | ok there =>
    cases there with
    | false => rfl
    | true =>
      cases fs.readAllowed profile.text with
      | error e => rfl
      | ok bytes =>
        cases decoded : Utf8.decode bytes <;>
          simp [decoded, Except.mapError, bind, Except.bind, pure, Except.pure]

lemma exists?_of_resolve {text : Text} {place : List Text} {node : Node}
    (leads : fs.resolve .look text = .ok (place, some node)) : fs.exists? text = .ok true := by
  rw [exists?, leads]
  rfl

lemma profileText_of_content? {bytes : Bytes} (holds : fs.content? profile.text = some bytes) :
    fs.profileText profile =
      if fs.isDenied .reading profile.text then .error (.file (.system .denied profile.text))
      else
        match Utf8.decode bytes with
        | .error e => .error (.decoding e)
        | .ok text => .ok text.unifyNewlines := by
  obtain ⟨place, leads⟩ := content?_eq_some_iff.mp holds
  rw [profileText_eq, exists?_of_resolve leads, readAllowed, read_eq_ok_iff.mpr (.inl holds)]
  cases denied : fs.isDenied .reading profile.text <;> simp [unlessDenied, denied]

lemma exists?_of_missing (missing : fs.Missing profile) :
    fs.exists? profile.text = .ok false ∨ ∃ e, fs.exists? profile.text = .error e := by
  rw [exists?]
  split
  next place node? leads =>
    cases node? with
    | none => exact .inl rfl
    | some node => exact absurd leads (missing place node)
  next => exact .inr ⟨_, rfl⟩
  next => exact .inl rfl

/-- A missing profile counts as empty, unless the system refuses to look for it. -/
lemma profileText_of_missing (missing : fs.Missing profile) :
    fs.profileText profile = .ok [] ∨ ∃ e, fs.profileText profile = .error (.file e) := by
  rw [profileText_eq]
  rcases exists?_of_missing missing with nowhere | ⟨e, refused⟩
  · exact .inl (by rw [nowhere])
  · exact .inr ⟨e, by rw [refused]⟩

lemma eq_system_of_exists? {text : Text} {e : FileError} (h : fs.exists? text = .error e) :
    ∃ error path, e = .system error path := by
  rw [exists?] at h
  split at h
  next => cases h
  next =>
    cases h
    exact ⟨_, _, rfl⟩
  next => cases h

/-- A profile that is not read is refused by the system, or is a file that holds no text. -/
lemma profileText_eq_error {failure : Failure} (noNull : '\x00' ∉ profile.text)
    (h : fs.profileText profile = .error failure) :
    (∃ error text, failure = .file (.system error text)) ∨
      ∃ bytes e, fs.content? profile.text = some bytes ∧ Utf8.decode bytes = .error e ∧
        failure = .decoding e := by
  rw [profileText_eq] at h
  split at h
  next looked =>
    cases h
    obtain ⟨error, text, rfl⟩ := eq_system_of_exists? looked
    exact .inl ⟨error, text, rfl⟩
  next => cases h
  next =>
    split at h
    next unread =>
      cases h
      obtain ⟨error, text, rfl⟩ :=
        eq_system_of_unlessDenied (fun _ => eq_system_of_read noNull) unread
      exact .inl ⟨error, text, rfl⟩
    next bytes reads =>
      split at h
      next e decoded =>
        cases h
        rcases read_eq_ok_iff.mp (unlessDenied_eq_ok_iff.mp reads).2 with holds | ⟨rfl, -⟩
        · exact .inr ⟨bytes, e, holds, decoded, rfl⟩
        · cases decoded
      next => cases h

/-! ### Adding an entry -/

lemma modify_eq_error {text : Text} {change : Bytes → Bytes} {e : FileError}
    (refused : fs.modify text change = .error e) (other : Bytes → Bytes) :
    fs.modify text other = .error e := by
  rw [modify] at refused ⊢
  split at refused
  next => cases refused
  next => cases refused
  next => exact refused
  next => exact refused
  next => cases refused
  next => exact refused

/-- Where something cannot be added, nothing can. -/
lemma appendAllowed_eq_error {text : Text} {content : Bytes} {e : FileError}
    (refused : fs.appendAllowed text content = .error e) (other : Bytes) :
    fs.appendAllowed text other = .error e := by
  rw [appendAllowed, unlessDenied] at refused ⊢
  split at refused
  next closed => rwa [if_pos closed]
  next opens =>
    rw [if_neg opens]
    exact modify_eq_error refused _

lemma appendEntry_of_text (isText : directory.text? = some name) :
    fs.appendEntry profile existing directory =
      match fs.appendAllowed profile.text (Utf8.encode (Profile.addition existing name)) with
      | .ok after => (after, .ok .added)
      | .error e => (fs, .error (.file e)) := by
  have whole : Utf8.encode (Profile.opening existing)
        ++ Utf8.encode (Profile.marker ++ '\n' :: Profile.exportLine name ++ ['\n'])
      = Utf8.encode (Profile.addition existing name) := by
    rw [← Utf8.encode_append, Profile.addition]
    simp only [List.append_assoc]
  rw [appendEntry, RawText.eq_ofText isText, Profile.entry_ofText, Utf8.encodeRaw_ofText]
  cases added : fs.appendAllowed profile.text (Utf8.encode (Profile.addition existing name)) <;>
    simp only [whole, added]

/-- Of an entry that cannot be written only the opening is. -/
lemma appendEntry_of_noText (fs : FileSystem) (profile : PlainPath) (existing : Text)
    (noText : directory.text? = none) : ∃ cause,
    fs.appendEntry profile existing directory =
      match fs.appendAllowed profile.text (Utf8.encode (Profile.opening existing)) with
      | .ok after => (after, .error (.encoding cause))
      | .error e => (fs, .error (.file e)) := by
  obtain ⟨cause, unwritten⟩ :=
    Utf8.exists_encodeFrom_eq_error (Profile.text?_entry_eq_none noText) 0
  refine ⟨cause, ?_⟩
  rw [appendEntry, Utf8.encodeRaw, unwritten]
  cases opened : fs.appendAllowed profile.text (Utf8.encode (Profile.opening existing)) <;>
    simp only [List.append_nil, opened]

lemma appendEntry_of_refused {e : FileError}
    (refused : ∀ bytes, fs.appendAllowed profile.text bytes = .error e) :
    fs.appendEntry profile existing directory = (fs, .error (.file e)) := by
  rw [appendEntry]
  dsimp only
  rw [refused]

/-! ### What comes of a registration -/

/-- Why the system refuses to register a directory: the profile cannot be looked for or read, or
nothing can be added to it, where the line of the directory is missing. -/
inductive Refuses (fs : FileSystem) (profile : PlainPath) (directory : RawText) : FileError → Prop
  | reading {error : SystemError} {path : Text}
      (refused : fs.profileText profile = .error (.file (.system error path))) :
      Refuses fs profile directory (.system error path)
  | writing {existing : Text} {error : SystemError} {path : Text}
      (reads : fs.profileText profile = .ok existing)
      (missing : Profile.registers existing directory = false)
      (refused : ∀ bytes, fs.appendAllowed profile.text bytes = .error (.system error path)) :
      Refuses fs profile directory (.system error path)

/-- What comes of registering a directory that the search path of the process does not hold. -/
inductive Registers (fs : FileSystem) (profile : PlainPath) (directory : RawText) :
    FileSystem × Except Failure Registration → Prop
  | found {existing : Text} (reads : fs.profileText profile = .ok existing)
      (there : Profile.registers existing directory = true) :
      Registers fs profile directory (fs, .ok .present)
  | added {existing name : Text} {after : FileSystem}
      (reads : fs.profileText profile = .ok existing) (isText : directory.text? = some name)
      (missing : Profile.registers existing directory = false)
      (appends : fs.appendAllowed profile.text (Utf8.encode (Profile.addition existing name))
        = .ok after) :
      Registers fs profile directory (after, .ok .added)
  | refused {e : FileError} (refuses : fs.Refuses profile directory e) :
      Registers fs profile directory (fs, .ok (.failed e.message))
  | garbled {bytes : Bytes} {e : DecodeError}
      (holds : fs.content? profile.text = some bytes) (garbled : Utf8.decode bytes = .error e) :
      Registers fs profile directory (fs, .error (.decoding e))
  | null (null : '\x00' ∈ profile.text) :
      Registers fs profile directory (fs, .error (.file .nullByte))
  | unwritten {existing : Text} {after : FileSystem} {e : EncodeError}
      (reads : fs.profileText profile = .ok existing) (noText : directory.text? = none)
      (appends : fs.appendAllowed profile.text (Utf8.encode (Profile.opening existing))
        = .ok after) :
      Registers fs profile directory (after, .error (.encoding e))

lemma register_of_holds (holds : SearchList.posix.holdsRaw searchPath directory = true) :
    fs.register searchPath (.ok profile) directory = (fs, .ok .present) :=
  if_pos holds

lemma register_of_not_holds (unknown : SearchList.posix.holdsRaw searchPath directory = false) :
    fs.register searchPath (.ok profile) directory =
      match fs.addToProfile profile directory with
      | (fs', .error (.file (.system error path))) =>
        (fs', .ok (.failed (FileError.message (.system error path))))
      | result => result :=
  if_neg (Bool.eq_false_iff.mp unknown)

/-- The system refuses for one reason at most, and then the registration fails for it. -/
lemma register_of_refuses {e : FileError}
    (unknown : SearchList.posix.holdsRaw searchPath directory = false)
    (refuses : fs.Refuses profile directory e) :
    fs.register searchPath (.ok profile) directory = (fs, .ok (.failed e.message)) := by
  rw [register_of_not_holds unknown, addToProfile]
  cases refuses with
  | reading refused => rw [refused]
  | writing reads missing refused =>
    simp only [reads, missing, Bool.false_eq_true, if_false, appendEntry_of_refused refused]

/-- What comes of a line that is missing in a profile. -/
lemma registers_of_missing (noNull : '\x00' ∉ profile.text)
    (unknown : SearchList.posix.holdsRaw searchPath directory = false)
    (reads : fs.profileText profile = .ok existing)
    (missing : Profile.registers existing directory = false) :
    Registers fs profile directory (fs.register searchPath (.ok profile) directory) := by
  cases appends : fs.appendAllowed profile.text [] with
  | error e =>
    obtain ⟨error, path, rfl⟩ :=
      eq_system_of_unlessDenied (fun _ => eq_system_of_modify noNull) appends
    have refuses : fs.Refuses profile directory _ :=
      .writing reads missing (appendAllowed_eq_error appends)
    rw [register_of_refuses unknown refuses]
    exact .refused refuses
  | ok _ =>
    have adds : ∀ bytes, ∃ after, fs.appendAllowed profile.text bytes = .ok after := by
      intro bytes
      cases added : fs.appendAllowed profile.text bytes with
      | ok after => exact ⟨after, rfl⟩
      | error e =>
        rw [appendAllowed_eq_error added] at appends
        cases appends
    rw [register_of_not_holds unknown, addToProfile, reads]
    simp only [missing, Bool.false_eq_true, if_false]
    cases isText : directory.text? with
    | some name =>
      obtain ⟨after, added⟩ := adds (Utf8.encode (Profile.addition existing name))
      rw [appendEntry_of_text isText, added]
      exact .added reads isText missing added
    | none =>
      obtain ⟨after, opened⟩ := adds (Utf8.encode (Profile.opening existing))
      obtain ⟨cause, entry⟩ := appendEntry_of_noText fs profile existing isText
      rw [entry, opened]
      exact .unwritten reads isText opened

lemma profileText_of_null (fs : FileSystem) (null : '\x00' ∈ profile.text) :
    fs.profileText profile = .ok [] := by
  have never : fs.resolve .look profile.text = .error .nullByte := if_pos null
  rw [profileText_eq, exists?, never]

/-- Nothing can be asked about a path with a null character, and no file can be made there. -/
lemma register_of_null (null : '\x00' ∈ profile.text)
    (unknown : SearchList.posix.holdsRaw searchPath directory = false) :
    (∃ e, fs.Refuses profile directory e) ∨
      fs.register searchPath (.ok profile) directory = (fs, .error (.file .nullByte)) := by
  have empty := profileText_of_null fs null
  have appends : ∀ bytes, fs.appendAllowed profile.text bytes
      = fs.unlessDenied .appending profile.text (.error .nullByte) := by
    intro bytes
    have never : fs.resolve .write profile.text = .error .nullByte := if_pos null
    rw [appendAllowed, append, modify, never]
  cases denied : fs.isDenied .appending profile.text with
  | true =>
    refine .inl ⟨.system .denied profile.text, ?_⟩
    refine .writing empty Profile.not_registers_nil fun bytes => ?_
    rw [appends, unlessDenied, if_pos denied]
  | false =>
    have refused : ∀ bytes, fs.appendAllowed profile.text bytes = .error .nullByte := by
      intro bytes
      rw [appends, unlessDenied, denied, if_neg (by simp)]
    refine .inr ?_
    rw [register_of_not_holds unknown, addToProfile, empty]
    simp only [Profile.not_registers_nil, Bool.false_eq_true, if_false,
      appendEntry_of_refused refused]

lemma registers (fs : FileSystem) (profile : PlainPath)
    (unknown : SearchList.posix.holdsRaw searchPath directory = false) :
    Registers fs profile directory (fs.register searchPath (.ok profile) directory) := by
  by_cases noNull : '\x00' ∈ profile.text
  · rcases register_of_null noNull unknown with ⟨e, refuses⟩ | never
    · rw [register_of_refuses unknown refuses]
      exact .refused refuses
    · rw [never]
      exact .null noNull
  cases reads : fs.profileText profile with
  | error failure =>
    rcases profileText_eq_error noNull reads with ⟨error, text, rfl⟩ | ⟨bytes, e, holds, bad, rfl⟩
    · rw [register_of_refuses unknown (.reading reads)]
      exact .refused (.reading reads)
    · rw [register_of_not_holds unknown, addToProfile, reads]
      exact .garbled holds bad
  | ok existing =>
    cases there : Profile.registers existing directory with
    | true =>
      rw [register_of_not_holds unknown, addToProfile, reads]
      simp only [there, if_true]
      exact .found reads there
    | false => exact registers_of_missing noNull unknown reads there

end FileSystem

end TreeDump
