import TreeDump.Proofs.Registration.Profile

/-!
# Registrations that fail

A refusal of the system is reported and changes nothing. A profile that holds no text and a
directory that is none are no refusals: there a registration comes to no end.
-/

namespace TreeDump.FileSystem

variable {fs after : FileSystem} {profile : PlainPath} {searchPath directory : RawText}
  {existing : Text}

/-! ### Refusals -/

lemma refuses_of_unread {e : FileError} (noNull : '\x00' ∉ profile.text)
    (unread : fs.profileText profile = .error (.file e)) :
    ∃ e, fs.Refuses profile directory e := by
  rcases profileText_eq_error noNull unread with ⟨error, path, system⟩ | ⟨_, _, _, _, decoding⟩
  · rw [system] at unread
    exact ⟨_, .reading unread⟩
  · cases decoding

lemma refuses_of_missing (noNull : '\x00' ∉ profile.text) (empty : fs.profileText profile = .ok [])
    (closed : ∀ after, fs.appendAllowed profile.text [] ≠ .ok after) :
    ∃ e, fs.Refuses profile directory e := by
  cases refused : fs.appendAllowed profile.text [] with
  | ok after => exact absurd refused (closed after)
  | error e =>
    obtain ⟨error, path, rfl⟩ :=
      eq_system_of_unlessDenied (fun _ => eq_system_of_modify noNull) refused
    exact ⟨_, .writing empty Profile.not_registers_nil (appendAllowed_eq_error refused)⟩

/-- What keeps a directory from being registered in a profile: there is a directory in its place or
none above it, it may not be opened, or it may not be read or written where that is needed. -/
inductive Blocks (fs : FileSystem) (profile : PlainPath) (directory : RawText) : Prop
  | directory (there : fs.isDirectory profile.text = true)
  | notAbove (missing : fs.isDirectory profile.parent.text = false)
  | closed (denied : fs.isDenied .opening profile.text = true)
  | unreadable {bytes : Bytes} (holds : fs.content? profile.text = some bytes)
      (denied : fs.isDenied .reading profile.text = true)
  | unwritable {existing : Text} (reads : fs.profileText profile = .ok existing)
      (missing : Profile.registers existing directory = false)
      (denied : fs.isDenied .appending profile.text = true)

/-- No profile is made where there is no directory for it. -/
lemma refuses_of_not_above (noNull : '\x00' ∉ profile.text)
    (notAbove : fs.isDirectory profile.parent.text = false) :
    ∃ e, fs.Refuses profile directory e := by
  have nowhere : ∀ purpose target, fs.resolve purpose profile.text ≠ .ok target := by
    intro purpose target leads
    rw [isDirectory_parent leads] at notAbove
    cases notAbove
  rcases profileText_of_missing fun place node => nowhere _ _ with empty | ⟨e, unread⟩
  · refine refuses_of_missing noNull empty fun after appends => ?_
    cases modifies_of_modify (unlessDenied_eq_ok_iff.mp appends).2 with
    | file leads => exact nowhere _ _ leads
    | swallowed leads => exact nowhere _ _ leads
  · exact refuses_of_unread noNull unread

/-- A profile that may not be opened is left alone. -/
lemma refuses_of_closed (noNull : '\x00' ∉ profile.text)
    (closed : fs.isDenied .opening profile.text = true) : ∃ e, fs.Refuses profile directory e := by
  cases there : fs.exists? profile.text with
  | error e => exact refuses_of_unread noNull (by rw [profileText_eq, there])
  | ok there? =>
    cases there? with
    | true =>
      obtain ⟨e, unread⟩ := readAllowed_eq_error (.inl (isDenied_of_opening .reading closed))
      exact refuses_of_unread noNull (by rw [profileText_eq, there, unread])
    | false =>
      refine refuses_of_missing noNull (by rw [profileText_eq, there]) fun after appends => ?_
      rw [appendAllowed, unlessDenied_eq_ok_iff, isDenied_of_opening _ closed] at appends
      cases appends.1

lemma Blocks.exists_refuses (noNull : '\x00' ∉ profile.text)
    (blocks : fs.Blocks profile directory) : ∃ e, fs.Refuses profile directory e := by
  cases blocks with
  | directory isDirectory =>
    obtain ⟨place, leads⟩ := isDirectory_iff.mp isDirectory
    obtain ⟨e, unread⟩ := readAllowed_eq_error (.inr ⟨_, by rw [read, leads]⟩)
    exact refuses_of_unread noNull
      (by rw [profileText_eq, exists?_of_resolve leads, unread])
  | notAbove missing => exact refuses_of_not_above noNull missing
  | closed denied => exact refuses_of_closed noNull denied
  | unreadable holds denied =>
    exact refuses_of_unread noNull (by rw [profileText_of_content? holds, if_pos denied])
  | unwritable reads missing denied =>
    refine ⟨.system .denied profile.text, .writing reads missing fun bytes => ?_⟩
    rw [appendAllowed, unlessDenied, if_pos denied]

/-! ### Ends -/

lemma isWellFormed_of_profileText (reads : fs.profileText profile = .ok existing) (bytes : Bytes)
    (holds : fs.content? profile.text = some bytes) : Utf8.IsWellFormed bytes := by
  rw [profileText_of_content? holds] at reads
  split at reads
  next => cases reads
  next =>
    split at reads
    next => cases reads
    next text decoded => exact ⟨text, Utf8.decode_eq_ok.mp decoded⟩

lemma exists_text_of_registers (there : Profile.registers existing directory = true) :
    directory.text?.isSome = true := by
  obtain ⟨name, isText, -⟩ := Profile.registers_iff.mp there
  exact Option.isSome_of_eq_some isText

/-- A registration comes to an end if the system refuses it, or the directory is a text and the
profile is no file of other bytes. -/
lemma returns_iff (unknown : SearchList.posix.holdsRaw searchPath directory = false) :
    (∃ outcome, (fs.register searchPath (.ok profile) directory).2 = .ok outcome) ↔
      (∃ e, fs.Refuses profile directory e) ∨
        '\x00' ∉ profile.text ∧ directory.text?.isSome = true ∧
          ∀ bytes, fs.content? profile.text = some bytes → Utf8.IsWellFormed bytes := by
  constructor
  · rintro ⟨outcome, returns⟩
    by_cases noNull : '\x00' ∈ profile.text
    · rcases register_of_null noNull unknown with refuses | never
      · exact .inl refuses
      · rw [never] at returns
        cases returns
    have registers := registers fs profile unknown
    generalize fs.register searchPath (.ok profile) directory = result at registers returns
    cases registers with
    | found reads there =>
      exact .inr ⟨noNull, exists_text_of_registers there, isWellFormed_of_profileText reads⟩
    | added reads isText =>
      exact .inr ⟨noNull, Option.isSome_of_eq_some isText, isWellFormed_of_profileText reads⟩
    | refused refuses => exact .inl ⟨_, refuses⟩
    | _ => cases returns
  · rintro (⟨e, refuses⟩ | ⟨noNull, isText, wellFormed⟩)
    · exact ⟨_, by rw [register_of_refuses unknown refuses]⟩
    · have registers := registers fs profile unknown
      generalize fs.register searchPath (.ok profile) directory = result at registers ⊢
      cases registers with
      | garbled holds garbled =>
        obtain ⟨text, encoded⟩ := wellFormed _ holds
        rw [Utf8.decode_eq_ok.mpr encoded] at garbled
        cases garbled
      | null null => exact absurd null noNull
      | unwritten _ noText =>
        rw [noText] at isText
        cases isText
      | _ => exact ⟨_, rfl⟩

lemma found_or_refuses {outcome : Registration}
    (unknown : SearchList.posix.holdsRaw searchPath directory = false)
    (returns : fs.register searchPath (.ok profile) directory = (after, .ok outcome))
    (unchanged : outcome.changed = false) :
    after = fs ∧
      ((∃ existing, fs.profileText profile = .ok existing ∧
          Profile.registers existing directory = true) ∨
        ∃ e, fs.Refuses profile directory e) := by
  have registers := registers fs profile unknown
  rw [returns] at registers
  cases registers with
  | found reads there => exact ⟨rfl, .inl ⟨_, reads, there⟩⟩
  | added => cases unchanged
  | refused refuses => exact ⟨rfl, .inr ⟨_, refuses⟩⟩

/-- A registration that comes to no end leaves everything as it is, or the opening of an entry that
could not be written. -/
lemma unchanged_or_opened {failure : Failure}
    (unknown : SearchList.posix.holdsRaw searchPath directory = false)
    (fails : fs.register searchPath (.ok profile) directory = (after, .error failure)) :
    after = fs ∨ directory.text? = none ∧ ∃ existing, fs.profileText profile = .ok existing ∧
      fs.appendAllowed profile.text (Utf8.encode (Profile.opening existing)) = .ok after := by
  have registers := registers fs profile unknown
  rw [fails] at registers
  cases registers with
  | garbled | null => exact .inl rfl
  | unwritten reads noText opens => exact .inr ⟨noText, _, reads, opens⟩

/-- A registration comes to an end if the system refuses it, or the directory is a text and the
profile is no file of other bytes. When the system refuses it, as it does for all that blocks it,
this is reported and printed, and nothing changes. What changes nothing was refused, or the
directory was there. One that comes to no end may leave the line feed that goes out before the entry
of what is no text. -/
theorem register_fails_cleanly (fs : FileSystem) (searchPath directory : RawText)
    (profile : PlainPath) :
    ((∃ outcome, (fs.register searchPath (.ok profile) directory).2 = .ok outcome) ↔
      SearchList.posix.holdsRaw searchPath directory = true ∨
        (∃ e, fs.Refuses profile directory e) ∨
        '\x00' ∉ profile.text ∧ directory.text?.isSome = true ∧
          ∀ bytes, fs.content? profile.text = some bytes → Utf8.IsWellFormed bytes) ∧
    (∀ e, SearchList.posix.holdsRaw searchPath directory = false → fs.Refuses profile directory e →
      ∃ outcome, fs.register searchPath (.ok profile) directory = (fs, .ok outcome) ∧
        outcome.changed = false ∧ outcome.log = [.registrationFailed e.message] ∧
        outcome.output = "Failed to set environment path: ".toList ++ e.message ++ ['\n']) ∧
    ('\x00' ∉ profile.text → fs.Blocks profile directory → ∃ e, fs.Refuses profile directory e) ∧
    (∀ after outcome, fs.register searchPath (.ok profile) directory = (after, .ok outcome) →
      outcome.changed = false →
        after = fs ∧
          (SearchList.posix.holdsRaw searchPath directory = true ∨
            (∃ existing, fs.profileText profile = .ok existing ∧
              Profile.registers existing directory = true) ∨
            ∃ e, fs.Refuses profile directory e)) ∧
    ∀ after failure, fs.register searchPath (.ok profile) directory = (after, .error failure) →
      after = fs ∨ directory.text? = none ∧ ∃ existing, fs.profileText profile = .ok existing ∧
        fs.appendAllowed profile.text (Utf8.encode (Profile.opening existing)) = .ok after := by
  cases unknown : SearchList.posix.holdsRaw searchPath directory with
  | true =>
    have registers : fs.register searchPath (.ok profile) directory = (fs, .ok .present) :=
      register_of_holds unknown
    refine ⟨iff_of_true ⟨.present, by rw [registers]⟩ (.inl rfl), by simp, Blocks.exists_refuses,
      ?_, ?_⟩
    · intro after outcome returns _
      rw [registers] at returns
      cases returns
      exact ⟨rfl, .inl rfl⟩
    · intro after failure fails
      rw [registers] at fails
      cases fails
  | false =>
    refine ⟨?_, ?_, Blocks.exists_refuses, ?_, fun _ _ => unchanged_or_opened unknown⟩
    · rw [returns_iff unknown]
      simp
    · intro e _ refuses
      exact ⟨_, register_of_refuses unknown refuses, rfl, rfl, rfl⟩
    · intro after outcome returns unchanged
      exact (found_or_refuses unknown returns unchanged).imp_right .inr

/-- A profile with a byte that no text in UTF-8 has. -/
def sampleGarbled : FileSystem where
  nodes := Trie.empty.insert ["p".toList] (.file [0xff])
  workingDirectory := []
  denied := []

/-- No profile is made in a directory that is missing. -/
theorem register_fails_cleanly_sampleGarbled :
    ∃ outcome, sampleGarbled.register (.ofText "/usr/bin".toList) (.ok (.ofText "d/p".toList))
          (.ofText "/q".toList)
        = (sampleGarbled, .ok outcome) ∧
      outcome.changed = false ∧
      outcome.output = "Failed to set environment path: ".toList
        ++ "[Errno 2] No such file or directory: 'd/p'\n".toList := by
  have unknown : SearchList.posix.holdsRaw (.ofText "/usr/bin".toList) (.ofText "/q".toList)
      = false := by decide +kernel
  have printed : (sampleGarbled.register (.ofText "/usr/bin".toList) (.ok (.ofText "d/p".toList))
      (.ofText "/q".toList)).2.toOption.map (·.output)
        = some ("Failed to set environment path: ".toList
          ++ "[Errno 2] No such file or directory: 'd/p'\n".toList) := by decide +kernel
  obtain ⟨-, fails, refuses, -⟩ := register_fails_cleanly sampleGarbled (.ofText "/usr/bin".toList)
    (.ofText "/q".toList) (.ofText "d/p".toList)
  obtain ⟨e, refuses⟩ := refuses (by decide) (.notAbove (by decide +kernel))
  obtain ⟨outcome, registers, unchanged, -, -⟩ := fails e unknown refuses
  rw [registers] at printed
  exact ⟨outcome, registers, unchanged, Option.some.inj printed⟩

/-- The profile itself is no refusal of the system: the registration does not come to an end. -/
theorem register_sampleGarbled :
    sampleGarbled.register (.ofText "/usr/bin".toList) (.ok (.ofText "p".toList))
          (.ofText "/q".toList)
        = (sampleGarbled, .error (.decoding ⟨.utf8, 0, 0xff, 1, .invalidStart⟩)) ∧
      ¬∃ outcome, (sampleGarbled.register (.ofText "/usr/bin".toList) (.ok (.ofText "p".toList))
        (.ofText "/q".toList)).2 = .ok outcome := by
  have raises : sampleGarbled.register (.ofText "/usr/bin".toList) (.ok (.ofText "p".toList))
        (.ofText "/q".toList)
      = (sampleGarbled, .error (.decoding ⟨.utf8, 0, 0xff, 1, .invalidStart⟩)) := rfl
  refine ⟨raises, ?_⟩
  rintro ⟨outcome, returns⟩
  rw [raises] at returns
  cases returns

/-- Nor does that of a directory that is no text, and a line feed is left in the profile. -/
example :
    let profile : FileSystem :=
      ⟨Trie.empty.insert ["p".toList] (.file (Utf8.encode "umask 022".toList)), [], []⟩
    let result := profile.register (.ofText "/usr/bin".toList) (.ok (.ofText "p".toList))
      (RawText.ofText "/q".toList ++ [.surrogate 0xdcff (by decide)])
    result.2 = .error (.encoding ⟨54, 0xdcff, 1⟩) ∧
      result.1.content? "p".toList = some (Utf8.encode "umask 022\n".toList) := by
  decide +kernel

end TreeDump.FileSystem
