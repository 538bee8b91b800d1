import TreeDump.Proofs.Registration.Growth

/-!
# The lines of a profile

A directory that is added to a profile has a line of its own there from then on. But its line is
looked for anywhere in the text, so that it is also found inside another line, as where it has been
made a comment. Then the directory counts as present, and nothing registers it.
-/

namespace TreeDump

namespace FileSystem

variable {fs after : FileSystem} {profile : PlainPath} {searchPath directory : RawText}
  {text : Text}

/-- What is added to a profile is a line of its own. -/
lemma exportLine_mem_lines {name : Text} (noLineFeed : '\n' ∉ name) (noReturn : '\r' ∉ name)
    (text : Text) :
    Profile.exportLine name
      ∈ (text ++ Profile.addition text.unifyNewlines name).unifyNewlines.lines := by
  have oneLine : '\n' ∉ Profile.exportLine name :=
    Profile.not_mem_exportLine (by decide) noLineFeed
  have split : text.unifyNewlines ++ Profile.addition text.unifyNewlines name
      = (text.unifyNewlines ++ Profile.opening text.unifyNewlines ++ Profile.marker)
        ++ '\n' :: (Profile.exportLine name ++ '\n' :: []) := by
    simp [Profile.addition]
  rw [Profile.unifyNewlines_append_addition,
    Text.unifyNewlines_of_no_return (Profile.return_not_mem_addition noReturn), split,
    Text.lines_append, Text.lines_append, Text.lines_eq_singleton oneLine]
  simp

/-- A profile has a line of its own for the directory. -/
def HasLine (text : Text) (directory : RawText) : Prop :=
  ∃ name ∈ directory.text?, Profile.exportLine name ∈ text.unifyNewlines.lines

/-- The line of the directory is somewhere in a profile. -/
def Mentions (text : Text) (directory : RawText) : Prop :=
  ∃ name ∈ directory.text?, Profile.exportLine name <:+: text.unifyNewlines

/-- The search path of the process holds the directory, or a line of the profile adds it. -/
def IsRegistered (searchPath directory : RawText) (text : Text) : Prop :=
  SearchList.posix.holdsRaw searchPath directory = true ∨ HasLine text directory

instance : Decidable (HasLine text directory) :=
  inferInstanceAs (Decidable (∃ name ∈ directory.text?, _))

instance : Decidable (IsRegistered searchPath directory text) :=
  inferInstanceAs (Decidable (_ ∨ _))

/-- A directory that counts as present is held by the search path of the process, or its line is
somewhere in the profile. -/
lemma HasProfile.holds_or_mentions (has : fs.HasProfile profile text)
    (registers : fs.register searchPath (.ok profile) directory = (after, .ok .present)) :
    SearchList.posix.holdsRaw searchPath directory = true ∨ Mentions text directory := by
  cases unknown : SearchList.posix.holdsRaw searchPath directory with
  | true => exact .inl rfl
  | false =>
    have found := FileSystem.registers fs profile unknown
    rw [registers] at found
    cases found with
    | found reads there =>
      obtain rfl := has.profileText_eq_ok reads
      exact .inr (Profile.registers_iff.mp there)

/-- A directory that is added gets a line of its own in the profile, and for one that counts as
present nothing changes. Either is registered from then on, unless it was not before and its line
was part of another line: then it counts as present all the same. -/
theorem register_leaves_line (has : fs.HasProfile profile text)
    (noLineFeed : .char '\n' ∉ directory) (noReturn : .char '\r' ∉ directory)
    (searchPath : RawText) :
    ∃ after result later,
      fs.register searchPath (.ok profile) directory = (after, result) ∧
      after.HasProfile profile later ∧
      (directory.text?.isSome = true → ∃ outcome, result = .ok outcome) ∧
      (result = .ok .added → HasLine later directory) ∧
      (result = .ok .present → after = fs ∧ later = text ∧
        (SearchList.posix.holdsRaw searchPath directory = true ∨ Mentions text directory)) ∧
      (result = .ok .added ∨ result = .ok .present →
        (IsRegistered searchPath directory later ↔
          IsRegistered searchPath directory text ∨ ¬Mentions text directory)) := by
  have adds := has.adds searchPath directory
  obtain ⟨after, result, registers⟩ : ∃ after result,
      fs.register searchPath (.ok profile) directory = (after, result) := ⟨_, _, rfl⟩
  rw [registers] at adds ⊢
  have ends := adds.exists_outcome
  cases adds with
  | @added name _ isText missing holds =>
    have line : HasLine (text ++ Profile.addition text.unifyNewlines name) directory := by
      rw [RawText.eq_ofText isText, RawText.char_mem_ofText] at noLineFeed noReturn
      exact ⟨name, isText, exportLine_mem_lines noLineFeed noReturn text⟩
    have fresh : ¬Mentions text directory := by
      rintro ⟨other, isText', there⟩
      obtain rfl := Option.some.inj (isText'.symm.trans isText)
      exact missing there
    exact ⟨after, _, _, rfl, .file holds, ends, fun _ => line, nofun,
      fun _ => iff_of_true (.inr line) (.inr fresh)⟩
  | unwritten noText holds => exact ⟨after, _, _, rfl, .file holds, ends, nofun, nofun, nofun⟩
  | @unchanged outcome unchanged =>
    refine ⟨_, _, text, rfl, has, ends, ?_, ?_, ?_⟩
    · rintro ⟨⟩
      cases unchanged
    · rintro ⟨⟩
      exact ⟨rfl, rfl, has.holds_or_mentions registers⟩
    · rintro (⟨⟨⟩⟩ | ⟨⟨⟩⟩)
      · cases unchanged
      · rcases has.holds_or_mentions registers with holds | there
        · exact iff_of_true (.inl holds) (.inl (.inl holds))
        · simp [there]

/-- A profile in which the line of a directory has been made a comment. -/
def sampleCommented : FileSystem where
  nodes := Trie.empty.insert ["p".toList]
    (.file (Utf8.encode "# export PATH=\"$PATH:/q\"".toList))
  workingDirectory := []
  denied := []

/-- Another directory is added below it. -/
theorem register_leaves_line_sampleCommented :
    let text : Text := "# export PATH=\"$PATH:/q\"".toList
    let other : RawText := .ofText "/s".toList
    sampleCommented.HasProfile (.ofText "p".toList) text ∧ .char '\n' ∉ other ∧
      .char '\r' ∉ other ∧
      ∃ after later,
        sampleCommented.register (.ofText "/usr/bin".toList) (.ok (.ofText "p".toList)) other
          = (after, .ok .added) ∧
        after.HasProfile (.ofText "p".toList) later ∧
        IsRegistered (.ofText "/usr/bin".toList) other later := by
  intro text other
  have has : sampleCommented.HasProfile (.ofText "p".toList) text := .file rfl
  have noLineFeed : .char '\n' ∉ other := by decide
  have noReturn : .char '\r' ∉ other := by decide
  have added : (sampleCommented.register (.ofText "/usr/bin".toList) (.ok (.ofText "p".toList))
      other).2 = .ok .added := by decide +kernel
  obtain ⟨after, result, later, registers, hasLater, -, line, -, -⟩ :=
    register_leaves_line has noLineFeed noReturn (.ofText "/usr/bin".toList)
  rw [registers] at added
  obtain rfl := added
  exact ⟨has, noLineFeed, noReturn, after, later, registers, hasLater, .inr (line rfl)⟩

/-- The directory counts as present, but neither the search path nor any line registers it. -/
theorem register_sampleCommented :
    let text : Text := "# export PATH=\"$PATH:/q\"".toList
    let directory : RawText := .ofText "/q".toList
    sampleCommented.HasProfile (.ofText "p".toList) text ∧
      sampleCommented.register (.ofText "/usr/bin".toList) (.ok (.ofText "p".toList)) directory
        = (sampleCommented, .ok .present) ∧
      ¬IsRegistered (.ofText "/usr/bin".toList) directory text := by
  intro text directory
  have has : sampleCommented.HasProfile (.ofText "p".toList) text := .file rfl
  have present : (sampleCommented.register (.ofText "/usr/bin".toList) (.ok (.ofText "p".toList))
      directory).2 = .ok .present := by decide +kernel
  have adds := has.adds (.ofText "/usr/bin".toList) directory
  rw [present] at adds
  exact ⟨has, Prod.ext (adds.eq_of_unchanged rfl) present, by decide +kernel⟩

end FileSystem

end TreeDump
