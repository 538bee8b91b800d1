import TreeDump.Proofs.Registration.Profile

/-!
# Profiles that grow

However many directories are registered one after another, a profile only grows at its end. A line
that has been added to it is found from then on, also where carriage returns end its other lines, so
that no directory is added twice.
-/

namespace TreeDump.FileSystem

variable {fs after : FileSystem} {profile : PlainPath} {searchPath directory : RawText}
  {text : Text} {result : Except Failure Registration} {directories : List RawText}

/-! ### One directory -/

/-- The profile is a file that holds the text in UTF-8, or it is missing and counts as empty. There
can be no profile under a path with a null character. -/
inductive HasProfile (fs : FileSystem) (profile : PlainPath) : Text → Prop
  | missing (noNull : '\x00' ∉ profile.text) (nothing : fs.Missing profile) :
      HasProfile fs profile []
  | file {text : Text} (holds : fs.content? profile.text = some (Utf8.encode text)) :
      HasProfile fs profile text

namespace HasProfile

lemma noNull (has : fs.HasProfile profile text) : '\x00' ∉ profile.text := by
  cases has with
  | missing noNull _ => exact noNull
  | file holds =>
    obtain ⟨place, leads⟩ := content?_eq_some_iff.mp holds
    exact (admits_of_resolve leads).noNull

lemma not_swallows (has : fs.HasProfile profile text) (place : List Text) (node : Node)
    (leads : fs.resolve .look profile.text = .ok (place, some node)) : node.swallows = false := by
  cases has with
  | missing _ nothing => exact absurd leads (nothing place node)
  | file holds =>
    cases swallows : node.swallows with
    | false => rfl
    | true =>
      rw [content?_of_swallows leads swallows] at holds
      cases holds

/-- The bytes of the profile are those of the text, and no bytes when it is missing. -/
lemma content_eq (has : fs.HasProfile profile text) :
    (fs.content? profile.text).getD [] = Utf8.encode text := by
  cases has with
  | missing _ nothing =>
    cases holds : fs.content? profile.text with
    | none => rfl
    | some bytes =>
      obtain ⟨place, leads⟩ := content?_eq_some_iff.mp holds
      exact absurd leads (nothing place _)
  | file holds => rw [holds, Option.getD_some]

lemma profileText_eq_ok {existing : Text} (has : fs.HasProfile profile text)
    (reads : fs.profileText profile = .ok existing) : existing = text.unifyNewlines := by
  cases has with
  | missing _ nothing =>
    rcases profileText_of_missing nothing with empty | ⟨e, unread⟩
    · rw [empty] at reads
      cases reads
      rfl
    · rw [unread] at reads
      cases reads
  | file holds =>
    rw [profileText_of_content? holds, Utf8.decode_eq_ok.mpr rfl] at reads
    split at reads
    next => cases reads
    next =>
      cases reads
      rfl

/-- What is written at the end of the profile stands behind its text from then on. -/
lemma content?_append {more : Text} (has : fs.HasProfile profile text)
    (appends : fs.appendAllowed profile.text (Utf8.encode more) = .ok after) :
    after.content? profile.text = some (Utf8.encode (text ++ more)) := by
  rw [content?_of_modify (unlessDenied_eq_ok_iff.mp appends).2 has.not_swallows, has.content_eq,
    Utf8.encode_append]

end HasProfile

/-- One text goes on where another ends, and so does what is read of it. -/
structure Grows (text more : Text) : Prop where
  starts : text <+: more
  reads : text.unifyNewlines <+: more.unifyNewlines

lemma Grows.refl (text : Text) : Grows text text :=
  ⟨List.prefix_rfl, List.prefix_rfl⟩

lemma Grows.trans {more most : Text} (h : Grows text more) (h' : Grows more most) :
    Grows text most :=
  ⟨h.starts.trans h'.starts, h.reads.trans h'.reads⟩

lemma grows_opening (text more : Text) (start : more.head? ≠ some '\n') :
    Grows text (text ++ (Profile.opening text.unifyNewlines ++ more)) := by
  refine ⟨List.prefix_append _ _, ?_⟩
  rw [Profile.unifyNewlines_append_opening text more start]
  exact List.prefix_append _ _

/-- A registration leaves a profile as it is, or adds a line to it that was not there. Of an entry
that cannot be written only the opening is added. -/
inductive Adds (fs : FileSystem) (profile : PlainPath) (text : Text) (directory : RawText) :
    FileSystem → Except Failure Registration → Prop
  | unchanged {outcome : Registration} (unchanged : outcome.changed = false) :
      Adds fs profile text directory fs (.ok outcome)
  | added {name : Text} {after : FileSystem} (isText : directory.text? = some name)
      (missing : ¬Profile.exportLine name <:+: text.unifyNewlines)
      (holds : after.content? profile.text
        = some (Utf8.encode (text ++ Profile.addition text.unifyNewlines name))) :
      Adds fs profile text directory after (.ok .added)
  | unwritten {after : FileSystem} {failure : Failure} (noText : directory.text? = none)
      (holds : after.content? profile.text
        = some (Utf8.encode (text ++ Profile.opening text.unifyNewlines))) :
      Adds fs profile text directory after (.error failure)

lemma HasProfile.adds (has : fs.HasProfile profile text) (searchPath directory : RawText) :
    fs.Adds profile text directory (fs.register searchPath (.ok profile) directory).1
      (fs.register searchPath (.ok profile) directory).2 := by
  cases unknown : SearchList.posix.holdsRaw searchPath directory with
  | true =>
    rw [register_of_holds unknown]
    exact .unchanged rfl
  | false =>
    have registers := registers fs profile unknown
    generalize fs.register searchPath (.ok profile) directory = result at registers ⊢
    cases registers with
    | found => exact .unchanged rfl
    | refused => exact .unchanged rfl
    | null null => exact absurd null has.noNull
    | added reads isText missing appends =>
      obtain rfl := has.profileText_eq_ok reads
      refine .added isText (fun line => ?_) (has.content?_append appends)
      rw [Profile.registers_iff.mpr ⟨_, isText, line⟩] at missing
      cases missing
    | unwritten reads noText opens =>
      obtain rfl := has.profileText_eq_ok reads
      exact .unwritten noText (has.content?_append opens)
    | garbled holds garbled =>
      have encoded := has.content_eq
      rw [holds, Option.getD_some] at encoded
      rw [Utf8.decode_eq_ok.mpr encoded.symm] at garbled
      cases garbled

/-- A registration has changed something exactly if the entry of the directory stands behind the
text. -/
lemma Adds.eq_added_iff (has : fs.HasProfile profile text)
    (adds : fs.Adds profile text directory after result) :
    result = .ok .added ↔ ∃ name, directory.text? = some name ∧
      after.content? profile.text
        = some (Utf8.encode (text ++ Profile.addition text.unifyNewlines name)) := by
  cases adds with
  | added isText _ holds => exact iff_of_true rfl ⟨_, isText, holds⟩
  | unwritten noText => exact iff_of_false nofun (by simp [noText])
  | unchanged unchanged =>
    refine iff_of_false (by rintro ⟨⟩; cases unchanged) ?_
    rintro ⟨name, -, holds⟩
    have same := has.content_eq
    rw [holds, Option.getD_some] at same
    have nothing := List.append_right_eq_self.mp (Utf8.encode_injective same)
    exact Profile.exportLine_not_infix_nil
      (nothing ▸ Profile.exportLine_infix_addition text.unifyNewlines name)

lemma Adds.eq_of_unchanged {outcome : Registration}
    (adds : fs.Adds profile text directory after (.ok outcome))
    (unchanged : outcome.changed = false) : after = fs := by
  cases adds with
  | unchanged => rfl
  | added => cases unchanged

lemma Adds.exists_outcome (adds : fs.Adds profile text directory after result)
    (isText : directory.text?.isSome = true) : ∃ outcome, result = .ok outcome := by
  cases adds with
  | unchanged | added => exact ⟨_, rfl⟩
  | unwritten noText =>
    rw [noText] at isText
    cases isText

/-- However a registration ends, the profile only grows. -/
lemma Adds.exists_grows (has : fs.HasProfile profile text)
    (adds : fs.Adds profile text directory after result) :
    ∃ longer, after.HasProfile profile longer ∧ Grows text longer := by
  have start : Profile.marker.head? = some '#' := by decide
  cases adds with
  | unchanged => exact ⟨text, has, .refl text⟩
  | added isText missing holds =>
    refine ⟨_, .file holds, ?_⟩
    simpa only [Profile.addition, List.append_assoc] using
      grows_opening text _ (by simp [List.head?_append, start])
  | unwritten noText holds =>
    refine ⟨_, .file holds, ?_⟩
    simpa only [List.append_nil] using grows_opening text [] (by simp)

/-- A directory that has been added is found in the profile as long as it only grows. -/
lemma Adds.ne_added_of_grows {longer name : Text} (noReturn : '\r' ∉ name)
    (isText : directory.text? = some name)
    (grows : Grows (text ++ Profile.addition text.unifyNewlines name) longer)
    (adds : fs.Adds profile longer directory after result) : result ≠ .ok .added := by
  rintro rfl
  cases adds with
  | unchanged unchanged => cases unchanged
  | @added again _ isText' missing =>
    have same : again = name := Option.some.inj (isText'.symm.trans isText)
    have added := Profile.exportLine_infix_addition text.unifyNewlines name
    have read : Profile.exportLine name
        <:+: (text ++ Profile.addition text.unifyNewlines name).unifyNewlines := by
      rw [Profile.unifyNewlines_append_addition,
        Text.unifyNewlines_of_no_return (Profile.return_not_mem_addition noReturn)]
      exact added.trans (List.suffix_append _ _).isInfix
    exact absurd (read.trans grows.reads.isInfix) (same ▸ missing)

/-! ### One after another -/

/-- The file system after directories have been registered one after another. -/
def registerAll (fs : FileSystem) (searchPath : RawText) (profile : PlainPath)
    (directories : List RawText) : FileSystem :=
  directories.foldl (fun fs directory => (fs.register searchPath (.ok profile) directory).1) fs

lemma registerAll_cons (fs : FileSystem) (searchPath : RawText) (profile : PlainPath)
    (directory : RawText) (directories : List RawText) :
    fs.registerAll searchPath profile (directory :: directories)
      = (fs.register searchPath (.ok profile) directory).1.registerAll searchPath profile
          directories :=
  rfl

lemma registerAll_append (fs : FileSystem) (searchPath : RawText) (profile : PlainPath)
    (directories later : List RawText) :
    fs.registerAll searchPath profile (directories ++ later)
      = (fs.registerAll searchPath profile directories).registerAll searchPath profile later :=
  List.foldl_append

/-- Directories registered one after another make a profile grow. -/
lemma HasProfile.exists_grows (has : fs.HasProfile profile text) (searchPath : RawText)
    (directories : List RawText) :
    ∃ longer, (fs.registerAll searchPath profile directories).HasProfile profile longer ∧
      Grows text longer := by
  induction directories generalizing fs text with
  | nil => exact ⟨text, has, .refl text⟩
  | cons directory directories ih =>
    obtain ⟨longer, hasLonger, grows⟩ := (has.adds searchPath directory).exists_grows has
    obtain ⟨longest, hasLongest, growsOn⟩ := ih hasLonger
    exact ⟨longest, hasLongest, grows.trans growsOn⟩

/-- A directory that has been added before is not added again. -/
lemma HasProfile.ne_added_of_earlier {first : List RawText}
    (has : fs.HasProfile profile text) (noReturn : .char '\r' ∉ directory)
    (early : ((fs.registerAll searchPath profile first).register searchPath (.ok profile)
      directory).2 = .ok .added) (between : List RawText) :
    ((fs.registerAll searchPath profile (first ++ directory :: between)).register searchPath
      (.ok profile) directory).2 ≠ .ok .added := by
  obtain ⟨start, hasStart, -⟩ := has.exists_grows searchPath first
  obtain ⟨name, isText, holds⟩ :=
    ((hasStart.adds searchPath directory).eq_added_iff hasStart).mp early
  rw [registerAll_append, registerAll_cons]
  obtain ⟨before, hasBefore, growsOn⟩ := (HasProfile.file holds).exists_grows searchPath between
  have noReturn' : '\r' ∉ name := by
    rwa [RawText.eq_ofText isText, RawText.char_mem_ofText] at noReturn
  exact (hasBefore.adds searchPath directory).ne_added_of_grows noReturn' isText growsOn

/-- Whatever has been registered before, the profile holds the bytes it held at the start, and
behind them only what has been added. A registration changes something exactly when it adds the
marker and the line of the directory, and a line feed before them if the text of the profile does
not end in a newline; when it ends without a change it leaves everything as it is. It does come to
an end for a directory that is a text. Of several registrations of a directory one at most changes
something. -/
theorem register_grows (has : fs.HasProfile profile text) (noReturn : .char '\r' ∉ directory)
    (searchPath : RawText) (earlier : List RawText) :
    ∃ before more after result,
      fs.registerAll searchPath profile earlier = before ∧
      before.HasProfile profile (text ++ more) ∧
      (before.content? profile.text).getD []
        = (fs.content? profile.text).getD [] ++ Utf8.encode more ∧
      before.register searchPath (.ok profile) directory = (after, result) ∧
      (result = .ok .added ↔ ∃ name, directory.text? = some name ∧
        after.content? profile.text
          = some (Utf8.encode (text ++ more
            ++ (Profile.opening (text ++ more).unifyNewlines ++ Profile.marker
              ++ '\n' :: Profile.exportLine name ++ ['\n'])))) ∧
      (∀ outcome, result = .ok outcome → outcome.changed = false → after = before) ∧
      (directory.text?.isSome = true → ∃ outcome, result = .ok outcome) ∧
      ∀ first between, earlier = first ++ directory :: between →
        ((fs.registerAll searchPath profile first).register searchPath (.ok profile) directory).2
          = .ok .added →
        result ≠ .ok .added := by
  obtain ⟨longer, hasLonger, grows⟩ := has.exists_grows searchPath earlier
  obtain ⟨more, rfl⟩ := grows.starts
  have adds := hasLonger.adds searchPath directory
  obtain ⟨after, result, registers⟩ : ∃ after result, (fs.registerAll searchPath profile
      earlier).register searchPath (.ok profile) directory = (after, result) := ⟨_, _, rfl⟩
  rw [registers] at adds
  refine ⟨_, more, after, result, rfl, hasLonger, ?_, registers, adds.eq_added_iff hasLonger, ?_,
    adds.exists_outcome, ?_⟩
  · rw [hasLonger.content_eq, has.content_eq, Utf8.encode_append]
  · rintro outcome rfl unchanged
    exact adds.eq_of_unchanged unchanged
  · rintro first between rfl early
    have once := has.ne_added_of_earlier noReturn early between
    rwa [registers] at once

/-- A profile whose last line ends in a carriage return. -/
def sampleProfile : FileSystem where
  nodes := Trie.empty.insert ["p".toList] (.file (Utf8.encode "umask 022\r".toList))
  workingDirectory := []
  denied := []

/-- The second time a directory comes, its line is found behind the carriage return. -/
theorem register_grows_sampleProfile :
    sampleProfile.HasProfile (.ofText "p".toList) "umask 022\r".toList ∧
      .char '\r' ∉ RawText.ofText "/q".toList ∧
      ∃ before after outcome,
        sampleProfile.registerAll (.ofText "/usr/bin".toList) (.ofText "p".toList)
          [.ofText "/q".toList, .ofText "/usr//bin".toList] = before ∧
        before.register (.ofText "/usr/bin".toList) (.ok (.ofText "p".toList))
          (.ofText "/q".toList) = (after, .ok outcome) ∧
        outcome.changed = false ∧
        after.content? "p".toList = some (Utf8.encode ("umask 022\r".toList
          ++ "# Added by codestruct --set-path\nexport PATH=\"$PATH:/q\"\n".toList)) := by
  have has : sampleProfile.HasProfile (.ofText "p".toList) "umask 022\r".toList := .file rfl
  have noReturn : .char '\r' ∉ RawText.ofText "/q".toList := by decide
  have added : (sampleProfile.register (.ofText "/usr/bin".toList) (.ok (.ofText "p".toList))
      (.ofText "/q".toList)).2 = .ok .added := by decide +kernel
  have content : (sampleProfile.registerAll (.ofText "/usr/bin".toList) (.ofText "p".toList)
      [.ofText "/q".toList, .ofText "/usr//bin".toList]).content? "p".toList
        = some (Utf8.encode ("umask 022\r".toList
          ++ "# Added by codestruct --set-path\nexport PATH=\"$PATH:/q\"\n".toList)) := by
    decide +kernel
  obtain ⟨before, more, after, result, rfl, -, -, registers, -, unchanged, ends, once⟩ :=
    register_grows has noReturn (.ofText "/usr/bin".toList)
      [.ofText "/q".toList, .ofText "/usr//bin".toList]
  obtain ⟨outcome, rfl⟩ := ends rfl
  have found : outcome.changed = false := by
    have again := once [] [.ofText "/usr//bin".toList] rfl added
    cases outcome <;> first | rfl | exact absurd rfl again
  refine ⟨has, noReturn, _, after, outcome, rfl, registers, found, ?_⟩
  rw [unchanged outcome rfl found]
  exact content

/-- A profile that keeps nothing of what is added to it. -/
def sampleDevice : FileSystem where
  nodes := Trie.empty.insert ["p".toList] .nullDevice
  workingDirectory := []
  denied := []

/-- There a directory is added again and again. -/
theorem register_sampleDevice :
    sampleDevice.profileText (.ofText "p".toList) = .ok [] ∧
      sampleDevice.register (.ofText "/usr/bin".toList) (.ok (.ofText "p".toList))
        (.ofText "/q".toList) = (sampleDevice, .ok .added) :=
  ⟨rfl, rfl⟩

end TreeDump.FileSystem
