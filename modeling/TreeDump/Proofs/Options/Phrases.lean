import Mathlib.Data.List.Forall2
import Mathlib.Data.List.Induction
import Mathlib.Tactic.Common
import TreeDump.Options.Parser
import TreeDump.Proofs.Text.Lines

/-!
# Phrases of the command line

A command line that holds only flags in full spelling, with their values, and the directory is a
list of phrases. In whatever order they stand, it is read as a whole: a switch is on if one of its
flags occurs, a setting has the value that it is given last, and the directory is the one that is
named. The only value that is not kept is a separator that is joined to its flag.
-/

namespace TreeDump

/-- The full spelling of a setting. -/
def Setting.spelling : Setting → Text
  | .config => "--config".toList
  | .logFile => "--log-file".toList

/-- A part of a command line that says one thing. -/
inductive Phrase
  /-- a flag that stands alone, in one of its spellings -/
  | flag (switch : Switch) (spelling : Text)
      (spelled : (spelling, .switch switch) ∈ Flag.spellings) (lasting : switch ≠ .help)
  /-- a setting with its value as the next word -/
  | apart (setting : Setting) (value : Text) (plain : value.head? ≠ some '-')
  /-- a setting with its value behind an equals sign -/
  | joined (setting : Setting) (value : Text)
  | directory (path : Text) (plain : path.head? ≠ some '-')

namespace Phrase

/-- The words that a phrase is written with. -/
def words : Phrase → List Text
  | .flag _ spelling _ _ => [spelling]
  | .apart setting value _ => [setting.spelling, value]
  | .joined setting value => [setting.spelling ++ '=' :: value]
  | .directory path _ => [path]

/-! ### What a phrase says -/

/-- Is it a flag of the switch? -/
def turnsOn (switch : Switch) : Phrase → Bool
  | .flag other _ _ _ => other = switch
  | .apart _ _ _ | .joined _ _ | .directory _ _ => false

/-- The value that is given to the setting. A separator that is joined to the flag is no value. -/
def valueFor? (setting : Setting) : Phrase → Option SettingValue
  | .apart other value _ => if other = setting then some (.text value) else none
  | .joined other value =>
    if other = setting then
      some (if value = Word.separatorText then .nothing else .text value)
    else none
  | .flag _ _ _ _ | .directory _ _ => none

/-- The directory that is named. -/
def directory? : Phrase → Option Text
  | .directory path _ => some path
  | .flag _ _ _ _ | .apart _ _ _ | .joined _ _ => none

end Phrase

/-- The value that some phrases give to a setting last. -/
def Phrase.lastValue? (setting : Setting) (phrases : List Phrase) : Option SettingValue :=
  (phrases.filterMap (·.valueFor? setting)).getLast?

/-- What some phrases ask for. -/
def Options.ofPhrases (phrases : List Phrase) : Options where
  directory := (phrases.filterMap Phrase.directory?).getLast?
  console := phrases.any (·.turnsOn .console)
  cleanup := phrases.any (·.turnsOn .cleanup)
  outline := phrases.any (·.turnsOn .outline)
  directories := phrases.any (·.turnsOn .directories)
  setPath := phrases.any (·.turnsOn .setPath)
  progress := phrases.any (·.turnsOn .progress)
  logging := phrases.any (·.turnsOn .logging)
  config := Phrase.lastValue? .config phrases
  logFile := (Phrase.lastValue? .logFile phrases).getD (.text "codestruct.log".toList)

/-! ### Classifying the words -/

namespace Word

/-- The text is classified as the word, wherever it stands. -/
def IsReading (text : Text) (word : Word) : Prop :=
  text ≠ separatorText ∧ ofText text = .ok word

instance (text : Text) (word : Word) : Decidable (IsReading text word) :=
  inferInstanceAs (Decidable (_ ∧ _))

lemma ofTexts_eq {texts : List Text} {words : List Word}
    (h : List.Forall₂ IsReading texts words) : ofTexts texts = .ok words := by
  induction h with
  | nil => rfl
  | cons first _ ih => simp [ofTexts, first.1, first.2, ih, bind, Except.bind, pure, Except.pure]

lemma isReading_operand {text : Text} (plain : text.head? ≠ some '-') :
    IsReading text (.operand text) := by
  constructor
  · rintro rfl
    exact plain rfl
  · rw [ofText]
    rintro rest rfl
    exact plain rfl

/-- Every flag is known by its full spelling. -/
lemma isReading_spelling :
    ∀ entry ∈ Flag.spellings, IsReading entry.1 (.flag entry.2 entry.1 none) := by
  decide +kernel

/-- No spelling of a flag holds an equals sign. -/
lemma ofSpelling?_eq_none {spelling : Text} (joined : '=' ∈ spelling) :
    Flag.ofSpelling? spelling = none := by
  have noEquals : ∀ entry ∈ Flag.spellings, '=' ∉ entry.1 := by decide +kernel
  rw [Flag.ofSpelling?, List.lookup_eq_none_iff]
  rintro entry mem
  rw [bne_iff_ne]
  rintro rfl
  exact noEquals entry mem joined

lemma isReading_joined (setting : Setting) (value : Text) :
    IsReading (setting.spelling ++ '=' :: value)
      (.flag (.setting setting) setting.spelling (some value)) := by
  have spelled : Flag.ofSpelling? setting.spelling = some (.setting setting) := by
    cases setting <;> decide +kernel
  have cut : Text.cutAt? '=' (setting.spelling ++ '=' :: value)
      = some (setting.spelling, value) :=
    Text.cutAt?_append (by cases setting <;> decide +kernel) value
  have whole : Flag.ofSpelling? (setting.spelling ++ '=' :: value) = none :=
    ofSpelling?_eq_none (by simp)
  have short : ofShort (setting.spelling ++ '=' :: value)
      = .ok (.flag (.setting setting) setting.spelling (some value)) := by
    simp [ofShort, flagWithValue?, cut, spelled]
  obtain ⟨rest, hyphen⟩ : ∃ rest, setting.spelling = '-' :: rest := by
    cases setting <;> exact ⟨_, rfl⟩
  rw [hyphen, List.cons_append] at short whole ⊢
  constructor
  · intro separator
    have joined : '=' ∈ separatorText := by simp [← separator]
    exact absurd joined (by decide)
  · simp [ofText, whole, short]

end Word

namespace Phrase

/-- The words of a phrase, classified. -/
def reading : Phrase → List Word
  | .flag switch spelling _ _ => [.flag (.switch switch) spelling none]
  | .apart setting value _ => [.flag (.setting setting) setting.spelling none, .operand value]
  | .joined setting value => [.flag (.setting setting) setting.spelling (some value)]
  | .directory path _ => [.operand path]

lemma forall₂_isReading_words (phrase : Phrase) :
    List.Forall₂ Word.IsReading phrase.words phrase.reading := by
  cases phrase with
  | flag switch spelling spelled =>
    exact .cons (Word.isReading_spelling _ spelled) .nil
  | apart setting value plain =>
    have spelled : (setting.spelling, .setting setting) ∈ Flag.spellings := by
      cases setting <;> decide +kernel
    exact .cons (Word.isReading_spelling _ spelled) (.cons (Word.isReading_operand plain) .nil)
  | joined setting value => exact .cons (Word.isReading_joined setting value) .nil
  | directory path plain => exact .cons (Word.isReading_operand plain) .nil

lemma ofTexts_words (phrases : List Phrase) :
    Word.ofTexts (phrases.flatMap words) = .ok (phrases.flatMap reading) := by
  apply Word.ofTexts_eq
  induction phrases with
  | nil => exact .nil
  | cons phrase phrases ih => exact List.rel_append phrase.forall₂_isReading_words ih

/-- Phrases hold no separator. -/
lemma separator_not_mem_reading (phrases : List Phrase) :
    .separator ∉ phrases.flatMap reading := by
  rw [List.mem_flatMap]
  rintro ⟨phrase, -, mem⟩
  cases phrase <;> simp [reading] at mem

end Phrase

/-! ### Taking the words -/

namespace Options

/-- Heed a phrase. -/
def heed (options : Options) : Phrase → Options
  | .flag switch _ _ _ => options.turnOn switch
  | .apart setting value _ => options.give (.text value) setting
  | .joined setting value => options.give (joinedValue value) setting
  | .directory path _ => { options with directory := some path }

/-- What some phrases ask for, and then what one more asks for. -/
lemma ofPhrases_concat (phrases : List Phrase) (phrase : Phrase) :
    ofPhrases (phrases ++ [phrase]) = (ofPhrases phrases).heed phrase := by
  cases phrase with
  | flag switch spelling spelled lasting =>
    cases switch with
    | help => exact absurd rfl lasting
    | _ =>
      simp [ofPhrases, heed, turnOn, Phrase.turnsOn, Phrase.lastValue?, Phrase.valueFor?,
        Phrase.directory?]
  | apart setting value plain =>
    cases setting <;>
      simp [ofPhrases, heed, give, Phrase.turnsOn, Phrase.lastValue?, Phrase.valueFor?,
        Phrase.directory?]
  | joined setting value =>
    cases setting <;>
      simp [ofPhrases, heed, give, joinedValue, Phrase.turnsOn, Phrase.lastValue?,
        Phrase.valueFor?, Phrase.directory?]
  | directory path plain =>
    simp [ofPhrases, heed, Phrase.turnsOn, Phrase.lastValue?, Phrase.valueFor?,
      Phrase.directory?]

/-- What has been taken from a command line after one more phrase. -/
def Taking.follow (taking : Taking) (phrase : Phrase) : Taking :=
  { taking with
    options := taking.options.heed phrase
    placed := taking.placed || phrase.directory?.isSome }

/-- A phrase is taken as a whole. The words after it matter only if the directory might be followed
by a separator, and those before it only if they name a directory already. -/
lemma take_reading {taking : Taking} {phrase : Phrase} {words : List Word}
    (free : phrase.directory?.isSome → taking.placed = false) (apart : .separator ∉ words) :
    take taking (phrase.reading ++ words) = take (taking.follow phrase) words := by
  cases phrase with
  | flag switch spelling spelled lasting =>
    simp [Phrase.reading, take, switchesOf, turnOnAll, lasting, Taking.follow, heed,
      Phrase.directory?, Except.mapError, bind, Except.bind]
  | apart setting value plain =>
    simp [Phrase.reading, take, Taking.follow, heed, Phrase.directory?]
  | joined setting value =>
    simp [Phrase.reading, take, Taking.follow, heed, Phrase.directory?]
  | directory path plain =>
    have placed : taking.placed = false := free rfl
    have follow : taking.follow (.directory path plain) = taking.place (some path) := by
      simp [Taking.follow, heed, Phrase.directory?, Taking.place]
    cases words with
    | nil => simp [Phrase.reading, take, placed, follow]
    | cons word words =>
      cases word with
      | separator => exact absurd List.mem_cons_self apart
      | _ => simp [Phrase.reading, take, placed, follow]

/-- Phrases are taken one after the other, as long as the place of the directory is free for the
only one of them that names it. -/
lemma take_readings (phrases : List Phrase) (taking : Taking)
    (single : taking.placed.toNat + (phrases.filterMap Phrase.directory?).length ≤ 1) :
    take taking (phrases.flatMap Phrase.reading) = .ok (phrases.foldl Taking.follow taking) := by
  induction phrases generalizing taking with
  | nil => rfl
  | cons phrase phrases ih =>
    rw [List.flatMap_cons, List.foldl_cons]
    cases named : phrase.directory? with
    | none =>
      rw [List.filterMap_cons_none named] at single
      rw [take_reading (by simp [named]) (Phrase.separator_not_mem_reading _)]
      apply ih
      simpa [Taking.follow, named] using single
    | some path =>
      rw [List.filterMap_cons_some named, List.length_cons] at single
      have free : taking.placed = false := by
        rw [← Bool.toNat_eq_zero]
        omega
      have placed : (taking.follow phrase).placed = true := by simp [Taking.follow, named]
      rw [take_reading (fun _ => free) (Phrase.separator_not_mem_reading _)]
      apply ih
      rw [placed, Bool.toNat_true]
      omega

/-- What has been taken from phrases alone. -/
lemma foldl_follow (phrases : List Phrase) :
    (phrases.foldl Taking.follow {}).options = ofPhrases phrases ∧
      (phrases.foldl Taking.follow {}).extras = [] := by
  induction phrases using List.reverseRecOn with
  | nil => exact ⟨rfl, rfl⟩
  | append_singleton phrases phrase ih =>
    rw [List.foldl_concat, ofPhrases_concat, ← ih.1]
    exact ⟨rfl, ih.2⟩

lemma parse_eq (phrases : List Phrase)
    (single : (phrases.filterMap Phrase.directory?).length ≤ 1) :
    parse (phrases.flatMap Phrase.words) = .ok (ofPhrases phrases) := by
  obtain ⟨options, extras⟩ := foldl_follow phrases
  have taken := take_readings phrases {} (by simpa using single)
  rw [parse, Phrase.ofTexts_words]
  simp only [Except.mapError, bind, Except.bind, taken]
  rw [if_pos extras, options]
  rfl

/-- The order of phrases matters for the last values of the settings only, if no more than one of
them names a directory. -/
lemma ofPhrases_eq_of_perm {phrases others : List Phrase} (reordered : others.Perm phrases)
    (single : (phrases.filterMap Phrase.directory?).length ≤ 1)
    (last : ∀ setting, Phrase.lastValue? setting others = Phrase.lastValue? setting phrases) :
    ofPhrases others = ofPhrases phrases := by
  have directories : others.filterMap Phrase.directory? = phrases.filterMap Phrase.directory? := by
    have perm := reordered.filterMap Phrase.directory?
    cases h : phrases.filterMap Phrase.directory? with
    | nil => exact List.perm_nil.mp (h ▸ perm)
    | cons path rest =>
      rw [h, List.length_cons] at single
      obtain rfl : rest = [] := List.eq_nil_of_length_eq_zero (by omega)
      exact List.perm_singleton.mp (h ▸ perm)
  simp only [ofPhrases, directories, last, reordered.any_eq]

/-- A command line of phrases is read, in whatever order they stand: a switch is on if one of its
flags occurs, a setting has its last value, and the directory is the one that is named, if one is.
The mode is that of an outline with files if its flag occurs, else that of one without if that
flag occurs, else that of a dump. Another order that leaves the last values as they are means the
same. -/
theorem parse_words (phrases : List Phrase)
    (single : (phrases.filterMap Phrase.directory?).length ≤ 1) :
    parse (phrases.flatMap Phrase.words) = .ok (ofPhrases phrases) ∧
      (ofPhrases phrases).mode
        = (if phrases.any (·.turnsOn .outline) then .structureWithFiles
          else if phrases.any (·.turnsOn .directories) then .structureDirectoriesOnly
          else .fullDump) ∧
      ∀ others : List Phrase, others.Perm phrases →
        (∀ setting, Phrase.lastValue? setting others = Phrase.lastValue? setting phrases) →
        parse (others.flatMap Phrase.words) = parse (phrases.flatMap Phrase.words) := by
  refine ⟨parse_eq phrases single, rfl, ?_⟩
  intro others reordered last
  have single' : (others.filterMap Phrase.directory?).length ≤ 1 := by
    rwa [(reordered.filterMap _).length_eq]
  rw [parse_eq others single', parse_eq phrases single,
    ofPhrases_eq_of_perm reordered single last]

/-- Flags in both spellings, values that are empty, that hold an equals sign and that look like a
flag, and the directory between a value and a flag. -/
def samplePhrases : List Phrase :=
  [.flag .console "-c".toList (by decide) (by decide), .joined .logFile "--cl".toList,
    .apart .config "a=b".toList (by decide), .directory "src".toList (by decide),
    .flag .directories "--directories".toList (by decide) (by decide),
    .joined .logFile "--".toList, .joined .config [],
    .flag .outline "-s".toList (by decide) (by decide),
    .flag .console "--console".toList (by decide) (by decide)]

theorem parse_words_samplePhrases :
    (samplePhrases.filterMap Phrase.directory?).length ≤ 1 ∧
      samplePhrases.flatMap Phrase.words
        = ["-c", "--log-file=--cl", "--config", "a=b", "src", "--directories", "--log-file=--",
            "--config=", "-s", "--console"].map String.toList ∧
      parse (samplePhrases.flatMap Phrase.words)
        = .ok { directory := some "src".toList, console := true, outline := true,
                directories := true, config := some (.text []), logFile := .nothing } := by
  have single : (samplePhrases.filterMap Phrase.directory?).length ≤ 1 := by decide
  have meant : ofPhrases samplePhrases
      = { directory := some "src".toList, console := true, outline := true,
          directories := true, config := some (.text []), logFile := .nothing } := by
    decide +kernel
  exact ⟨single, by decide +kernel, meant ▸ (parse_words samplePhrases single).1⟩

/-- A separator that is joined to its flag is no value of the setting. -/
theorem parse_joined_separator :
    Phrase.words (.joined .config "--".toList) = ["--config=--".toList] ∧
      ∃ options, parse ["--config=--".toList] = .ok options ∧
        options.config = some .nothing ∧ options.config ≠ some (.text "--".toList) := by
  refine ⟨by decide +kernel, { config := some .nothing }, by decide +kernel, rfl, ?_⟩
  rintro ⟨⟩

end Options

end TreeDump
