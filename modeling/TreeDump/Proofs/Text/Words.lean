import Mathlib.Tactic.Common
import TreeDump.Proofs.Text.Lines
import TreeDump.Proofs.Text.Squeezed

/-!
# Words

The words of a text are its longest runs of characters that can be seen. Collapsing the blanks of a
text keeps its words, one space apart, and nothing else. So it does not matter which blanks stand
between the words, and where there is a blank, the text can be cut and the parts be collapsed each
for itself.
-/

namespace TreeDump.Text

/-- The words of a text: what stands between its blanks, where that is not empty. -/
def words (t : Text) : List Text :=
  (t.splitOnP isBlank).filter (· ≠ [])

/-- `HasWords t words` says that `t` consists of these words from left to right, with blanks before,
between and behind them. Each word goes up to the next blank or to the end of the text. -/
inductive HasWords : Text → List Text → Prop
  | none {blanks : Text} (blank : ∀ c ∈ blanks, isBlank c = true) : HasWords blanks []
  | word {blanks word rest : Text} {words : List Text} (blank : ∀ c ∈ blanks, isBlank c = true)
      (nonempty : word ≠ []) (visible : ∀ c ∈ word, isBlank c = false)
      (ends : ∀ c ∈ rest.head?, isBlank c = true) (more : HasWords rest words) :
      HasWords (blanks ++ word ++ rest) (word :: words)

variable {t blanks : Text} {ws : List Text} {c : Char}

/-! ### Cutting at blanks -/

lemma words_append_blank (blank : isBlank c = true) (s t : Text) :
    words (s ++ c :: t) = words s ++ words t := by
  rw [words, List.splitOnP_append_cons s t blank, List.filter_append]
  rfl

lemma words_cons_blank (blank : isBlank c = true) (t : Text) : words (c :: t) = words t :=
  words_append_blank blank [] t

lemma words_blanks_append (blank : ∀ c ∈ blanks, isBlank c = true) (t : Text) :
    words (blanks ++ t) = words t := by
  induction blanks with
  | nil => rfl
  | cons c blanks ih =>
    obtain ⟨first, blank⟩ := List.forall_mem_cons.mp blank
    rw [List.cons_append, words_cons_blank first, ih blank]

lemma words_of_visible {word : Text} (nonempty : word ≠ [])
    (visible : ∀ c ∈ word, isBlank c = false) : words word = [word] := by
  rw [words, List.splitOnP_eq_singleton visible]
  simp [nonempty]

/-- Two texts with blanks between them have the words of the first and then those of the second. -/
lemma words_append_blanks_append {w : Text} (nonempty : w ≠ [])
    (blank : ∀ c ∈ w, isBlank c = true) (s t : Text) :
    words (s ++ w ++ t) = words s ++ words t := by
  obtain ⟨c, w, rfl⟩ := List.exists_cons_of_ne_nil nonempty
  obtain ⟨first, blank⟩ := List.forall_mem_cons.mp blank
  rw [List.append_assoc, List.cons_append, words_append_blank first, words_blanks_append blank]

/-! ### The words are the longest runs -/

lemma HasWords.eq_words (h : HasWords t ws) : ws = words t := by
  induction h with
  | @none blanks blank =>
    have nothing := words_blanks_append blank []
    rw [List.append_nil] at nothing
    rw [nothing]
    rfl
  | @word blanks word rest ws blank nonempty visible ends _ ih =>
    rw [List.append_assoc, words_blanks_append blank, ih]
    cases rest with
    | nil => rw [List.append_nil, words_of_visible nonempty visible]; rfl
    | cons c rest =>
      have first : isBlank c = true := ends c rfl
      rw [words_append_blank first, words_of_visible nonempty visible, words_cons_blank first]
      rfl

lemma HasWords.cons_blank (blank : isBlank c = true) (h : HasWords t ws) :
    HasWords (c :: t) ws := by
  cases h with
  | none others => exact .none (List.forall_mem_cons.mpr ⟨blank, others⟩)
  | word others nonempty visible ends more =>
    exact .word (List.forall_mem_cons.mpr ⟨blank, others⟩) nonempty visible ends more

/-- A visible character before a blank or the end of the text is a word. -/
lemma HasWords.cons_visible (visible : isBlank c = false) (ends : ∀ d ∈ t.head?, isBlank d = true)
    (h : HasWords t ws) : HasWords (c :: t) ([c] :: ws) := by
  have alone : ∀ d ∈ [c], isBlank d = false := by simpa using visible
  exact .word (List.forall_mem_nil _) (by simp) alone ends h

/-- A visible character begins a word or is put before the first one. -/
lemma HasWords.exists_cons_visible (visible : isBlank c = false) (h : HasWords t ws) :
    ∃ ws', HasWords (c :: t) ws' := by
  cases h with
  | none blank =>
    exact ⟨_, (HasWords.none blank).cons_visible visible fun d first =>
      blank d (List.mem_of_head? first)⟩
  | @word blanks word rest ws blank nonempty others ends more =>
    cases blanks with
    | nil =>
      have longer : ∀ d ∈ c :: word, isBlank d = false := List.forall_mem_cons.mpr ⟨visible, others⟩
      exact ⟨_, .word blank (by simp) longer ends more⟩
    | cons d blanks =>
      refine ⟨_, (HasWords.word blank nonempty others ends more).cons_visible visible ?_⟩
      simpa using blank d List.mem_cons_self

lemma hasWords_iff : HasWords t ws ↔ ws = words t := by
  have exist : ∃ ws, HasWords t ws := by
    induction t with
    | nil => exact ⟨[], .none (by simp)⟩
    | cons c t ih =>
      obtain ⟨ws, h⟩ := ih
      cases blank : isBlank c with
      | true => exact ⟨ws, h.cons_blank blank⟩
      | false => exact h.exists_cons_visible blank
  constructor
  · exact HasWords.eq_words
  · rintro rfl
    obtain ⟨ws, h⟩ := exist
    rwa [← h.eq_words]

/-! ### Collapsing -/

lemma squeezeFrom_true_of_blank (blank : ∀ c ∈ blanks, isBlank c = true) (t : Text) :
    squeezeFrom true (blanks ++ t) = squeezeFrom true t := by
  induction blanks with
  | nil => rfl
  | cons c blanks ih =>
    obtain ⟨first, blank⟩ := List.forall_mem_cons.mp blank
    rw [List.cons_append, squeezeFrom_blank first, if_pos rfl, ih blank]

lemma squeezeFrom_word {word : Text} (nonempty : word ≠ [])
    (visible : ∀ c ∈ word, isBlank c = false) (inRun : Bool) (t : Text) :
    squeezeFrom inRun (word ++ t) = word ++ squeezeFrom false t := by
  induction word generalizing inRun with
  | nil => exact absurd rfl nonempty
  | cons c word ih =>
    obtain ⟨first, visible⟩ := List.forall_mem_cons.mp visible
    rw [List.cons_append, squeezeFrom_visible first, List.cons_append]
    cases word with
    | nil => rfl
    | cons d word => rw [ih (by simp) visible]

lemma trimEnd_append (nonempty : trimEnd t ≠ []) (s : Text) :
    trimEnd (s ++ t) = s ++ trimEnd t := by
  obtain ⟨blanks, whole, blank⟩ := exists_eq_trimEnd_append t
  calc trimEnd (s ++ t)
      = trimEnd (s ++ trimEnd t ++ blanks) := by rw [List.append_assoc, ← whole]
    _ = trimEnd (s ++ trimEnd t) := trimEnd_append_of_blank blank _
    _ = s ++ trimEnd t := ((endsVisibly_trimEnd nonempty).append s).trimEnd_eq

lemma endsVisibly_of_visible {word : Text} (nonempty : word ≠ [])
    (visible : ∀ c ∈ word, isBlank c = false) : EndsVisibly word := by
  obtain rfl | ⟨s, c, rfl⟩ := List.eq_nil_or_concat' word
  · exact absurd rfl nonempty
  · exact ⟨s, c, rfl, visible c (by simp)⟩

lemma HasWords.ne_nil (h : HasWords t ws) : ∀ w ∈ ws, w ≠ [] := by
  induction h with
  | none => simp
  | word _ nonempty _ _ _ ih => exact List.forall_mem_cons.mpr ⟨nonempty, ih⟩

lemma HasWords.collapseBlanks_eq (h : HasWords t ws) :
    collapseBlanks t = [' '].intercalate ws := by
  rw [Text.collapseBlanks_eq]
  induction h with
  | @none blanks blank =>
    have nothing := squeezeFrom_true_of_blank blank []
    rw [List.append_nil] at nothing
    rw [nothing]
    rfl
  | @word blanks word rest ws blank nonempty visible ends more ih =>
    rw [List.append_assoc, squeezeFrom_true_of_blank blank, squeezeFrom_word nonempty visible]
    have alone : trimEnd word = word := (endsVisibly_of_visible nonempty visible).trimEnd_eq
    cases rest with
    | nil =>
      obtain rfl : ws = [] := more.eq_words
      simpa [squeezeFrom] using alone
    | cons c rest =>
      have first : isBlank c = true := ends c rfl
      rw [squeezeFrom_blank first, if_pos rfl] at ih
      rw [squeezeFrom_blank first, if_neg Bool.false_ne_true]
      cases ws with
      | nil =>
        -- only blanks are left, and they are trimmed
        obtain ⟨blanks, whole, blank⟩ := exists_eq_trimEnd_append (squeezeFrom true rest)
        rw [ih] at whole
        rw [trimEnd_append_of_blank, alone, List.intercalate_singleton]
        rw [whole]
        exact List.forall_mem_cons.mpr ⟨isBlank_space, blank⟩
      | cons w ws =>
        have left : trimEnd (squeezeFrom true rest) ≠ [] := by
          rw [ih]
          exact intercalate_ne_nil (by simp) more.ne_nil
        have cut := trimEnd_append left (word ++ [' '])
        rw [List.append_assoc, List.singleton_append, ih] at cut
        rw [cut, List.intercalate_cons_cons]

lemma collapseBlanks_eq_intercalate (t : Text) :
    collapseBlanks t = [' '].intercalate (words t) :=
  (hasWords_iff.mpr rfl).collapseBlanks_eq

lemma collapseBlanks_eq_nil_iff : collapseBlanks t = [] ↔ words t = [] := by
  rw [collapseBlanks_eq_intercalate]
  constructor
  · intro h
    by_contra nonempty
    exact intercalate_ne_nil nonempty (hasWords_iff.mpr rfl).ne_nil h
  · intro h
    rw [h]
    rfl

/-- Two texts with blanks between them are collapsed each for itself. -/
lemma collapseBlanks_append_blanks_append {w : Text} (nonempty : w ≠ [])
    (blank : ∀ c ∈ w, isBlank c = true) (s t : Text) :
    collapseBlanks (s ++ w ++ t)
      = [' '].intercalate ([collapseBlanks s, collapseBlanks t].filter (· ≠ [])) := by
  have filled : ∀ {t : Text}, words t ≠ [] → collapseBlanks t ≠ [] :=
    mt collapseBlanks_eq_nil_iff.mp
  rw [collapseBlanks_eq_intercalate (s ++ w ++ t), words_append_blanks_append nonempty blank]
  by_cases first : words s = []
  · rw [first, List.nil_append, ← collapseBlanks_eq_intercalate,
      collapseBlanks_eq_nil_iff.mpr first]
    by_cases second : words t = []
    · simp [collapseBlanks_eq_nil_iff.mpr second]
    · simp [filled second]
  · by_cases second : words t = []
    · rw [second, List.append_nil, ← collapseBlanks_eq_intercalate,
        collapseBlanks_eq_nil_iff.mpr second]
      simp [filled first]
    · rw [intercalate_append first second, ← collapseBlanks_eq_intercalate,
        ← collapseBlanks_eq_intercalate]
      simp [filled first, filled second, List.intercalate_cons_cons]

/-! ### Blanks in place of blanks -/

/-- Write one character in place of another. -/
def replace (old new : Char) (t : Text) : Text :=
  t.map fun c => if c = old then new else c

lemma squeezeFrom_replace {old new : Char} (blank : isBlank old = true)
    (blank' : isBlank new = true) (inRun : Bool) (t : Text) :
    squeezeFrom inRun (replace old new t) = squeezeFrom inRun t := by
  induction t generalizing inRun with
  | nil => rfl
  | cons c t ih =>
    rw [replace, List.map_cons, ← replace]
    split_ifs with here
    · rw [squeezeFrom_blank blank', here, squeezeFrom_blank blank, ih]
    · cases visible : isBlank c with
      | true => rw [squeezeFrom_blank visible, squeezeFrom_blank visible, ih]
      | false => rw [squeezeFrom_visible visible, squeezeFrom_visible visible, ih]

lemma collapseBlanks_replace {old new : Char} (blank : isBlank old = true)
    (blank' : isBlank new = true) (t : Text) :
    collapseBlanks (replace old new t) = collapseBlanks t := by
  rw [collapseBlanks, squeezeFrom_replace blank blank', ← collapseBlanks]

/-- Collapsing the blanks of a text leaves its words, which are its longest runs of visible
characters, with a space between any two. It may start from the text in which tabs and line ends
have been replaced by spaces. What comes of two texts with blanks between them is what comes of each
of them, with a space between if neither is empty. -/
theorem collapseBlanks_keeps_words :
    (∀ t : Text, (∀ ws, HasWords t ws ↔ ws = words t) ∧
      collapseBlanks t = [' '].intercalate (words t) ∧
      collapseBlanks (replace '\n' ' ' (replace '\r' ' ' (replace '\t' ' ' t)))
        = collapseBlanks t) ∧
    ∀ s w t : Text, w ≠ [] → (∀ c ∈ w, isBlank c = true) →
      collapseBlanks (s ++ w ++ t)
        = [' '].intercalate ([collapseBlanks s, collapseBlanks t].filter (· ≠ [])) := by
  constructor
  · intro t
    refine ⟨fun _ => hasWords_iff, collapseBlanks_eq_intercalate t, ?_⟩
    rw [collapseBlanks_replace (by decide) (by decide),
      collapseBlanks_replace (by decide) (by decide),
      collapseBlanks_replace (by decide) (by decide)]
  · intro s w t nonempty blank
    exact collapseBlanks_append_blanks_append nonempty blank s t

/-- Blanks of many kinds at both ends and between the words, the separators of information among
them. -/
theorem collapseBlanks_keeps_words_sampleBlanks :
    let s := "\t\r\n a\u00a0\u001f'b ".toList
    let w := "\u3000\u001c\u0085".toList
    w ≠ [] ∧ (∀ c ∈ w, isBlank c = true) ∧
      HasWords s ["a".toList, "'b".toList] ∧ collapseBlanks s = "a 'b".toList ∧
      collapseBlanks (s ++ w ++ "c\u2028".toList) = "a 'b c".toList := by
  intro s w
  obtain ⟨single, cut⟩ := collapseBlanks_keeps_words
  have nonempty : w ≠ [] := by decide
  have blank : ∀ c ∈ w, isBlank c = true := List.all_eq_true.mp (by decide +kernel)
  have parts : ["a".toList, "'b".toList] = words s := by decide +kernel
  have joined := cut s w "c\u2028".toList nonempty blank
  refine ⟨nonempty, blank, ((single s).1 _).mpr parts, ?_, joined.trans (by decide +kernel)⟩
  rw [(single s).2.1, ← parts]
  decide +kernel

end TreeDump.Text
