import Mathlib.Data.List.Basic
import Mathlib.Tactic.Common
import TreeDump.Proofs.Encoding.Sequences
import TreeDump.Proofs.Text.Blank
import TreeDump.Text.LowerCase

/-!
# Texts in small letters

No small letter is a capital of the table, so that a text in small letters, and every part of it,
stays as it is when it is put in small letters again. Blanks and points are no letters: they stay,
and nothing else becomes one.
-/

namespace TreeDump

/-! ### The table of capitals -/

namespace CapitalRun

/-- The small letter of the first capital of a run. -/
def smallFirst (run : CapitalRun) : Nat :=
  (run.first + run.shift).toNat

/-- The small letter of the last capital of a run. -/
def smallLast (run : CapitalRun) : Nat :=
  (run.last + run.shift).toNat

/-- Are the small letters of a run no capitals of another? Where the two overlap, capitals and small
letters take turns. -/
def Misses (run other : CapitalRun) : Prop :=
  run.smallLast < other.first ∨ other.last < run.smallFirst ∨
    other.step = 2 ∧ (run.step = 2 ∨ run.first = run.last) ∧ (run.smallFirst + other.first) % 2 = 1

instance (run other : CapitalRun) : Decidable (run.Misses other) :=
  inferInstanceAs (Decidable (_ ∨ _ ∨ _ ∧ _ ∧ _))

lemma covers_iff {run : CapitalRun} {n : Nat} :
    run.covers n = true ↔ run.first ≤ n ∧ n ≤ run.last ∧ (n - run.first) % run.step = 0 := by
  simp [covers, and_assoc]

end CapitalRun

/-- Ranges without a letter, in which all blanks are, and the point. -/
def letterlessRanges : List (Nat × Nat) :=
  [(0x00, 0x40), (0x85, 0xa0), (0x1680, 0x1680), (0x2000, 0x205f), (0x3000, 0x3000)]

/-- The capitals lie beyond ASCII, and their small letters where the shift leads, at characters and
not at the dotted capital I. -/
lemma places_capitalRuns : ∀ run ∈ capitalRuns,
    0x80 ≤ run.first ∧ 0x61 ≤ run.smallFirst ∧ (run.smallFirst : Int) = run.first + run.shift ∧
      (run.smallLast < 0xd800 ∨ 0xdfff < run.smallFirst ∧ run.smallLast < 0x110000) ∧
      (run.smallLast < 0x130 ∨ 0x130 < run.smallFirst) := by
  decide +kernel

lemma letters_capitalRuns : ∀ run ∈ capitalRuns, ∀ range ∈ letterlessRanges,
    (run.last < range.1 ∨ range.2 < run.first) ∧
      (run.smallLast < range.1 ∨ range.2 < run.smallFirst) := by
  decide +kernel

/-- The table in zones of twelve runs, most of which a run misses as a whole. -/
def capitalZones : List (List CapitalRun) :=
  go 15 capitalRuns
where
  go : Nat → List CapitalRun → List (List CapitalRun)
    | 0, _ => []
    | count + 1, runs => runs.take 12 :: go count (runs.drop 12)

/-- The first capital of a zone. -/
def zoneFirst (zone : List CapitalRun) : Nat :=
  (zone.head?.map CapitalRun.first).getD 0

/-- The last capital of a zone. -/
def zoneLast (zone : List CapitalRun) : Nat :=
  (zone.getLast?.map CapitalRun.last).getD 0

lemma bounds_capitalZones : ∀ zone ∈ capitalZones, ∀ run ∈ zone,
    zoneFirst zone ≤ run.first ∧ run.last ≤ zoneLast zone := by
  decide +kernel

lemma misses_capitalZones : ∀ run ∈ capitalRuns, ∀ zone ∈ capitalZones,
    run.smallLast < zoneFirst zone ∨ zoneLast zone < run.smallFirst ∨
      ∀ other ∈ zone, run.Misses other := by
  decide +kernel

lemma misses_capitalRuns {run other : CapitalRun} (mem : run ∈ capitalRuns)
    (other_mem : other ∈ capitalRuns) : run.Misses other := by
  have zones : capitalZones.flatten = capitalRuns := rfl
  rw [← zones] at other_mem
  obtain ⟨zone, inTable, inZone⟩ := List.mem_flatten.mp other_mem
  obtain ⟨first, last⟩ := bounds_capitalZones zone inTable other inZone
  rcases misses_capitalZones run mem zone inTable with before | after | misses
  · exact .inl (Nat.lt_of_lt_of_le before first)
  · exact .inr (.inl (Nat.lt_of_le_of_lt last after))
  · exact misses other inZone

/-- The small letter of a capital is no capital. -/
lemma CapitalRun.Misses.not_covers {run other : CapitalRun} {n : Nat} (misses : run.Misses other)
    (covers : run.covers n = true) (place : (run.smallFirst : Int) = run.first + run.shift) :
    other.covers (n + run.shift).toNat = false := by
  rw [Bool.eq_false_iff]
  intro covered
  obtain ⟨first, last, turn⟩ := covers_iff.mp covers
  obtain ⟨first', last', turn'⟩ := covers_iff.mp covered
  rw [Misses, smallLast] at misses
  rcases misses with before | after | ⟨step', step | single, odd⟩
  · omega
  · omega
  · rw [step] at turn
    rw [step'] at turn'
    omega
  · rw [step'] at turn'
    omega

/-! ### Small letters -/

/-- What stands for a character in small letters: in ASCII, beyond it, and at a capital of the
table. -/
inductive Lowers (c : Char) : Char → Prop
  | ascii (h : c.toNat < 0x80) : Lowers c c.toLower
  | other (h : 0x80 ≤ c.toNat) (uncovered : ∀ run ∈ capitalRuns, run.covers c.toNat = false) :
      Lowers c c
  | capital {run : CapitalRun} {d : Char} (mem : run ∈ capitalRuns)
      (covers : run.covers c.toNat = true) (shifted : d.toNat = (c.toNat + run.shift).toNat)
      (bounds : run.smallFirst ≤ d.toNat ∧ d.toNat ≤ run.smallLast) : Lowers c d

lemma smallLetter_of_ascii {c : Char} (h : c.toNat < 0x80) : smallLetter c = c.toLower :=
  if_pos h

lemma smallLetter_of_uncovered {c : Char} (h : 0x80 ≤ c.toNat)
    (uncovered : ∀ run ∈ capitalRuns, run.covers c.toNat = false) : smallLetter c = c := by
  have none : capitalRuns.find? (·.covers c.toNat) = none :=
    List.find?_eq_none.mpr fun run mem => by simp [uncovered run mem]
  rw [smallLetter, if_neg (Nat.not_lt.mpr h), none]

lemma lowers_smallLetter (c : Char) : Lowers c (smallLetter c) := by
  by_cases ascii : c.toNat < 0x80
  · rw [smallLetter_of_ascii ascii]
    exact .ascii ascii
  rw [Nat.not_lt] at ascii
  cases found : capitalRuns.find? (·.covers c.toNat) with
  | none =>
    have uncovered : ∀ run ∈ capitalRuns, run.covers c.toNat = false :=
      fun run mem => Bool.eq_false_iff.mpr (List.find?_eq_none.mp found run mem)
    rw [smallLetter_of_uncovered ascii uncovered]
    exact .other ascii uncovered
  | some run =>
    have mem := List.mem_of_find?_eq_some found
    have covers := List.find?_some found
    obtain ⟨first, last, -⟩ := CapitalRun.covers_iff.mp covers
    obtain ⟨-, -, place, valid, -⟩ := places_capitalRuns run mem
    rw [CapitalRun.smallLast] at valid
    have isChar : (c.toNat + run.shift).toNat.isValidChar := by
      rw [Nat.isValidChar]
      omega
    have shifted := toNat_ofNat_of_isValidChar isChar
    rw [smallLetter, if_neg (Nat.not_lt.mpr ascii), found]
    refine .capital mem covers shifted ?_
    rw [shifted, CapitalRun.smallLast]
    omega

/-- What holds of all code points of ASCII holds of the characters in it. -/
lemma forall_ascii (p : Char → Prop) (h : ∀ n : Fin 0x80, p (Char.ofNat n)) {c : Char}
    (ascii : c.toNat < 0x80) : p c := by
  rw [← Char.ofNat_toNat c]
  exact h ⟨c.toNat, ascii⟩

/-- Is the character one that stands in small letters as it is? -/
structure IsSmall (c : Char) : Prop where
  smallLetter_eq : smallLetter c = c
  notSigma : c ≠ 'Σ'
  notDotted : c ≠ 'İ'

/-- Small letters are small, but for the two capitals with a form of their own. -/
theorem isSmall_smallLetter {c : Char} (notSigma : c ≠ 'Σ') (notDotted : c ≠ 'İ') :
    IsSmall (smallLetter c) := by
  have lowers := lowers_smallLetter c
  generalize smallLetter c = d at lowers
  cases lowers with
  | ascii h =>
    obtain ⟨small, same, notSigma, notDotted⟩ := forall_ascii
      (fun c => c.toLower.toNat < 0x80 ∧ c.toLower.toLower = c.toLower ∧ c.toLower ≠ 'Σ' ∧
        c.toLower ≠ 'İ') (by decide) h
    exact ⟨(smallLetter_of_ascii small).trans same, notSigma, notDotted⟩
  | other h uncovered => exact ⟨smallLetter_of_uncovered h uncovered, notSigma, notDotted⟩
  | @capital run d mem covers shifted bounds =>
    obtain ⟨-, letter, place, -, dotted⟩ := places_capitalRuns run mem
    have uncovered : ∀ other ∈ capitalRuns, other.covers d.toNat = false := by
      intro other other_mem
      rw [shifted]
      exact (misses_capitalRuns mem other_mem).not_covers covers place
    refine ⟨?_, ?_, ?_⟩
    · by_cases ascii : d.toNat < 0x80
      · have same := forall_ascii (fun d => 0x61 ≤ d.toNat → d.toLower = d) (by decide) ascii
        rw [smallLetter_of_ascii ascii, same (Nat.le_trans letter bounds.1)]
      · exact smallLetter_of_uncovered (Nat.not_lt.mp ascii) uncovered
    · rintro rfl
      have sigma : capitalRuns.any (·.covers ('Σ' : Char).toNat) = true := by decide +kernel
      obtain ⟨other, other_mem, covered⟩ := List.any_eq_true.mp sigma
      rw [uncovered other other_mem] at covered
      cases covered
    · rintro rfl
      have : ('İ' : Char).toNat = 0x130 := rfl
      omega

/-! ### No letters -/

/-- Is the character in a range without a letter? -/
def isLetterless (c : Char) : Bool :=
  inRanges letterlessRanges c.toNat

lemma isLetterless_of_isBlank {c : Char} (h : isBlank c = true) : isLetterless c = true := by
  simp only [isBlank, Bool.or_eq_true, Bool.and_eq_true, decide_eq_true_eq, beq_iff_eq] at h
  simp only [isLetterless, inRanges, letterlessRanges, List.any_cons, List.any_nil, Bool.or_eq_true,
    Bool.and_eq_true, decide_eq_true_eq]
  omega

lemma exists_range_of_isLetterless {c : Char} (h : isLetterless c = true) :
    ∃ range ∈ letterlessRanges, range.1 ≤ c.toNat ∧ c.toNat ≤ range.2 := by
  obtain ⟨range, mem, inside⟩ := List.any_eq_true.mp h
  exact ⟨range, mem, by simpa using inside⟩

/-- A character without a letter stays, and no other becomes one. -/
lemma smallLetter_eq_of_letterless {c : Char}
    (h : isLetterless c = true ∨ isLetterless (smallLetter c) = true) : smallLetter c = c := by
  have lowers := lowers_smallLetter c
  generalize smallLetter c = d at lowers h
  cases lowers with
  | ascii ascii =>
    exact forall_ascii (fun c => isLetterless c = true ∨ isLetterless c.toLower = true →
      c.toLower = c) (by decide) ascii h
  | other => rfl
  | @capital run d mem covers shifted bounds =>
    obtain ⟨first, last, -⟩ := CapitalRun.covers_iff.mp covers
    rcases h with h | h
    all_goals
      obtain ⟨range, inRanges, inside⟩ := exists_range_of_isLetterless h
      have apart := letters_capitalRuns run mem range inRanges
      omega

/-! ### The form of a character in its place -/

variable {before after : Text} {c d : Char}

lemma smallForm_cases (before : Text) (c : Char) (after : Text) :
    (c = 'Σ' ∧ (smallForm before c after = ['ς'] ∨ smallForm before c after = ['σ'])) ∨
      (c = 'İ' ∧ smallForm before c after = ['i', '\u0307']) ∨
      (c ≠ 'Σ' ∧ c ≠ 'İ' ∧ smallForm before c after = [smallLetter c]) := by
  rw [smallForm]
  split
  next sigma =>
    refine .inl ⟨sigma, ?_⟩
    split
    · exact .inl rfl
    · exact .inr rfl
  next notSigma =>
    split
    next dotted => exact .inr (.inl ⟨dotted, rfl⟩)
    next notDotted => exact .inr (.inr ⟨notSigma, notDotted, rfl⟩)

lemma smallForm_ne_nil (before : Text) (c : Char) (after : Text) : smallForm before c after ≠ [] := by
  rcases smallForm_cases before c after with ⟨-, h | h⟩ | ⟨-, h⟩ | ⟨-, -, h⟩ <;> simp [h]

lemma isSmall_of_mem_smallForm (h : d ∈ smallForm before c after) : IsSmall d := by
  have finalSigma : IsSmall 'ς' := ⟨by decide +kernel, by decide, by decide⟩
  have smallSigma : IsSmall 'σ' := ⟨by decide +kernel, by decide, by decide⟩
  have smallI : IsSmall 'i' := ⟨by decide, by decide, by decide⟩
  have dot : IsSmall '\u0307' := ⟨by decide +kernel, by decide, by decide⟩
  rcases smallForm_cases before c after with ⟨-, form | form⟩ | ⟨-, form⟩ | ⟨ns, nd, form⟩
  all_goals
    rw [form] at h
    simp only [List.mem_cons, List.not_mem_nil, or_false] at h
  · exact h ▸ finalSigma
  · exact h ▸ smallSigma
  · rcases h with rfl | rfl
    · exact smallI
    · exact dot
  · exact h ▸ isSmall_smallLetter ns nd

lemma IsSmall.smallForm_eq (h : IsSmall c) (before after : Text) :
    smallForm before c after = [c] := by
  rw [smallForm, if_neg h.notSigma, if_neg h.notDotted, h.smallLetter_eq]

/-- A property of characters without a letter holds of each part of a form as of the character. -/
lemma apply_of_mem_smallForm {p : Char → Bool} (letterless : ∀ c, p c = true → isLetterless c = true)
    (h : d ∈ smallForm before c after) : p d = p c := by
  have stays : isLetterless c = true ∨ isLetterless d = true → d = c := by
    intro eitherOne
    rcases smallForm_cases before c after with ⟨rfl, form⟩ | ⟨rfl, form⟩ | ⟨-, -, form⟩
    · rcases form with form | form
      all_goals
        rw [form, List.mem_singleton] at h
        subst h
        revert eitherOne
        decide
    · rw [form] at h
      simp only [List.mem_cons, List.not_mem_nil, or_false] at h
      rcases h with rfl | rfl
      all_goals
        revert eitherOne
        decide
    · rw [form, List.mem_singleton] at h
      rw [h] at eitherOne ⊢
      exact smallLetter_eq_of_letterless eitherOne
  by_cases here : p c = true
  · rw [stays (.inl (letterless c here))]
  · by_cases there : p d = true
    · rw [stays (.inr (letterless d there))]
    · rw [Bool.not_eq_true] at here there
      rw [here, there]

/-! ### Texts -/

namespace Text

variable {t : Text}

lemma isSmall_of_mem_lowerFrom (h : d ∈ lowerFrom before t) : IsSmall d := by
  induction t generalizing before with
  | nil => cases h
  | cons c t ih =>
    rcases List.mem_append.mp h with h | h
    · exact isSmall_of_mem_smallForm h
    · exact ih h

/-- A text in small letters has small characters. -/
lemma isSmall_of_mem_lower (h : d ∈ lower t) : IsSmall d :=
  isSmall_of_mem_lowerFrom h

lemma lowerFrom_eq_self (small : ∀ c ∈ t, IsSmall c) (before : Text) : lowerFrom before t = t := by
  induction t generalizing before with
  | nil => rfl
  | cons c t ih =>
    obtain ⟨here, others⟩ := List.forall_mem_cons.mp small
    rw [lowerFrom, here.smallForm_eq, ih others]
    rfl

/-- Small characters stay. -/
lemma lower_eq_self (small : ∀ c ∈ t, IsSmall c) : lower t = t :=
  lowerFrom_eq_self small []

lemma lowerFrom_concat (before t : Text) (c : Char) :
    ∃ s others, lowerFrom before (t ++ [c]) = s ++ smallForm others c [] := by
  induction t generalizing before with
  | nil => exact ⟨[], before, by simp [lowerFrom]⟩
  | cons d t ih =>
    obtain ⟨s, others, h⟩ := ih (d :: before)
    refine ⟨smallForm before d (t ++ [c]) ++ s, others, ?_⟩
    rw [List.cons_append, lowerFrom, h, List.append_assoc]

/-- A text in small letters starts as the text does, as far as characters without a letter go. -/
lemma exists_lower_cons (c : Char) (t : Text) :
    ∃ d s, lower (c :: t) = d :: s ∧
      ∀ p : Char → Bool, (∀ c, p c = true → isLetterless c = true) → p d = p c := by
  obtain ⟨d, s, form⟩ := List.exists_cons_of_ne_nil (smallForm_ne_nil [] c t)
  have mem : d ∈ smallForm [] c t := by
    rw [form]
    exact List.mem_cons_self
  refine ⟨d, s ++ lowerFrom [c] t, ?_, fun p letterless => apply_of_mem_smallForm letterless mem⟩
  rw [lower, lowerFrom, form]
  rfl

/-- A text in small letters ends as the text does, as far as characters without a letter go. -/
lemma exists_lower_concat (t : Text) (c : Char) :
    ∃ s d, lower (t ++ [c]) = s ++ [d] ∧
      ∀ p : Char → Bool, (∀ c, p c = true → isLetterless c = true) → p d = p c := by
  obtain ⟨s, others, h⟩ := lowerFrom_concat [] t c
  obtain none | ⟨form, d, concat⟩ := List.eq_nil_or_concat' (smallForm others c [])
  · exact absurd none (smallForm_ne_nil others c [])
  have mem : d ∈ smallForm others c [] := by
    rw [concat]
    simp
  refine ⟨s ++ form, d, ?_, fun p letterless => apply_of_mem_smallForm letterless mem⟩
  rw [lower, h, concat, List.append_assoc]

lemma startsVisibly_lower : (lower t).StartsVisibly ↔ t.StartsVisibly := by
  cases t with
  | nil => exact Iff.rfl
  | cons c t =>
    obtain ⟨d, s, h, same⟩ := exists_lower_cons c t
    rw [h, startsVisibly_iff, startsVisibly_iff, List.head?_cons, List.head?_cons, Option.any_some,
      Option.any_some, same isBlank fun _ => isLetterless_of_isBlank]

lemma EndsVisibly.lower (h : t.EndsVisibly) : t.lower.EndsVisibly := by
  obtain ⟨s, c, rfl, visible⟩ := h
  obtain ⟨r, d, h, same⟩ := exists_lower_concat s c
  exact ⟨r, d, h, (same isBlank fun _ => isLetterless_of_isBlank).trans visible⟩

end Text

end TreeDump
