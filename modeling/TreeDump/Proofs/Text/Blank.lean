import Mathlib.Data.List.Basic
import Mathlib.Tactic.Common
import TreeDump.Text.Blank

/-!
# Ends of texts

Trimming the end of a text changes nothing when a character that can be seen stands there, and what
is put before a text leaves its end alone. A text that has been trimmed at both ends starts and ends
with such a character, unless nothing is left of it. Where blanks have been collapsed, the only
blank is the space.
-/

namespace TreeDump.Text

lemma dropEndWhile_concat_of_neg {p : Char → Bool} {c : Char} (h : p c = false) (t : Text) :
    dropEndWhile p (t ++ [c]) = t ++ [c] := by
  simp [dropEndWhile, h]

lemma dropEndWhile_concat_of_pos {p : Char → Bool} {c : Char} (h : p c = true) (t : Text) :
    dropEndWhile p (t ++ [c]) = dropEndWhile p t := by
  simp [dropEndWhile, h]

/-- Does the text end with a character that is no blank? -/
def EndsVisibly (t : Text) : Prop :=
  ∃ s c, t = s ++ [c] ∧ isBlank c = false

lemma EndsVisibly.trimEnd_eq {t : Text} (h : EndsVisibly t) : trimEnd t = t := by
  obtain ⟨s, c, rfl, visible⟩ := h
  exact dropEndWhile_concat_of_neg visible s

lemma EndsVisibly.append {t : Text} (h : EndsVisibly t) (s : Text) : EndsVisibly (s ++ t) := by
  obtain ⟨r, c, rfl, visible⟩ := h
  exact ⟨s ++ r, c, by simp, visible⟩

/-- A text that trimming does not change ends visibly, unless it is empty. -/
lemma endsVisibly_of_trimEnd_eq {t : Text} (nonempty : t ≠ []) (h : trimEnd t = t) :
    EndsVisibly t := by
  rcases List.eq_nil_or_concat' t with rfl | ⟨s, c, rfl⟩
  · exact absurd rfl nonempty
  · refine ⟨s, c, rfl, ?_⟩
    by_contra blank
    rw [Bool.not_eq_false] at blank
    have length := congrArg List.length h
    have shorter : (trimEnd (s ++ [c])).length ≤ s.length := by
      simpa [trimEnd, dropEndWhile, blank] using
        (List.dropWhile_sublist isBlank (l := s.reverse)).length_le
    simp only [List.length_append, List.length_singleton] at length
    omega

/-- Texts that end visibly do so when they are joined. -/
lemma EndsVisibly.intercalate {parts : List Text} (separator : Text) (nonempty : parts ≠ [])
    (h : ∀ part ∈ parts, EndsVisibly part) : EndsVisibly (separator.intercalate parts) := by
  induction parts with
  | nil => exact absurd rfl nonempty
  | cons first rest ih =>
    cases rest with
    | nil => simpa using h first
    | cons second rest =>
      rw [List.intercalate_cons_cons]
      apply EndsVisibly.append
      exact ih (by simp) fun part hpart => h part (List.mem_cons_of_mem _ hpart)

/-! ### Both ends -/

lemma dropEndWhile_prefix (p : Char → Bool) (t : Text) : dropEndWhile p t <+: t := by
  rw [dropEndWhile, ← List.reverse_suffix, List.reverse_reverse]
  exact List.dropWhile_suffix p

lemma neg_of_dropWhile_eq_cons {p : Char → Bool} {t r : Text} {c : Char}
    (h : t.dropWhile p = c :: r) : p c = false := by
  have first := List.head?_dropWhile_not p t
  rwa [h] at first

/-- Does the text start with a character that is no blank? -/
def StartsVisibly (t : Text) : Prop :=
  ∃ c r, t = c :: r ∧ isBlank c = false

lemma startsVisibly_iff {t : Text} :
    t.StartsVisibly ↔ (t.head?.any fun c => !isBlank c) = true := by
  cases t <;> simp [StartsVisibly]

instance (t : Text) : Decidable t.StartsVisibly :=
  decidable_of_iff _ startsVisibly_iff.symm

lemma StartsVisibly.trimStart_eq {t : Text} (h : t.StartsVisibly) : trimStart t = t := by
  obtain ⟨c, r, rfl, visible⟩ := h
  simp [trimStart, visible]

lemma StartsVisibly.of_isPrefix {s t : Text} (h : t.StartsVisibly) (start : s <+: t)
    (nonempty : s ≠ []) : s.StartsVisibly := by
  obtain ⟨c, r, rfl, visible⟩ := h
  obtain ⟨d, s, rfl⟩ := List.exists_cons_of_ne_nil nonempty
  obtain ⟨rfl, -⟩ := List.cons_prefix_cons.mp start
  exact ⟨d, s, rfl, visible⟩

lemma startsVisibly_trimStart {t : Text} (nonempty : trimStart t ≠ []) :
    (trimStart t).StartsVisibly := by
  obtain ⟨c, r, h⟩ := List.exists_cons_of_ne_nil nonempty
  exact ⟨c, r, h, neg_of_dropWhile_eq_cons h⟩

lemma endsVisibly_trimEnd {t : Text} (nonempty : trimEnd t ≠ []) : (trimEnd t).EndsVisibly := by
  rw [trimEnd, dropEndWhile, ne_eq, List.reverse_eq_nil_iff] at nonempty
  obtain ⟨c, r, h⟩ := List.exists_cons_of_ne_nil nonempty
  refine ⟨r.reverse, c, ?_, neg_of_dropWhile_eq_cons h⟩
  rw [trimEnd, dropEndWhile, h, List.reverse_cons]

/-- What is left of a trimmed text can be seen at both ends. -/
lemma visible_trim {t : Text} (nonempty : trim t ≠ []) :
    (trim t).StartsVisibly ∧ (trim t).EndsVisibly := by
  refine ⟨?_, endsVisibly_trimEnd nonempty⟩
  have start : trim t <+: trimStart t := dropEndWhile_prefix _ _
  refine (startsVisibly_trimStart ?_).of_isPrefix start nonempty
  intro none
  rw [none] at start
  exact nonempty (List.prefix_nil.mp start)

lemma trim_eq_self {t : Text} (starts : t.StartsVisibly) (ends : t.EndsVisibly) : trim t = t := by
  rw [trim, starts.trimStart_eq, ends.trimEnd_eq]

lemma trim_trim (t : Text) : trim (trim t) = trim t := by
  by_cases nonempty : trim t = []
  · rw [nonempty]
    rfl
  · obtain ⟨starts, ends⟩ := visible_trim nonempty
    exact trim_eq_self starts ends

/-! ### Runs of blanks -/

lemma trim_subset (t : Text) : trim t ⊆ t := by
  intro c mem
  have start : trim t <+: trimStart t := dropEndWhile_prefix isBlank _
  exact (List.dropWhile_suffix isBlank).subset (start.subset mem)

lemma eq_space_of_mem_squeezeFrom {inRun : Bool} {t : Text} {c : Char}
    (mem : c ∈ squeezeFrom inRun t) (blank : isBlank c = true) : c = ' ' := by
  fun_induction squeezeFrom inRun t with
  | case1 => cases mem
  | case2 _ _ _ ih => exact ih mem
  | case3 _ _ _ _ _ ih =>
    rcases List.mem_cons.mp mem with here | mem
    · exact here
    · exact ih mem
  | case4 _ _ _ visible ih =>
    rcases List.mem_cons.mp mem with rfl | mem
    · exact absurd blank visible
    · exact ih mem

lemma eq_space_of_mem_collapseBlanks {t : Text} {c : Char} (mem : c ∈ collapseBlanks t)
    (blank : isBlank c = true) : c = ' ' :=
  eq_space_of_mem_squeezeFrom (trim_subset _ mem) blank

end TreeDump.Text
