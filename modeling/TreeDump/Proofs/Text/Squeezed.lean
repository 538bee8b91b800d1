import Mathlib.Data.List.DropRight
import TreeDump.Proofs.Text.Blank

/-!
# Squeezed texts

Squeezing a text writes each of its runs of blanks as one space and leaves all other characters
alone. It reads the text from left to right and remembers only whether a run goes on, so that a text
is squeezed part by part; squeezing again changes nothing, and what stands at the front of a
squeezed text is squeezed as well. Collapsing the blanks of a text is squeezing it and trimming its
end, where blanks have no influence.
-/

namespace TreeDump.Text

/-! ### Blanks at the end -/

lemma trimEnd_eq_rdropWhile (t : Text) : trimEnd t = t.rdropWhile isBlank := rfl

lemma exists_eq_trimEnd_append (t : Text) :
    ∃ blanks, t = trimEnd t ++ blanks ∧ ∀ c ∈ blanks, isBlank c = true := by
  refine ⟨t.rtakeWhile isBlank, List.rdropWhile_append_rtakeWhile.symm, ?_⟩
  intro c mem
  exact List.mem_rtakeWhile_imp mem

lemma trimEnd_append_of_blank {blanks : Text} (h : ∀ c ∈ blanks, isBlank c = true) (t : Text) :
    trimEnd (t ++ blanks) = trimEnd t := by
  induction blanks using List.reverseRecOn with
  | nil => rw [List.append_nil]
  | append_singleton blanks c ih =>
    obtain ⟨others, last⟩ := List.forall_mem_append.mp h
    rw [← List.append_assoc, trimEnd,
      dropEndWhile_concat_of_pos (last c List.mem_cons_self)]
    exact ih others

/-! ### Squeezing -/

lemma isBlank_space : isBlank ' ' = true := by decide

lemma ne_of_isBlank {c d : Char} (blank : isBlank c = true) (visible : isBlank d = false) :
    c ≠ d := by
  rintro rfl
  rw [blank] at visible
  cases visible

lemma squeezeFrom_visible {c : Char} (visible : isBlank c = false) (inRun : Bool) (r : Text) :
    squeezeFrom inRun (c :: r) = c :: squeezeFrom false r := by
  simp [squeezeFrom, visible]

lemma squeezeFrom_blank {c : Char} (blank : isBlank c = true) (inRun : Bool) (r : Text) :
    squeezeFrom inRun (c :: r)
      = if inRun then squeezeFrom true r else ' ' :: squeezeFrom true r := by
  simp [squeezeFrom, blank]

/-- A space in place of a blank, and any other character as it is. -/
def spaceForBlank (c : Char) : Char :=
  if isBlank c then ' ' else c

lemma spaceForBlank_eq_iff {c d : Char} (visible : isBlank d = false) :
    spaceForBlank c = d ↔ c = d := by
  rw [spaceForBlank]
  split_ifs with blank
  · exact iff_of_false (ne_of_isBlank isBlank_space visible) (ne_of_isBlank blank visible)
  · rfl

lemma head?_squeezeFrom (t : Text) : (squeezeFrom false t).head? = t.head?.map spaceForBlank := by
  cases t with
  | nil => rfl
  | cons c r => cases blank : isBlank c <;> simp [squeezeFrom, spaceForBlank, blank]

lemma mem_squeezeFrom {inRun : Bool} {t : Text} {c : Char} (mem : c ∈ squeezeFrom inRun t) :
    c = ' ' ∨ c ∈ t := by
  fun_induction squeezeFrom inRun t with
  | case1 => cases mem
  | case2 d r _ ih => exact (ih mem).imp_right (List.mem_cons_of_mem d)
  | case3 _ d r _ _ ih =>
    rcases List.mem_cons.mp mem with here | mem
    · exact .inl here
    · exact (ih mem).imp_right (List.mem_cons_of_mem d)
  | case4 _ d r _ ih =>
    rcases List.mem_cons.mp mem with here | mem
    · exact .inr (List.mem_cons.mpr (.inl here))
    · exact (ih mem).imp_right (List.mem_cons_of_mem d)

lemma length_squeezeFrom_le (inRun : Bool) (t : Text) :
    (squeezeFrom inRun t).length ≤ t.length := by
  fun_induction squeezeFrom inRun t with
  | case1 => exact Nat.le_refl _
  | case2 c r _ ih => exact Nat.le_succ_of_le ih
  | case3 _ _ r _ _ ih => exact Nat.succ_le_succ ih
  | case4 _ c r _ ih => exact Nat.succ_le_succ ih

/-- Each of two parts is squeezed for itself when it is known whether a run goes on at the
second. -/
lemma exists_squeezeFrom_append (inRun : Bool) (s t : Text) :
    ∃ goesOn, squeezeFrom inRun (s ++ t) = squeezeFrom inRun s ++ squeezeFrom goesOn t := by
  induction s generalizing inRun with
  | nil => exact ⟨inRun, rfl⟩
  | cons c s ih =>
    cases blank : isBlank c with
    | false =>
      obtain ⟨goesOn, h⟩ := ih false
      exact ⟨goesOn, by simp [squeezeFrom_visible blank, h]⟩
    | true =>
      obtain ⟨goesOn, h⟩ := ih true
      refine ⟨goesOn, ?_⟩
      cases inRun <;> simp [squeezeFrom_blank blank, h]

lemma squeezeFrom_squeezeFrom (inRun : Bool) (t : Text) :
    squeezeFrom inRun (squeezeFrom inRun t) = squeezeFrom inRun t := by
  induction t generalizing inRun with
  | nil => rfl
  | cons c r ih =>
    cases blank : isBlank c with
    | false => simp only [squeezeFrom_visible blank, ih]
    | true =>
      cases inRun with
      | false => simp [squeezeFrom_blank blank, squeezeFrom_blank isBlank_space, ih]
      | true => simpa [squeezeFrom_blank blank] using ih true

/-- Two parts that are no longer than two others, but the same when they are joined, are those. -/
lemma eq_of_append_eq_append {s t s' t' : Text} (h : s ++ t = s' ++ t')
    (first : s.length ≤ s'.length) (second : t.length ≤ t'.length) : s = s' := by
  refine (List.append_inj h ?_).1
  have whole := congrArg List.length h
  rw [List.length_append, List.length_append] at whole
  omega

/-- What stands at the front of a squeezed text is squeezed. -/
lemma squeezeFrom_eq_self_of_prefix {inRun : Bool} {s t : Text} (front : s <+: t)
    (h : squeezeFrom inRun t = t) : squeezeFrom inRun s = s := by
  obtain ⟨rest, rfl⟩ := front
  obtain ⟨goesOn, parts⟩ := exists_squeezeFrom_append inRun s rest
  rw [parts] at h
  exact eq_of_append_eq_append h (length_squeezeFrom_le _ _) (length_squeezeFrom_le _ _)

/-! ### Collapsing -/

/-- Where a run goes on, no blank is written at the start. -/
lemma trimStart_squeezeFrom_true (t : Text) :
    trimStart (squeezeFrom true t) = squeezeFrom true t := by
  induction t with
  | nil => rfl
  | cons c r ih =>
    cases blank : isBlank c with
    | false => simp [squeezeFrom_visible blank, trimStart, blank]
    | true => simpa [squeezeFrom_blank blank] using ih

lemma trimStart_squeezeFrom (t : Text) : trimStart (squeezeFrom false t) = squeezeFrom true t := by
  cases t with
  | nil => rfl
  | cons c r =>
    cases blank : isBlank c with
    | false => simp [squeezeFrom_visible blank, trimStart, blank]
    | true =>
      have start := trimStart_squeezeFrom_true r
      simpa [squeezeFrom_blank blank, trimStart, isBlank_space] using start

lemma collapseBlanks_eq (t : Text) : collapseBlanks t = trimEnd (squeezeFrom true t) := by
  rw [collapseBlanks, trim, trimStart_squeezeFrom]

/-- Blanks at the end of a text leave no trace. -/
lemma collapseBlanks_append_of_blank {blanks : Text} (h : ∀ c ∈ blanks, isBlank c = true)
    (t : Text) : collapseBlanks (t ++ blanks) = collapseBlanks t := by
  obtain ⟨goesOn, parts⟩ := exists_squeezeFrom_append true t blanks
  rw [collapseBlanks_eq, parts, collapseBlanks_eq]
  refine trimEnd_append_of_blank ?_ _
  intro c mem
  rcases mem_squeezeFrom mem with rfl | mem
  · exact isBlank_space
  · exact h c mem

lemma squeezeFrom_collapseBlanks (t : Text) :
    squeezeFrom true (collapseBlanks t) = collapseBlanks t := by
  have front : trimEnd (squeezeFrom true t) <+: squeezeFrom true t :=
    dropEndWhile_prefix isBlank _
  rw [collapseBlanks_eq]
  exact squeezeFrom_eq_self_of_prefix front (squeezeFrom_squeezeFrom true t)

lemma collapseBlanks_collapseBlanks (t : Text) :
    collapseBlanks (collapseBlanks t) = collapseBlanks t := by
  rw [collapseBlanks_eq, squeezeFrom_collapseBlanks, collapseBlanks_eq, trimEnd_eq_rdropWhile,
    trimEnd_eq_rdropWhile, List.rdropWhile_idempotent]

end TreeDump.Text
