import Mathlib.Tactic.Common
import TreeDump.Comment

/-!
# Moves of the scanner

What a move of each of the three kinds says about the state, the character and the one after it.
Statements on scans follow the moves: their induction goes from a text to what is left of it behind
the first move, whether that passes over one character or two.
-/

namespace TreeDump.Comment

variable {s next : State} {c d : Char} {ahead : Option Char} {r : Text}

/-! ### A single move -/

/-- Nothing is copied in a block comment, and no comment goes on behind what is copied. -/
lemma of_move_eq_keep (h : move s c ahead = .keep next) :
    s ≠ .blockComment ∧ next.isComment = false := by
  cases s <;> simp only [move, stateAfterCode] at h <;> split_ifs at h <;> cases h <;>
    simp [State.isComment]

/-- In code, a character is copied unless it begins a comment. -/
lemma move_code_eq_keep_iff :
    move .code c ahead = .keep next ↔
      (c = '/' → ahead ≠ some '/' ∧ ahead ≠ some '*') ∧ stateAfterCode c = next := by
  simp only [move]
  split_ifs with block line
  · simp [block]
  · simp [line]
  · rw [Move.keep.injEq, iff_and_self]
    rintro - slash
    exact ⟨fun ahead => line ⟨slash, ahead⟩, fun ahead => block ⟨slash, ahead⟩⟩

/-- A single character is passed over in a comment that goes on. -/
lemma of_move_eq_skip (h : move s c ahead = .skip next) : next = s ∧ s.isComment = true := by
  cases s <;> simp only [move] at h <;> split_ifs at h <;> cases h <;> simp [State.isComment]

/-- Two characters are passed over where a comment begins or a block comment ends. -/
lemma of_move_eq_skipTwo (h : move s c ahead = .skipTwo next) :
    (s = .code ∧ c = '/' ∧ ahead = some '*' ∧ next = .blockComment) ∨
      (s = .code ∧ c = '/' ∧ ahead = some '/' ∧ next = .lineComment) ∨
      (s = .blockComment ∧ c = '*' ∧ ahead = some '/' ∧ next = .code) := by
  cases s <;> simp only [move] at h <;> split_ifs at h <;> simp_all

/-! ### One move after the other -/

lemma scan_of_keep (h : move s c r.head? = .keep next) :
    scan s (c :: r) = ⟨s, c, .keep next⟩ :: scan next r := by
  rw [scan, h]

lemma scan_of_skip (h : move s c r.head? = .skip next) :
    scan s (c :: r) = ⟨s, c, .skip next⟩ :: scan next r := by
  rw [scan, h]

lemma scan_of_skipTwo (h : move s c (some d) = .skipTwo next) :
    scan s (c :: d :: r) = ⟨s, c, .skipTwo next⟩ :: scan next r := by
  rw [scan, List.head?_cons, h]

/-- Induction on a text along the moves over it. -/
@[elab_as_elim]
lemma scan_induction {motive : State → Text → Prop} (nil : ∀ s, motive s [])
    (keep : ∀ s c r next, move s c r.head? = .keep next → motive next r → motive s (c :: r))
    (skip : ∀ s c r next, move s c r.head? = .skip next → motive next r → motive s (c :: r))
    (skipTwo : ∀ s c d r next, move s c (some d) = .skipTwo next → motive next r →
      motive s (c :: d :: r))
    (s : State) (t : Text) : motive s t := by
  induction s, t using scan.induct with
  | case1 s => exact nil s
  | case2 s c r after afterTwo =>
    cases h : move s c r.head? with
    | keep next => exact keep s c r next h (after next)
    | skip next => exact skip s c r next h (after next)
    | skipTwo next =>
      cases r with
      | nil => simpa using of_move_eq_skipTwo h
      | cons d r => exact skipTwo s c d r next h (afterTwo next)

/-- Every step of a scan is made for its own character and one that may come after it. -/
lemma exists_move_of_mem_scan {t : Text} {step : Step} (mem : step ∈ scan s t) :
    ∃ ahead, move step.state step.char ahead = step.move := by
  induction s, t using scan_induction with
  | nil s => cases mem
  | keep s c r next h ih =>
    rw [scan_of_keep h] at mem
    rcases List.mem_cons.mp mem with rfl | mem
    · exact ⟨_, h⟩
    · exact ih mem
  | skip s c r next h ih =>
    rw [scan_of_skip h] at mem
    rcases List.mem_cons.mp mem with rfl | mem
    · exact ⟨_, h⟩
    · exact ih mem
  | skipTwo s c d r next h ih =>
    rw [scan_of_skipTwo h] at mem
    rcases List.mem_cons.mp mem with rfl | mem
    · exact ⟨_, h⟩
    · exact ih mem

/-! ### What is kept -/

lemma kept_of_keep (h : move s c r.head? = .keep next) :
    kept s (c :: r) = (s, c) :: kept next r := by
  rw [kept, scan_of_keep h]
  rfl

lemma kept_of_skip (h : move s c r.head? = .skip next) : kept s (c :: r) = kept next r := by
  rw [kept, scan_of_skip h]
  rfl

lemma kept_of_skipTwo (h : move s c (some d) = .skipTwo next) :
    kept s (c :: d :: r) = kept next r := by
  rw [kept, scan_of_skipTwo h]
  rfl

@[simp] lemma stripFrom_nil (s : State) : stripFrom s [] = [] := rfl

lemma stripFrom_cons (s : State) (c : Char) (r : Text) :
    stripFrom s (c :: r) =
      match move s c r.head? with
      | .keep next => c :: stripFrom next r
      | .skip next => stripFrom next r
      | .skipTwo next => stripFrom next r.tail := by
  simp only [stripFrom, kept]
  rw [scan]
  cases move s c r.head? with
  | keep next => rfl
  | skip next => rfl
  | skipTwo next => cases r <;> rfl

lemma stripFrom_of_keep (h : move s c r.head? = .keep next) :
    stripFrom s (c :: r) = c :: stripFrom next r := by
  rw [stripFrom_cons, h]

lemma stripFrom_of_skip (h : move s c r.head? = .skip next) :
    stripFrom s (c :: r) = stripFrom next r := by
  rw [stripFrom_cons, h]

lemma stripFrom_of_skipTwo (h : move s c (some d) = .skipTwo next) :
    stripFrom s (c :: d :: r) = stripFrom next r := by
  rw [stripFrom_cons, List.head?_cons, h, List.tail_cons]

/-- The characters that are kept stand in the text in the same order. -/
lemma stripFrom_sublist (s : State) (t : Text) : (stripFrom s t).Sublist t := by
  induction s, t using scan_induction with
  | nil s => exact List.Sublist.refl []
  | keep s c r next h ih =>
    rw [stripFrom_of_keep h]
    exact ih.cons_cons c
  | skip s c r next h ih =>
    rw [stripFrom_of_skip h]
    exact ih.cons c
  | skipTwo s c d r next h ih =>
    rw [stripFrom_of_skipTwo h]
    exact (ih.cons d).cons c

/-! ### Where a scan ends -/

lemma stateAfter_of_step {t : Text} {step : Step}
    (steps : scan s t = step :: scan step.move.next r) :
    stateAfter s t = stateAfter step.move.next r := by
  rw [stateAfter, steps]
  rfl

lemma stateAfter_of_getLast? {t : Text} {step : Step} (h : (scan s t).getLast? = some step) :
    stateAfter s t = step.move.next := by
  obtain ⟨steps, h⟩ := List.getLast?_eq_some_iff.mp h
  rw [stateAfter, h, List.foldl_append]
  rfl

end TreeDump.Comment
