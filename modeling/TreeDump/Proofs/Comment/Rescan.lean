import Mathlib.Data.List.Basic
import TreeDump.Proofs.Comment.Moves

/-!
# Scanning again

A text without its comments is scanned again. Each of its characters is copied once more, in the
literal or in the code in which it stood before, because a slash that was copied as code has the
same character after it as before: no comment can have stood between the two. So none is found.
-/

namespace TreeDump.Comment

/-- The state in which the kept characters are met again: there are no comments any more. -/
def State.withoutComments : State → State
  | .lineComment | .blockComment => .code
  | .code => .code
  | .doubleQuoted => .doubleQuoted
  | .singleQuoted => .singleQuoted

variable {s next : State} {c : Char} {r : Text}

lemma withoutComments_of_not_isComment (h : s.isComment = false) : s.withoutComments = s := by
  cases s <;> simp_all [State.isComment, State.withoutComments]

/-- The move with which a kept character is copied again. -/
def Step.again? (step : Step) : Option Step :=
  match step.move with
  | .keep next => some ⟨step.state.withoutComments, step.char, .keep next⟩
  | .skip _ | .skipTwo _ => none

/-- In code, the first character is kept when it is no slash. -/
lemma head?_stripFrom_code (h : r.head? ≠ some '/') : (stripFrom .code r).head? = r.head? := by
  cases r with
  | nil => rfl
  | cons c r =>
    have keep : move .code c r.head? = .keep (stateAfterCode c) := by
      refine move_code_eq_keep_iff.mpr ⟨?_, rfl⟩
      rintro rfl
      exact absurd rfl h
    rw [stripFrom_of_keep keep]
    rfl

/-- A character that is kept is copied again, whatever has been dropped behind it. -/
lemma move_stripFrom (h : move s c r.head? = .keep next) :
    move s.withoutComments c (stripFrom next r).head? = .keep next := by
  cases s with
  | code =>
    obtain ⟨noMark, after⟩ := move_code_eq_keep_iff.mp h
    refine move_code_eq_keep_iff.mpr ⟨?_, after⟩
    rintro rfl
    have code : next = .code := after.symm
    have ahead := noMark rfl
    rwa [code, head?_stripFrom_code ahead.1]
  | doubleQuoted | singleQuoted => exact h
  | lineComment =>
    -- only the end of the line is kept, and it is no slash
    simp only [move] at h
    split_ifs at h with lineEnd
    refine move_code_eq_keep_iff.mpr ⟨?_, ?_⟩
    · rintro rfl
      simp at lineEnd
    · cases h
      rcases lineEnd with rfl | rfl <;> rfl
  | blockComment => exact absurd rfl (of_move_eq_keep h).1

/-- A move that copies nothing leaves comments or code for one another. -/
lemma withoutComments_of_skip (h : move s c r.head? = .skip next) :
    next.withoutComments = s.withoutComments := by
  rw [(of_move_eq_skip h).1]

lemma withoutComments_of_skipTwo {ahead : Option Char} (h : move s c ahead = .skipTwo next) :
    next.withoutComments = s.withoutComments := by
  rcases of_move_eq_skipTwo h with ⟨rfl, -, -, rfl⟩ | ⟨rfl, -, -, rfl⟩ | ⟨rfl, -, -, rfl⟩ <;> rfl

/-- The scan of what is kept consists of the moves that kept it. -/
lemma scan_stripFrom (s : State) (t : Text) :
    scan s.withoutComments (stripFrom s t) = (scan s t).filterMap Step.again? := by
  induction s, t using scan_induction with
  | nil s => rfl
  | keep s c r next h ih =>
    rw [withoutComments_of_not_isComment (of_move_eq_keep h).2] at ih
    rw [stripFrom_of_keep h, scan_of_keep (move_stripFrom h), ih, scan_of_keep h]
    rfl
  | skip s c r next h ih =>
    rw [stripFrom_of_skip h, ← withoutComments_of_skip h, ih, scan_of_skip h]
    rfl
  | skipTwo s c d r next h ih =>
    rw [stripFrom_of_skipTwo h, ← withoutComments_of_skipTwo h, ih, scan_of_skipTwo h]
    rfl

lemma scan_strip (t : Text) : scan .code (strip t) = (scan .code t).filterMap Step.again? :=
  scan_stripFrom .code t

lemma kept?_of_again? (step : Step) :
    step.again?.bind Step.kept? = step.kept?.map (Prod.map State.withoutComments id) := by
  obtain ⟨s, c, _ | _ | _⟩ := step <;> rfl

/-- Every kept character is met again in the state in which it was kept. -/
lemma kept_strip (t : Text) :
    kept .code (strip t) = (kept .code t).map (Prod.map State.withoutComments id) := by
  rw [kept, scan_strip, List.filterMap_filterMap, kept, List.map_filterMap]
  exact List.filterMap_congr fun step _ => kept?_of_again? step

lemma strip_strip (t : Text) : strip (strip t) = strip t := by
  have again := congrArg (List.map Prod.snd) (kept_strip t)
  rwa [List.map_map] at again

/-- A scan of what is kept enters no comment. -/
lemma not_isComment_of_mem_statesEntered_strip {t : Text} {s : State}
    (mem : s ∈ statesEntered .code (strip t)) : s.isComment = false := by
  rw [statesEntered, scan_strip] at mem
  obtain ⟨again, copied, rfl⟩ := List.mem_map.mp mem
  obtain ⟨⟨state, c, m⟩, first, same⟩ := List.mem_filterMap.mp copied
  obtain ⟨ahead, h⟩ := exists_move_of_mem_scan first
  cases m with
  | keep next =>
    cases same
    exact (of_move_eq_keep h).2
  | skip next => cases same
  | skipTwo next => cases same

/-- Scanning again what is kept of a text copies all of it: no comment is entered, and every
character is met in the literal in which it stood, or in code. -/
theorem strip_rescanned (t : Text) :
    strip (strip t) = strip t ∧
      (∀ s ∈ statesEntered .code (strip t), s.isComment = false) ∧
      kept .code (strip t) = (kept .code t).map (Prod.map State.withoutComments id) := by
  refine ⟨strip_strip t, ?_, kept_strip t⟩
  intro s mem
  exact not_isComment_of_mem_statesEntered_strip mem

end TreeDump.Comment
