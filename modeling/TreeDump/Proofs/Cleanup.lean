import TreeDump.Artifact.Dump
import TreeDump.Proofs.Comment.Rescan
import TreeDump.Proofs.Comment.Splits
import TreeDump.Proofs.Text.Squeezed

/-!
# Cleaned contents

Comments are dropped first and blanks are collapsed afterwards. The scanner reads a squeezed text
with the moves with which it read the text itself, as long as no line comment is entered: blanks are
no part of a mark and no quotes, and only a line comment ends with one. So collapsing leaves each
character in its literal or in code, a cleaned content has neither comments nor blanks to lose, and
blanks may also be collapsed before the comments are dropped.
-/

namespace TreeDump

open Comment Text

namespace Comment

/-! ### Squeezing marked characters -/

/-- Squeeze characters that carry the state in which they were met. The space for a run of blanks
carries the state of the first of them. -/
def squeezeMarked (inRun : Bool) : List (State × Char) → List (State × Char)
  | [] => []
  | (s, c) :: r =>
    if isBlank c then
      if inRun then squeezeMarked true r else (s, ' ') :: squeezeMarked true r
    else (s, c) :: squeezeMarked false r

variable {s next : State} {c : Char} {r t : Text}

lemma squeezeMarked_visible (visible : isBlank c = false) (inRun : Bool) (s : State)
    (r : List (State × Char)) :
    squeezeMarked inRun ((s, c) :: r) = (s, c) :: squeezeMarked false r := by
  simp [squeezeMarked, visible]

lemma squeezeMarked_blank (blank : isBlank c = true) (inRun : Bool) (s : State)
    (r : List (State × Char)) :
    squeezeMarked inRun ((s, c) :: r)
      = if inRun then squeezeMarked true r else (s, ' ') :: squeezeMarked true r := by
  simp [squeezeMarked, blank]

lemma map_snd_squeezeMarked (inRun : Bool) (marked : List (State × Char)) :
    (squeezeMarked inRun marked).map Prod.snd = squeezeFrom inRun (marked.map Prod.snd) := by
  fun_induction squeezeMarked inRun marked with
  | case1 => rfl
  | case2 => simp_all [squeezeFrom]
  | case3 => simp_all [squeezeFrom]
  | case4 => simp_all [squeezeFrom]

/-- Is the marked character no blank? -/
def isVisible (m : State × Char) : Bool :=
  !isBlank m.2

lemma filter_squeezeMarked (inRun : Bool) (marked : List (State × Char)) :
    (squeezeMarked inRun marked).filter isVisible = marked.filter isVisible := by
  fun_induction squeezeMarked inRun marked with
  | case1 => rfl
  | case2 => simp_all [isVisible]
  | case3 => simp_all [isVisible, isBlank_space]
  | case4 => simp_all [isVisible]

lemma squeezeMarked_sublist (inRun : Bool) (marked : List (State × Char)) :
    (squeezeMarked inRun marked).Sublist (marked.map (Prod.map id spaceForBlank)) := by
  fun_induction squeezeMarked inRun marked with
  | case1 => exact List.Sublist.refl []
  | case2 s c r _ ih => exact ih.cons _
  | case3 => simp_all [spaceForBlank]
  | case4 => simp_all [spaceForBlank]

lemma squeezeMarked_eq_self {inRun : Bool} {marked : List (State × Char)}
    (h : squeezeFrom inRun (marked.map Prod.snd) = marked.map Prod.snd) :
    squeezeMarked inRun marked = marked := by
  induction marked generalizing inRun with
  | nil => rfl
  | cons m r ih =>
    obtain ⟨s, c⟩ := m
    rw [List.map_cons] at h
    cases blank : isBlank c with
    | false =>
      rw [squeezeFrom_visible blank, List.cons.injEq] at h
      rw [squeezeMarked_visible blank, ih h.2]
    | true =>
      rw [squeezeFrom_blank blank] at h
      cases inRun with
      | true =>
        -- a blank would have been left out
        have short := length_squeezeFrom_le true (r.map Prod.snd)
        rw [if_pos rfl] at h
        rw [h, List.length_cons] at short
        omega
      | false =>
        obtain ⟨rfl, rest⟩ := List.cons.inj h
        rw [squeezeMarked_blank blank, ih rest]
        rfl

/-! ### Scanning a squeezed text -/

lemma move_congr {ahead ahead' : Option Char} (slash : ahead = some '/' ↔ ahead' = some '/')
    (star : ahead = some '*' ↔ ahead' = some '*') : move s c ahead = move s c ahead' := by
  cases s <;> simp only [move, slash, star]

/-- A character moves the scanner in the same way when the text after it has been squeezed. -/
lemma move_squeezeFrom (s : State) (c : Char) (r : Text) :
    move s c (squeezeFrom false r).head? = move s c r.head? := by
  have mark : ∀ d, isBlank d = false →
      ((squeezeFrom false r).head? = some d ↔ r.head? = some d) := by
    intro d visible
    rw [head?_squeezeFrom, Option.map_eq_some_iff]
    simp [spaceForBlank_eq_iff visible]
  exact move_congr (mark '/' (by decide)) (mark '*' (by decide))

/-- A blank is copied or passed over and changes no state, except at the end of a line comment. -/
lemma move_of_blank (blank : isBlank c = true) (notLine : s ≠ .lineComment)
    (ahead : Option Char) : move s c ahead = if s.isComment then .skip s else .keep s := by
  have noSlash : c ≠ '/' := ne_of_isBlank blank (by decide)
  have noStar : c ≠ '*' := ne_of_isBlank blank (by decide)
  have noDouble : c ≠ '\x22' := ne_of_isBlank blank (by decide)
  have noSingle : c ≠ '\x27' := ne_of_isBlank blank (by decide)
  cases s <;> simp_all [move, stateAfterCode, State.isComment]

lemma kept_of_blank (blank : isBlank c = true) (notLine : s ≠ .lineComment) (r : Text) :
    kept s (c :: r) = if s.isComment then kept s r else (s, c) :: kept s r := by
  have h := move_of_blank blank notLine r.head?
  split_ifs at h ⊢ with comment
  · exact kept_of_skip h
  · exact kept_of_keep h

/-- Is no line comment entered from state `s` on? -/
def NoLineComment (s : State) (t : Text) : Prop :=
  .lineComment ∉ s :: statesEntered s t

lemma NoLineComment.ne (h : NoLineComment s t) : s ≠ .lineComment :=
  fun line => h (line ▸ List.mem_cons_self)

lemma NoLineComment.of_step {step : Step} (h : NoLineComment s t)
    (steps : scan s t = step :: scan step.move.next r) : NoLineComment step.move.next r := by
  rw [NoLineComment, statesEntered, steps] at h
  exact fun mem => h (List.mem_cons_of_mem s mem)

/-- What the squeezing of a text makes of a blank is lost when the kept characters are squeezed. -/
lemma squeezeMarked_kept_blank (blank : isBlank c = true) (notLine : s ≠ .lineComment)
    {inRun goesOn : Bool} (run : s.isComment = false → goesOn = true → inRun = true)
    (rest : ∀ inRun, (s.isComment = false → inRun = true) →
      squeezeMarked inRun (kept s (squeezeFrom true r)) = squeezeMarked inRun (kept s r)) :
    squeezeMarked inRun (kept s (squeezeFrom goesOn (c :: r)))
      = squeezeMarked inRun (kept s (c :: r)) := by
  have first := kept_of_blank blank notLine r
  have space := kept_of_blank isBlank_space notLine (squeezeFrom true r)
  rw [squeezeFrom_blank blank, first]
  cases comment : s.isComment with
  | true =>
    rw [comment, if_pos rfl] at space
    cases goesOn with
    | true => exact rest inRun (by simp [comment])
    | false => exact (congrArg _ space).trans (rest inRun (by simp [comment]))
  | false =>
    rw [comment] at space
    have rest := rest true fun _ => rfl
    cases goesOn with
    | true =>
      rw [run comment rfl]
      exact rest.trans (squeezeMarked_blank blank true s _).symm
    | false =>
      refine (congrArg _ space).trans ?_
      simp [squeezeMarked_blank blank, squeezeMarked_blank isBlank_space, rest]

/-- Squeezing a text before the scan makes no difference to what is kept of it, once that is
squeezed as well. -/
lemma squeezeMarked_kept_squeezeFrom (noLine : NoLineComment s t) (inRun goesOn : Bool)
    (run : s.isComment = false → goesOn = true → inRun = true) :
    squeezeMarked inRun (kept s (squeezeFrom goesOn t)) = squeezeMarked inRun (kept s t) := by
  -- outside of comments, the space of a run that goes on in the text has been kept before, so the
  -- run goes on in what is kept; in a comment, the space has been dropped and nothing is known
  induction s, t using scan_induction generalizing inRun goesOn with
  | nil s => rfl
  | keep s c r next h ih =>
    have rest := ih (noLine.of_step (scan_of_keep h))
    cases blank : isBlank c with
    | false =>
      have h' := (move_squeezeFrom s c r).trans h
      rw [squeezeFrom_visible blank, kept_of_keep h', kept_of_keep h, squeezeMarked_visible blank,
        squeezeMarked_visible blank, rest false false (by simp)]
    | true =>
      rw [move_of_blank blank noLine.ne] at h
      split_ifs at h
      obtain rfl := Move.keep.inj h
      refine squeezeMarked_kept_blank blank noLine.ne run ?_
      intro inRun run
      exact rest inRun true fun code _ => run code
  | skip s c r next h ih =>
    have rest := ih (noLine.of_step (scan_of_skip h))
    obtain ⟨rfl, -⟩ := of_move_eq_skip h
    cases blank : isBlank c with
    | false =>
      have h' := (move_squeezeFrom next c r).trans h
      rw [squeezeFrom_visible blank, kept_of_skip h', kept_of_skip h, rest inRun false (by simp)]
    | true =>
      refine squeezeMarked_kept_blank blank noLine.ne run ?_
      intro inRun run
      exact rest inRun true fun code _ => run code
  | skipTwo s c d r next h ih =>
    have rest := ih (noLine.of_step (scan_of_skipTwo h))
    have visible : isBlank c = false ∧ isBlank d = false := by
      rcases of_move_eq_skipTwo h with ⟨-, rfl, h, -⟩ | ⟨-, rfl, h, -⟩ | ⟨-, rfl, h, -⟩ <;>
        cases h <;> decide
    rw [squeezeFrom_visible visible.1, squeezeFrom_visible visible.2, kept_of_skipTwo h,
      kept_of_skipTwo h, rest inRun false (by simp)]

/-- Squeezing a text before its comments are dropped makes no difference to the squeezed result. -/
lemma squeezeFrom_strip_squeezeFrom (noLine : NoLineComment .code t) :
    squeezeFrom true (strip (squeezeFrom true t)) = squeezeFrom true (strip t) := by
  have marked := squeezeMarked_kept_squeezeFrom noLine true true fun _ _ => rfl
  have texts := congrArg (List.map Prod.snd) marked
  rwa [map_snd_squeezeMarked, map_snd_squeezeMarked] at texts

/-! ### Blanks at the end -/

lemma not_splitsMark_of_blank {blanks : Text} (h : ∀ c ∈ blanks, isBlank c = true) (s : State)
    (t : Text) : ¬SplitsMark s t blanks := by
  have noMark : ∀ d, isBlank d = false → blanks.head? ≠ some d := by
    intro d visible first
    exact ne_of_isBlank (h d (List.mem_of_head? first)) visible rfl
  rintro (⟨-, slash | star⟩ | ⟨-, slash⟩)
  · exact noMark '/' (by decide) slash
  · exact noMark '*' (by decide) star
  · exact noMark '/' (by decide) slash

lemma collapseBlanks_strip_append {blanks : Text} (h : ∀ c ∈ blanks, isBlank c = true)
    (t : Text) : collapseBlanks (strip (t ++ blanks)) = collapseBlanks (strip t) := by
  rw [strip, stripFrom_append (not_splitsMark_of_blank h .code t)]
  refine collapseBlanks_append_of_blank ?_ _
  intro c mem
  exact h c ((stripFrom_sublist _ _).subset mem)

end Comment

/-! ### Collapsing blanks first -/

lemma collapseBlanks_strip_trimEnd (t : Text) :
    collapseBlanks (strip (trimEnd t)) = collapseBlanks (strip t) := by
  obtain ⟨blanks, whole, blank⟩ := exists_eq_trimEnd_append t
  have same := collapseBlanks_strip_append blank (trimEnd t)
  rwa [← whole, eq_comm] at same

/-- Blanks may be collapsed before the comments are dropped, unless there is a line comment. -/
theorem cleanUp_collapseBlanks (t : Text) (noLine : .lineComment ∉ statesEntered .code t) :
    cleanUp (collapseBlanks t) = cleanUp t := by
  have avoids : NoLineComment .code t := by
    rw [NoLineComment, List.mem_cons, not_or]
    exact ⟨by decide, noLine⟩
  calc cleanUp (collapseBlanks t)
      = collapseBlanks (strip (trimEnd (squeezeFrom true t))) := by
        rw [collapseBlanks_eq t, cleanUp]
    _ = collapseBlanks (strip (squeezeFrom true t)) := collapseBlanks_strip_trimEnd _
    _ = trimEnd (squeezeFrom true (strip t)) := by
        rw [collapseBlanks_eq, squeezeFrom_strip_squeezeFrom avoids]
    _ = cleanUp t := by rw [cleanUp, collapseBlanks_eq]

/-- Literals, block comments and runs of blanks in and between them, and an open end. -/
def sampleRuns : Text := "\t/* a\n *  / */ 'b \u3000\n//' /  \t/ \"x\r\n\" /* y ".toList

theorem cleanUp_collapseBlanks_sampleRuns :
    .lineComment ∉ statesEntered .code sampleRuns ∧
      collapseBlanks sampleRuns = "/* a * / */ 'b //' / / \"x \" /* y".toList ∧
      cleanUp (collapseBlanks sampleRuns) = "'b //' / / \"x \"".toList := by
  have noLine : .lineComment ∉ statesEntered .code sampleRuns := by decide +kernel
  have same := cleanUp_collapseBlanks sampleRuns noLine
  exact ⟨noLine, by decide +kernel, same.trans (by decide +kernel)⟩

/-! ### Cleaning again -/

lemma noLineComment_strip (t : Text) : NoLineComment .code (strip t) := by
  intro mem
  rcases List.mem_cons.mp mem with code | mem
  · cases code
  · have comment := not_isComment_of_mem_statesEntered_strip mem
    cases comment

/-- No comment is in what has been squeezed after the comments were dropped: without it, squeezing
would leave less. -/
lemma strip_squeezeFrom_strip (t : Text) :
    strip (squeezeFrom true (strip t)) = squeezeFrom true (strip t) := by
  refine (stripFrom_sublist .code _).eq_of_length_le ?_
  have squeezed := squeezeFrom_strip_squeezeFrom (noLineComment_strip t)
  rw [strip_strip] at squeezed
  calc (squeezeFrom true (strip t)).length
      = (squeezeFrom true (strip (squeezeFrom true (strip t)))).length := by rw [squeezed]
    _ ≤ (strip (squeezeFrom true (strip t))).length := length_squeezeFrom_le _ _

/-- What is kept of a squeezed text is what was kept before, squeezed. -/
lemma kept_squeezeFrom_strip (t : Text) :
    kept .code (squeezeFrom true (strip t))
      = squeezeMarked true ((kept .code t).map (Prod.map State.withoutComments id)) := by
  have marked := squeezeMarked_kept_squeezeFrom (noLineComment_strip t) true true fun _ _ => rfl
  have texts : (kept .code (squeezeFrom true (strip t))).map Prod.snd
      = squeezeFrom true (strip t) := strip_squeezeFrom_strip t
  rw [kept_strip] at marked
  rw [← marked, squeezeMarked_eq_self]
  rw [texts, squeezeFrom_squeezeFrom]

/-- A cleaned content is what has been squeezed, less the blanks at its end, which are kept for
themselves. -/
lemma exists_cleanUp_append (t : Text) :
    ∃ blanks, (∀ c ∈ blanks, isBlank c = true) ∧
      squeezeFrom true (strip t) = cleanUp t ++ blanks ∧
      kept .code (squeezeFrom true (strip t))
        = kept .code (cleanUp t) ++ kept (stateAfter .code (cleanUp t)) blanks := by
  obtain ⟨blanks, whole, blank⟩ := exists_eq_trimEnd_append (squeezeFrom true (strip t))
  rw [← collapseBlanks_eq, ← cleanUp] at whole
  refine ⟨blanks, blank, whole, ?_⟩
  rw [whole, kept_append (not_splitsMark_of_blank blank _ _)]

lemma strip_cleanUp (t : Text) : strip (cleanUp t) = cleanUp t := by
  obtain ⟨blanks, -, whole, parts⟩ := exists_cleanUp_append t
  have texts := congrArg (List.map Prod.snd) parts
  rw [List.map_append] at texts
  have again : stripFrom .code (cleanUp t) ++ stripFrom (stateAfter .code (cleanUp t)) blanks
      = cleanUp t ++ blanks := by
    rw [← whole, ← strip_squeezeFrom_strip]
    exact texts.symm
  exact eq_of_append_eq_append again (stripFrom_sublist _ _).length_le
    (stripFrom_sublist _ _).length_le

/-- The visible characters of a cleaned content are met where they stood before. -/
lemma filter_isVisible_kept_cleanUp (t : Text) :
    (kept .code (cleanUp t)).filter isVisible
      = ((kept .code t).map (Prod.map State.withoutComments id)).filter isVisible := by
  obtain ⟨blanks, blank, -, parts⟩ := exists_cleanUp_append t
  have none : (kept (stateAfter .code (cleanUp t)) blanks).filter isVisible = [] := by
    rw [List.filter_eq_nil_iff]
    intro m mem
    have inBlanks := (stripFrom_sublist _ blanks).subset (List.mem_map_of_mem mem)
    simp [isVisible, blank m.2 inBlanks]
  have visible := congrArg (List.filter isVisible) parts
  rw [kept_squeezeFrom_strip, filter_squeezeMarked, List.filter_append, none,
    List.append_nil] at visible
  exact visible.symm

/-- The characters of a cleaned content are met in order where they stood before, spaces for
blanks. -/
lemma kept_cleanUp_sublist (t : Text) :
    (kept .code (cleanUp t)).Sublist
      ((kept .code t).map (Prod.map State.withoutComments spaceForBlank)) := by
  obtain ⟨blanks, -, -, parts⟩ := exists_cleanUp_append t
  have front : (kept .code (cleanUp t)).Sublist (kept .code (squeezeFrom true (strip t))) := by
    rw [parts]
    exact List.sublist_append_left _ _
  rw [kept_squeezeFrom_strip] at front
  have spaces := squeezeMarked_sublist true
    ((kept .code t).map (Prod.map State.withoutComments id))
  rw [List.map_map, Prod.map_comp_map] at spaces
  exact front.trans spaces

/-- Neither dropping comments nor collapsing blanks changes a cleaned content. A scan of it enters
no comment. It meets the characters that can be seen in the literals in which they stood, or in
code, and there a space where there were blanks. -/
theorem cleanUp_settled (t : Text) :
    strip (cleanUp t) = cleanUp t ∧
      collapseBlanks (cleanUp t) = cleanUp t ∧
      cleanUp (cleanUp t) = cleanUp t ∧
      (∀ s ∈ statesEntered .code (cleanUp t), s.isComment = false) ∧
      (kept .code (cleanUp t)).filter isVisible
        = ((kept .code t).map (Prod.map State.withoutComments id)).filter isVisible ∧
      (kept .code (cleanUp t)).Sublist
        ((kept .code t).map (Prod.map State.withoutComments spaceForBlank)) := by
  have stripped := strip_cleanUp t
  have collapsed : collapseBlanks (cleanUp t) = cleanUp t := collapseBlanks_collapseBlanks _
  refine ⟨stripped, collapsed, ?_, ?_, filter_isVisible_kept_cleanUp t, kept_cleanUp_sublist t⟩
  · rw [cleanUp, stripped, collapsed]
  · intro s mem
    rw [← stripped] at mem
    exact not_isComment_of_mem_statesEntered_strip mem

end TreeDump
