import Mathlib.Data.List.Infix
import Mathlib.Tactic.Common
import TreeDump.Proofs.Comment.Moves

/-!
# Cutting a text into comments and code

A reference for the scanner that knows neither states nor moves: a text is cut from left to right
into single characters, literals and comments, each of which reaches as far as its own rule says.
Every text can be cut in exactly one way, and what the scanner keeps are the segments that are no
comments.
-/

namespace TreeDump.Comment

/-! ### Segments -/

/-- Does the character open a literal? -/
def IsQuote (c : Char) : Prop :=
  c = '\x22' ∨ c = '\x27'

/-- Does the character end a line? -/
def IsLineEnd (c : Char) : Prop :=
  c = '\r' ∨ c = '\n'

/-- The kinds of segments. -/
inductive Kind
  /-- a single character of code -/
  | ordinary
  | literal
  | lineComment
  | blockComment
  deriving DecidableEq, Repr

/-- Is a segment of this kind dropped? -/
def Kind.isComment : Kind → Bool
  | .ordinary | .literal => false
  | .lineComment | .blockComment => true

/-- A part of a text with its kind. -/
structure Segment where
  kind : Kind
  text : Text
  deriving DecidableEq, Repr

/-- The end of a block comment. -/
def blockEnd : Text := ['*', '/']

/-- `IsSegment kind text rest` says that `text` is a whole segment when `rest` comes after it. -/
inductive IsSegment : Kind → Text → Text → Prop
  | ordinary {c : Char} {rest : Text} (noQuote : ¬IsQuote c)
      (noComment : c = '/' → rest.head? ≠ some '/' ∧ rest.head? ≠ some '*') :
      IsSegment .ordinary [c] rest
  | closedLiteral {quote : Char} {body rest : Text} (opens : IsQuote quote)
      (first : quote ∉ body) : IsSegment .literal (quote :: (body ++ [quote])) rest
  | openLiteral {quote : Char} {body : Text} (opens : IsQuote quote)
      (never : quote ∉ body) : IsSegment .literal (quote :: body) []
  | lineComment {body rest : Text} (oneLine : ∀ c ∈ body, ¬IsLineEnd c)
      (ends : ∀ c ∈ rest.head?, IsLineEnd c) : IsSegment .lineComment ('/' :: '/' :: body) rest
  | closedBlock {body rest : Text} (first : ¬blockEnd <:+: body ++ ['*']) :
      IsSegment .blockComment ('/' :: '*' :: (body ++ blockEnd)) rest
  | openBlock {body : Text} (never : ¬blockEnd <:+: body) :
      IsSegment .blockComment ('/' :: '*' :: body) []

/-- `Cut t segments` says that `t` falls into these segments from left to right. -/
inductive Cut : Text → List Segment → Prop
  | nil : Cut [] []
  | cons {kind : Kind} {text rest : Text} {segments : List Segment}
      (segment : IsSegment kind text rest) (more : Cut rest segments) :
      Cut (text ++ rest) (⟨kind, text⟩ :: segments)

/-- The text of the segments that are no comments. -/
def keptText (segments : List Segment) : Text :=
  (segments.filter fun segment => !segment.kind.isComment).flatMap Segment.text

/-! ### A text begins with a segment -/

lemma IsSegment.text_ne_nil {kind : Kind} {text rest : Text} (h : IsSegment kind text rest) :
    text ≠ [] := by
  cases h <;> simp

/-- A text goes up to the first line end or has none. -/
lemma exists_line (t : Text) :
    ∃ body rest, t = body ++ rest ∧ (∀ c ∈ body, ¬IsLineEnd c) ∧
      ∀ c ∈ rest.head?, IsLineEnd c := by
  induction t with
  | nil => exact ⟨[], [], rfl, by simp, by simp⟩
  | cons c r ih =>
    by_cases h : IsLineEnd c
    · exact ⟨[], c :: r, rfl, by simp, by simpa using h⟩
    · obtain ⟨body, rest, rfl, oneLine, ends⟩ := ih
      refine ⟨c :: body, rest, rfl, ?_, ends⟩
      simpa [h] using oneLine

/-- A text goes through the first end of a block comment or has none. -/
lemma exists_block (t : Text) :
    ¬blockEnd <:+: t ∨
      ∃ body rest, t = body ++ blockEnd ++ rest ∧ ¬blockEnd <:+: body ++ ['*'] := by
  induction t with
  | nil => left; simp [blockEnd]
  | cons c r ih =>
    by_cases here : blockEnd <+: c :: r
    · right
      obtain ⟨rest, h⟩ := here
      refine ⟨[], rest, by simpa using h.symm, ?_⟩
      intro inside
      simpa [blockEnd] using inside.length_le
    · rcases ih with never | ⟨body, rest, rfl, first⟩
      · left
        rw [List.infix_cons_iff]
        rintro (inside | inside)
        · exact here inside
        · exact never inside
      · right
        refine ⟨c :: body, rest, rfl, ?_⟩
        rw [List.cons_append, List.infix_cons_iff]
        rintro (inside | inside)
        · apply here
          refine inside.trans ?_
          simp [blockEnd]
        · exact first inside

lemma exists_segment {t : Text} (h : t ≠ []) :
    ∃ kind text rest, t = text ++ rest ∧ IsSegment kind text rest := by
  obtain ⟨c, r, rfl⟩ := List.exists_cons_of_ne_nil h
  by_cases quote : IsQuote c
  · by_cases closed : c ∈ r
    · obtain ⟨body, rest, rfl, first⟩ := List.eq_append_cons_of_mem closed
      exact ⟨.literal, _, rest, by simp, .closedLiteral quote first⟩
    · exact ⟨.literal, _, [], by simp, .openLiteral quote closed⟩
  · by_cases line : c = '/' ∧ r.head? = some '/'
    · obtain ⟨rfl, second⟩ := line
      obtain ⟨r, rfl⟩ := List.head?_eq_some_iff.mp second
      obtain ⟨body, rest, rfl, oneLine, ends⟩ := exists_line r
      exact ⟨.lineComment, _, rest, by simp, .lineComment oneLine ends⟩
    · by_cases block : c = '/' ∧ r.head? = some '*'
      · obtain ⟨rfl, second⟩ := block
        obtain ⟨r, rfl⟩ := List.head?_eq_some_iff.mp second
        rcases exists_block r with never | ⟨body, rest, rfl, first⟩
        · exact ⟨.blockComment, _, [], by simp, .openBlock never⟩
        · exact ⟨.blockComment, _, rest, by simp, .closedBlock first⟩
      · refine ⟨.ordinary, [c], r, rfl, .ordinary quote ?_⟩
        intro slash
        constructor
        · intro second
          exact line ⟨slash, second⟩
        · intro second
          exact block ⟨slash, second⟩

/-- Every text can be cut. -/
lemma exists_cut (t : Text) : ∃ segments, Cut t segments := by
  by_cases h : t = []
  · exact ⟨[], h ▸ .nil⟩
  · obtain ⟨kind, text, rest, rfl, segment⟩ := exists_segment h
    have shorter : rest.length < (text ++ rest).length := by
      have := List.length_pos_iff.mpr segment.text_ne_nil
      rw [List.length_append]
      omega
    obtain ⟨segments, more⟩ := exists_cut rest
    exact ⟨_, .cons segment more⟩
termination_by t.length

/-! ### A text begins with one segment only -/

/-- The kind of the segment with which a text begins. -/
def kindAt : Text → Kind
  | [] => .ordinary
  | c :: r =>
    if c = '\x22' ∨ c = '\x27' then .literal
    else if c = '/' ∧ r.head? = some '/' then .lineComment
    else if c = '/' ∧ r.head? = some '*' then .blockComment
    else .ordinary

lemma IsSegment.kindAt_eq {kind : Kind} {text rest : Text} (h : IsSegment kind text rest) :
    kindAt (text ++ rest) = kind := by
  cases h with
  | ordinary noQuote noComment =>
    simp only [IsQuote] at noQuote
    simp only [kindAt, List.singleton_append, noQuote, if_false]
    split_ifs with line block
    · exact absurd line.2 (noComment line.1).1
    · exact absurd block.2 (noComment block.1).2
    · rfl
  | closedLiteral opens | openLiteral opens =>
    simp only [IsQuote] at opens
    simp [kindAt, opens]
  | lineComment => simp [kindAt]
  | closedBlock => simp [kindAt]
  | openBlock => simp [kindAt]

/-- A text goes up to the first character with a property in one way only. -/
lemma append_unique {p : Char → Prop} {body body' rest rest' : Text}
    (h : body ++ rest = body' ++ rest') (without : ∀ c ∈ body, ¬p c) (ends : ∀ c ∈ rest.head?, p c)
    (without' : ∀ c ∈ body', ¬p c) (ends' : ∀ c ∈ rest'.head?, p c) :
    body = body' ∧ rest = rest' := by
  induction body generalizing body' with
  | nil =>
    cases body' with
    | nil => exact ⟨rfl, h⟩
    | cons c body' =>
      rw [List.nil_append] at h
      exact absurd (ends c (by simp [h])) (without' c (by simp))
  | cons c body ih =>
    cases body' with
    | nil =>
      rw [List.nil_append] at h
      exact absurd (ends' c (by simp [← h])) (without c (by simp))
    | cons d body' =>
      rw [List.cons_append, List.cons_append] at h
      obtain ⟨rfl, tail⟩ := List.cons.inj h
      have ⟨_, without⟩ := List.forall_mem_cons.mp without
      have ⟨_, without'⟩ := List.forall_mem_cons.mp without'
      obtain ⟨rfl, rest⟩ := ih tail without without'
      exact ⟨rfl, rest⟩

lemma literal_unique {quote : Char} {body body' rest rest' : Text}
    (h : body ++ quote :: rest = body' ++ quote :: rest') (first : quote ∉ body)
    (first' : quote ∉ body') : body = body' ∧ rest = rest' := by
  have without : ∀ text : Text, quote ∉ text → ∀ c ∈ text, ¬c = quote := by
    rintro text absent c hc rfl
    exact absent hc
  obtain ⟨bodies, rests⟩ := append_unique h (without body first) (by simp)
    (without body' first') (by simp)
  exact ⟨bodies, List.tail_eq_of_cons_eq rests⟩

/-- An end of a block comment inside of a text that ends later comes before its last star. -/
lemma infix_of_longer {body body' rest rest' : Text}
    (h : body ++ blockEnd ++ rest = body' ++ blockEnd ++ rest')
    (longer : body.length < body'.length) : blockEnd <:+: body' ++ ['*'] := by
  have short : body ++ blockEnd <+: body' ++ ['*'] := by
    refine List.prefix_of_prefix_length_le (List.prefix_append _ rest) ?_ ?_
    · rw [h]
      exact ⟨'/' :: rest', by simp [blockEnd]⟩
    · simp [blockEnd]
      omega
  exact List.IsInfix.trans ⟨body, [], by simp⟩ short.isInfix

lemma block_unique {body body' rest rest' : Text}
    (h : body ++ blockEnd ++ rest = body' ++ blockEnd ++ rest')
    (first : ¬blockEnd <:+: body ++ ['*']) (first' : ¬blockEnd <:+: body' ++ ['*']) :
    body = body' ∧ rest = rest' := by
  have length : body.length = body'.length := by
    rcases Nat.lt_trichotomy body.length body'.length with lt | eq | gt
    · exact absurd (infix_of_longer h lt) first'
    · exact eq
    · exact absurd (infix_of_longer h.symm gt) first
  rw [List.append_assoc, List.append_assoc] at h
  obtain ⟨rfl, h⟩ := List.append_inj h length
  exact ⟨rfl, List.append_cancel_left (List.append_cancel_left h)⟩

lemma IsSegment.unique {kind kind' : Kind} {text text' rest rest' : Text}
    (h : IsSegment kind text rest) (h' : IsSegment kind' text' rest')
    (same : text ++ rest = text' ++ rest') : kind = kind' ∧ text = text' ∧ rest = rest' := by
  have kinds : kind = kind' := by rw [← h.kindAt_eq, ← h'.kindAt_eq, same]
  subst kinds
  refine ⟨rfl, ?_⟩
  cases h with
  | ordinary =>
    cases h' with
    | ordinary => simpa using same
  | closedLiteral _ first =>
    cases h' with
    | closedLiteral _ first' =>
      simp only [List.cons_append, List.append_assoc, List.nil_append, List.cons.injEq] at same
      obtain ⟨rfl, same⟩ := same
      obtain ⟨rfl, rfl⟩ := literal_unique same first first'
      exact ⟨rfl, rfl⟩
    | openLiteral _ never =>
      simp only [List.cons_append, List.append_assoc, List.cons.injEq, List.append_nil] at same
      obtain ⟨rfl, rfl⟩ := same
      simp at never
  | openLiteral _ never =>
    cases h' with
    | closedLiteral _ first =>
      simp only [List.cons_append, List.append_assoc, List.cons.injEq, List.append_nil] at same
      obtain ⟨rfl, rfl⟩ := same
      simp at never
    | openLiteral => simpa using same
  | lineComment oneLine ends =>
    cases h' with
    | lineComment oneLine' ends' =>
      obtain ⟨rfl, rfl⟩ := append_unique (by simpa using same) oneLine ends oneLine' ends'
      exact ⟨rfl, rfl⟩
  | @closedBlock body _ first =>
    cases h' with
    | closedBlock first' =>
      obtain ⟨rfl, rfl⟩ := block_unique (by simpa using same) first first'
      exact ⟨rfl, rfl⟩
    | openBlock never => exact absurd ⟨body, rest, by simpa using same⟩ never
  | openBlock never =>
    cases h' with
    | @closedBlock body _ first => exact absurd ⟨body, rest', by simpa using same.symm⟩ never
    | openBlock => simpa using same

/-- No text can be cut in two ways. -/
lemma Cut.unique {t : Text} {segments segments' : List Segment} (h : Cut t segments)
    (h' : Cut t segments') : segments = segments' := by
  induction h generalizing segments' with
  | nil =>
    generalize empty : ([] : Text) = t at h'
    cases h' with
    | nil => rfl
    | cons segment _ => exact absurd (List.append_eq_nil_iff.mp empty.symm).1 segment.text_ne_nil
  | @cons kind text rest segments segment _ ih =>
    generalize whole : text ++ rest = t at h'
    cases h' with
    | nil => exact absurd (List.append_eq_nil_iff.mp whole).1 segment.text_ne_nil
    | cons segment' more' =>
      obtain ⟨rfl, rfl, rfl⟩ := segment.unique segment' whole
      rw [ih more']

/-! ### The scanner -/

lemma move_literal {quote : Char} (opens : IsQuote quote) (c : Char) (ahead : Option Char) :
    move (stateAfterCode quote) c ahead
      = .keep (if c = quote then .code else stateAfterCode quote) := by
  rcases opens with rfl | rfl <;> simp [stateAfterCode, move]

lemma move_quote {quote : Char} (opens : IsQuote quote) (ahead : Option Char) :
    move .code quote ahead = .keep (stateAfterCode quote) := by
  rcases opens with rfl | rfl <;> simp [move]

lemma stripFrom_closedLiteral {quote : Char} (opens : IsQuote quote) {body : Text}
    (first : quote ∉ body) (rest : Text) :
    stripFrom (stateAfterCode quote) (body ++ quote :: rest)
      = body ++ quote :: stripFrom .code rest := by
  induction body with
  | nil => simp [stripFrom_cons, move_literal opens]
  | cons c body ih =>
    rw [List.mem_cons, not_or] at first
    obtain ⟨ne, first⟩ := first
    simp [stripFrom_cons, move_literal opens, Ne.symm ne, ih first]

lemma stripFrom_openLiteral {quote : Char} (opens : IsQuote quote) {body : Text}
    (never : quote ∉ body) : stripFrom (stateAfterCode quote) body = body := by
  induction body with
  | nil => rfl
  | cons c body ih =>
    rw [List.mem_cons, not_or] at never
    obtain ⟨ne, never⟩ := never
    simp [stripFrom_cons, move_literal opens, Ne.symm ne, ih never]

lemma stripFrom_line {body rest : Text} (oneLine : ∀ c ∈ body, ¬IsLineEnd c)
    (ends : ∀ c ∈ rest.head?, IsLineEnd c) :
    stripFrom .lineComment (body ++ rest) = stripFrom .code rest := by
  induction body with
  | nil =>
    cases rest with
    | nil => rfl
    | cons c r =>
      -- the line end is copied by either state, and code goes on after it
      rcases ends c rfl with rfl | rfl <;> simp [stripFrom_cons, move, stateAfterCode]
  | cons c body ih =>
    obtain ⟨first, oneLine⟩ := List.forall_mem_cons.mp oneLine
    have inside : ¬(c = '\r' ∨ c = '\n') := first
    rw [List.cons_append, stripFrom_cons]
    simp only [move, inside, if_false]
    exact ih oneLine

lemma move_blockComment {c : Char} {r : Text} (notHere : ¬blockEnd <+: c :: r) :
    move .blockComment c r.head? = .skip .blockComment := by
  have inside : ¬(c = '*' ∧ r.head? = some '/') := by
    rintro ⟨rfl, second⟩
    obtain ⟨r, rfl⟩ := List.head?_eq_some_iff.mp second
    simp [blockEnd] at notHere
  simp [move, inside]

lemma stripFrom_openBlock {body : Text} (never : ¬blockEnd <:+: body) :
    stripFrom .blockComment body = [] := by
  induction body with
  | nil => rfl
  | cons c body ih =>
    rw [List.infix_cons_iff, not_or] at never
    rw [stripFrom_cons, move_blockComment never.1]
    exact ih never.2

lemma stripFrom_closedBlock {body : Text} (first : ¬blockEnd <:+: body ++ ['*']) (rest : Text) :
    stripFrom .blockComment (body ++ blockEnd ++ rest) = stripFrom .code rest := by
  induction body with
  | nil => simp [blockEnd, stripFrom_cons, move]
  | cons c body ih =>
    rw [List.cons_append, List.infix_cons_iff, not_or] at first
    have notHere : ¬blockEnd <+: c :: (body ++ blockEnd ++ rest) := by
      intro here
      apply first.1
      refine List.prefix_of_prefix_length_le here ⟨'/' :: rest, by simp [blockEnd]⟩ ?_
      simp [blockEnd]
    rw [List.cons_append, List.cons_append, stripFrom_cons, move_blockComment notHere]
    exact ih first.2

/-- The scanner passes over a comment and copies any other segment, and both times it comes back to
code. -/
lemma stripFrom_segment {kind : Kind} {text rest : Text} (h : IsSegment kind text rest) :
    stripFrom .code (text ++ rest)
      = (if kind.isComment then [] else text) ++ stripFrom .code rest := by
  cases h with
  | @ordinary c rest noQuote noComment =>
    have noBlock : ¬(c = '/' ∧ rest.head? = some '*') := fun h => (noComment h.1).2 h.2
    have noLine : ¬(c = '/' ∧ rest.head? = some '/') := fun h => (noComment h.1).1 h.2
    obtain ⟨noDouble, noSingle⟩ := not_or.mp noQuote
    simp [stripFrom_cons, move, noBlock, noLine, stateAfterCode, noDouble, noSingle,
      Kind.isComment]
  | closedLiteral opens first =>
    rw [List.cons_append, stripFrom_cons, move_quote opens]
    simp [stripFrom_closedLiteral opens first, Kind.isComment]
  | openLiteral opens never =>
    simp [stripFrom_cons, move_quote opens, stripFrom_openLiteral opens never, Kind.isComment]
  | lineComment oneLine ends =>
    simp [stripFrom_cons, move, stripFrom_line oneLine ends, Kind.isComment]
  | closedBlock first =>
    have passed := stripFrom_closedBlock first rest
    rw [List.append_assoc] at passed
    simp [stripFrom_cons, move, passed, Kind.isComment]
  | openBlock never =>
    simp [stripFrom_cons, move, stripFrom_openBlock never, Kind.isComment]

lemma stripFrom_cut {t : Text} {segments : List Segment} (h : Cut t segments) :
    stripFrom .code t = keptText segments := by
  induction h with
  | nil => rfl
  | @cons kind text rest segments segment _ ih =>
    rw [stripFrom_segment segment, ih]
    cases kind <;> simp [keptText, Kind.isComment]

/-- A text can be cut into segments in exactly one way, and without its comments it is made of the
segments that are no comments. -/
theorem strip_eq_keptText (t : Text) :
    (∃! segments, Cut t segments) ∧ ∀ segments, Cut t segments → strip t = keptText segments := by
  obtain ⟨segments, cut⟩ := exists_cut t
  constructor
  · refine ⟨segments, cut, ?_⟩
    intro others cut'
    exact cut'.unique cut
  · intro others cut'
    exact stripFrom_cut cut'

end TreeDump.Comment
