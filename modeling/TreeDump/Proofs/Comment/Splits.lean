import Mathlib.Data.List.Chain
import TreeDump.Proofs.Comment.Moves
import TreeDump.Proofs.Comment.Segments

/-!
# Scanning a text in two parts

The scan of a text in two parts is the scan of the first part and, from the state in which that
ends, the scan of the second, unless the boundary goes through one of the marks `//`, `/*` and `*/`;
then it is not. A comment that is inserted between two parts, where code ends the first, leaves no
trace in what is kept.
-/

namespace TreeDump.Comment

/-! ### The boundary -/

/-- Does the scan of `t` from state `s` end by copying a slash as code? -/
def EndsInSlash (s : State) (t : Text) : Prop :=
  (scan s t).getLast? = some ⟨.code, '/', .keep .code⟩

/-- Does the scan of `t` from state `s` end by passing over a star inside of a block comment? -/
def EndsInStar (s : State) (t : Text) : Prop :=
  (scan s t).getLast? = some ⟨.blockComment, '*', .skip .blockComment⟩

instance (s : State) (t : Text) : Decidable (EndsInSlash s t) :=
  inferInstanceAs (Decidable (_ = _))

instance (s : State) (t : Text) : Decidable (EndsInStar s t) :=
  inferInstanceAs (Decidable (_ = _))

/-- Does the boundary between two texts go through a mark that the scanner reads as a whole? -/
def SplitsMark (s : State) (a b : Text) : Prop :=
  EndsInSlash s a ∧ (b.head? = some '/' ∨ b.head? = some '*') ∨
    EndsInStar s a ∧ b.head? = some '/'

variable {s next : State} {c : Char} {a b r : Text}

/-- A boundary that goes through no mark does not after the first move either. -/
lemma not_splitsMark_of_step {step : Step} (steps : scan s a = step :: scan next r)
    (whole : ¬SplitsMark s a b) : ¬SplitsMark next r b := by
  have last : ∀ final, (scan next r).getLast? = some final → (scan s a).getLast? = some final := by
    intro final h
    rw [steps, List.getLast?_cons, h, Option.getD_some]
  intro splits
  apply whole
  rcases splits with ⟨slash, ahead⟩ | ⟨star, ahead⟩
  · exact .inl ⟨last _ slash, ahead⟩
  · exact .inr ⟨last _ star, ahead⟩

/-- A text that goes on behind such a boundary changes no move before it. -/
lemma move_append (whole : ¬SplitsMark s (c :: r) b) :
    move s c (r ++ b).head? = move s c r.head? := by
  cases r with
  | cons d r => rfl
  | nil =>
    cases s with
    | doubleQuoted | singleQuoted | lineComment => rfl
    | code =>
      have noMark : c = '/' → b.head? ≠ some '/' ∧ b.head? ≠ some '*' := by
        rintro rfl
        rw [← not_or]
        exact fun ahead => whole (.inl ⟨by decide +kernel, ahead⟩)
      have alone : move .code c none = .keep (stateAfterCode c) :=
        move_code_eq_keep_iff.mpr ⟨fun _ => ⟨nofun, nofun⟩, rfl⟩
      exact (move_code_eq_keep_iff.mpr ⟨noMark, rfl⟩).trans alone.symm
    | blockComment =>
      have noMark : ¬(c = '*' ∧ b.head? = some '/') := by
        rintro ⟨rfl, ahead⟩
        exact whole (.inr ⟨by decide +kernel, ahead⟩)
      simp [move, noMark]

/-- Two parts are scanned one after the other when no mark is split between them. -/
lemma scan_append (whole : ¬SplitsMark s a b) :
    scan s (a ++ b) = scan s a ++ scan (stateAfter s a) b := by
  induction s, a using scan_induction with
  | nil s => rfl
  | keep s c r next h ih =>
    have steps := scan_of_keep h
    have h' : move s c (r ++ b).head? = .keep next := (move_append whole).trans h
    rw [List.cons_append, scan_of_keep h', ih (not_splitsMark_of_step steps whole), steps,
      stateAfter_of_step steps]
    rfl
  | skip s c r next h ih =>
    have steps := scan_of_skip h
    have h' : move s c (r ++ b).head? = .skip next := (move_append whole).trans h
    rw [List.cons_append, scan_of_skip h', ih (not_splitsMark_of_step steps whole), steps,
      stateAfter_of_step steps]
    rfl
  | skipTwo s c d r next h ih =>
    have steps := scan_of_skipTwo (r := r) h
    rw [List.cons_append, List.cons_append, scan_of_skipTwo h,
      ih (not_splitsMark_of_step steps whole), steps, stateAfter_of_step steps]
    rfl

lemma kept_append (whole : ¬SplitsMark s a b) :
    kept s (a ++ b) = kept s a ++ kept (stateAfter s a) b := by
  rw [kept, scan_append whole, List.filterMap_append]
  rfl

lemma stripFrom_append (whole : ¬SplitsMark s a b) :
    stripFrom s (a ++ b) = stripFrom s a ++ stripFrom (stateAfter s a) b := by
  rw [stripFrom, kept_append whole, List.map_append]
  rfl

lemma stateAfter_append (whole : ¬SplitsMark s a b) :
    stateAfter s (a ++ b) = stateAfter (stateAfter s a) b := by
  rw [stateAfter, scan_append whole, List.foldl_append]
  rfl

/-! ### Inserted comments -/

/-- Where code ends a text, but not with a slash, anything may follow. -/
lemma not_splitsMark_of_code (code : stateAfter s a = .code) (noSlash : ¬EndsInSlash s a)
    (b : Text) : ¬SplitsMark s a b := by
  rintro (⟨slash, -⟩ | ⟨star, -⟩)
  · exact noSlash slash
  · rw [stateAfter_of_getLast? star] at code
    cases code

/-- A text that does not hold the end of a block comment does not with a star after it either. -/
lemma not_blockEnd_infix_concat {c : Text} (h : ¬blockEnd <:+: c) : ¬blockEnd <:+: c ++ ['*'] := by
  rw [List.infix_concat_iff]
  rintro (inside | inside)
  · simpa [blockEnd] using inside.getLast (by simp [blockEnd])
  · exact h inside

/-- A comment leaves no trace where it is inserted behind code: a block comment before anything, and
a line comment before the end of the line. -/
theorem strip_insert_comment (a b c : Text) (code : stateAfter .code a = .code)
    (noSlash : ¬EndsInSlash .code a) :
    (¬blockEnd <:+: c → strip (a ++ ('/' :: '*' :: (c ++ blockEnd)) ++ b) = strip (a ++ b)) ∧
      ((∀ d ∈ c, ¬IsLineEnd d) → (∀ d ∈ b.head?, IsLineEnd d) →
        strip (a ++ ('/' :: '/' :: c) ++ b) = strip (a ++ b)) := by
  have parts : ∀ t, strip (a ++ t) = strip a ++ strip t := by
    intro t
    rw [strip, stripFrom_append (not_splitsMark_of_code code noSlash t), code]
    rfl
  constructor
  · intro noEnd
    have comment : IsSegment .blockComment ('/' :: '*' :: (c ++ blockEnd)) b :=
      .closedBlock (not_blockEnd_infix_concat noEnd)
    rw [List.append_assoc, parts, parts]
    exact congrArg _ (stripFrom_segment comment)
  · intro oneLine ends
    have comment : IsSegment .lineComment ('/' :: '/' :: c) b := .lineComment oneLine ends
    rw [List.append_assoc, parts, parts]
    exact congrArg _ (stripFrom_segment comment)

/-- Code that ends right behind a comment, with a slash that is not copied. -/
def sampleCode : Text := "a / b \"//\"/**/".toList

/-- What a comment may say: a quote, marks of comments, and half of an end. -/
def sampleRemark : Text := " ' // /* \" *".toList

theorem strip_insert_comment_sampleCode :
    stateAfter .code sampleCode = .code ∧ ¬EndsInSlash .code sampleCode ∧
      ¬blockEnd <:+: sampleRemark ∧ (∀ d ∈ sampleRemark, ¬IsLineEnd d) ∧
      (∀ d ∈ "\n/ c".toList.head?, IsLineEnd d) ∧
      strip (sampleCode ++ ('/' :: '*' :: (sampleRemark ++ blockEnd)) ++ "\n/ c".toList)
        = "a / b \"//\"\n/ c".toList ∧
      strip (sampleCode ++ ('/' :: '/' :: sampleRemark) ++ "\n/ c".toList)
        = "a / b \"//\"\n/ c".toList := by
  have code : stateAfter .code sampleCode = .code := by decide +kernel
  have noSlash : ¬EndsInSlash .code sampleCode := by decide +kernel
  have noEnd : ¬blockEnd <:+: sampleRemark := by decide +kernel
  have oneLine : ∀ d ∈ sampleRemark, ¬IsLineEnd d := by
    rintro d mem (rfl | rfl) <;> exact absurd mem (by decide)
  have ends : ∀ d ∈ "\n/ c".toList.head?, IsLineEnd d := by
    rintro d ⟨⟩
    exact .inr rfl
  have without : strip (sampleCode ++ "\n/ c".toList) = "a / b \"//\"\n/ c".toList := by
    decide +kernel
  obtain ⟨block, line⟩ := strip_insert_comment sampleCode "\n/ c".toList sampleRemark code noSlash
  exact ⟨code, noSlash, noEnd, oneLine, ends, (block noEnd).trans without,
    (line oneLine ends).trans without⟩

/-! ### No other boundary -/

/-- A step that passes over no second character is made with the character of the next step
ahead. -/
def Step.SeesNext (first second : Step) : Prop :=
  (∀ next, first.move ≠ .skipTwo next) →
    Comment.move first.state first.char (some second.char) = first.move

lemma head?_scan (s : State) (t : Text) : (scan s t).head?.map Step.char = t.head? := by
  cases t with
  | nil => rfl
  | cons c r =>
    rw [scan]
    rfl

lemma isChain_scan (s : State) (t : Text) : (scan s t).IsChain Step.SeesNext := by
  have sees : ∀ {s c r next} {m : Move}, move s c r.head? = m →
      ∀ second ∈ (scan next r).head?, Step.SeesNext ⟨s, c, m⟩ second := by
    intro s c r next m h second first _
    have ahead := head?_scan next r
    rw [Option.mem_def.mp first, Option.map_some] at ahead
    exact (congrArg _ ahead).trans h
  induction s, t using scan_induction with
  | nil s => exact .nil
  | keep s c r next h ih =>
    rw [scan_of_keep h]
    exact List.isChain_cons.mpr ⟨sees h, ih⟩
  | skip s c r next h ih =>
    rw [scan_of_skip h]
    exact List.isChain_cons.mpr ⟨sees h, ih⟩
  | skipTwo s c d r next h ih =>
    rw [scan_of_skipTwo h]
    exact List.isChain_cons.mpr ⟨fun second _ two => absurd rfl (two next), ih⟩

/-- A boundary that splits a mark shows in the scan: the mark is read as a whole there. -/
lemma not_splitsMark_of_scan (h : scan s (a ++ b) = scan s a ++ scan (stateAfter s a) b) :
    ¬SplitsMark s a b := by
  have chain := isChain_scan s (a ++ b)
  rw [h, List.isChain_append] at chain
  have sees : ∀ {last d}, (scan s a).getLast? = some last → b.head? = some d →
      (∀ next, last.move ≠ .skipTwo next) → move last.state last.char (some d) = last.move := by
    intro last d atEnd ahead
    rw [← head?_scan (stateAfter s a), Option.map_eq_some_iff] at ahead
    obtain ⟨first, atStart, rfl⟩ := ahead
    exact chain.2.2 last atEnd first atStart
  rintro (⟨slash, ahead | ahead⟩ | ⟨star, ahead⟩)
  · simpa [move] using sees slash ahead (by simp)
  · simpa [move] using sees slash ahead (by simp)
  · simpa [move] using sees star ahead (by simp)

/-! ### Ends of lines -/

/-- The end of a line is copied by code and by a line comment, and code goes on behind it. -/
lemma stripFrom_lineEnd {n : Char} (lineEnd : IsLineEnd n)
    (copies : s = .code ∨ s = .lineComment) (b : Text) : stripFrom s (n :: b) = n :: strip b := by
  have code : stripFrom .code (n :: b) = n :: strip b := by
    have single : IsSegment .ordinary [n] b := by
      rcases lineEnd with rfl | rfl <;> exact .ordinary (by simp [IsQuote]) (by simp)
    exact stripFrom_segment single
  rcases copies with rfl | rfl
  · exact code
  · have noLine : ∀ c ∈ ([] : Text), ¬IsLineEnd c := List.forall_mem_nil _
    have ends : ∀ c ∈ (n :: b).head?, IsLineEnd c := by simpa using lineEnd
    exact (stripFrom_line noLine ends).trans code

/-- The scan of a text in two parts is made of the scans of the parts exactly if the boundary goes
through no mark. Then what is kept and the last state are those of the second part, scanned from the
state in which the first part ends. The end of a line, in code or in a line comment, parts a text
into two that are scanned each for itself. -/
theorem scan_in_parts (s : State) (a b : Text) :
    (scan s (a ++ b) = scan s a ++ scan (stateAfter s a) b ↔ ¬SplitsMark s a b) ∧
      (¬SplitsMark s a b →
        stripFrom s (a ++ b) = stripFrom s a ++ stripFrom (stateAfter s a) b ∧
          stateAfter s (a ++ b) = stateAfter (stateAfter s a) b) ∧
      ∀ n, IsLineEnd n → stateAfter s a = .code ∨ stateAfter s a = .lineComment →
        stripFrom s (a ++ n :: b) = stripFrom s a ++ n :: strip b := by
  refine ⟨⟨not_splitsMark_of_scan, scan_append⟩, fun whole => ?_, ?_⟩
  · exact ⟨stripFrom_append whole, stateAfter_append whole⟩
  · intro n lineEnd copies
    have whole : ¬SplitsMark s a (n :: b) := by
      rcases lineEnd with rfl | rfl <;> simp [SplitsMark]
    rw [stripFrom_append whole, stripFrom_lineEnd lineEnd copies]

/-- Behind a comment nothing is split by a star, and behind a line comment by the rest of a
newline. -/
theorem scan_in_parts_sampleCode :
    ¬SplitsMark .code sampleCode "* b".toList ∧
      strip (sampleCode ++ "* b".toList) = "a / b \"//\"* b".toList ∧
      stateAfter .code "x // /*".toList = .lineComment ∧
      strip ("x // /*".toList ++ '\r' :: "\n// y".toList) = "x \r\n".toList := by
  have whole : ¬SplitsMark .code sampleCode "* b".toList :=
    not_splitsMark_of_code (by decide +kernel) (by decide +kernel) _
  have line : stateAfter .code "x // /*".toList = .lineComment := by decide +kernel
  have parts := ((scan_in_parts .code sampleCode "* b".toList).2.1 whole).1
  have ended :=
    (scan_in_parts .code "x // /*".toList "\n// y".toList).2.2 '\r' (.inl rfl) (.inr line)
  exact ⟨whole, parts.trans (by decide +kernel), line, ended.trans (by decide +kernel)⟩

end TreeDump.Comment
