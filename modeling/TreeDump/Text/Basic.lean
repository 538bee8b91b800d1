/-!
# Text

Names, paths, file contents and messages are lists of characters, compared and sorted by code
point. This module holds the few operations on them that lists do not already have.
-/

namespace TreeDump

/-- A text is the list of its characters. -/
abbrev Text := List Char

/-- A byte string. -/
abbrev Bytes := List UInt8

namespace Text

/-! ### Searching -/

/-- Does `part` stand somewhere in the text? -/
def includes (part : Text) : Text → Bool
  | [] => part.isEmpty
  | c :: r => part.isPrefixOf (c :: r) || includes part r

/-- The text before and the text after the first `mark`, if there is one. -/
def cutAt? (mark : Char) : Text → Option (Text × Text)
  | [] => none
  | c :: r =>
    if c = mark then some ([], r)
    else (cutAt? mark r).map fun (before, after) => (c :: before, after)

/-- The text without its longest end whose characters all satisfy `p`. -/
def dropEndWhile (p : Char → Bool) (t : Text) : Text :=
  (t.reverse.dropWhile p).reverse

/-! ### Parts -/

/-- What stands between separators has none of them. -/
theorem not_mem_of_mem_splitOn {separator : Char} {t part : Text}
    (h : part ∈ t.splitOn separator) : separator ∉ part := by
  induction t generalizing part with
  | nil =>
    rw [List.splitOn_nil, List.mem_singleton] at h
    simp [h]
  | cons c t ih =>
    rw [List.splitOn_cons_eq_if_modifyHead] at h
    split at h
    next =>
      rcases List.mem_cons.1 h with rfl | h
      · exact List.not_mem_nil
      · exact ih h
    next hc =>
      obtain ⟨first, rest, split⟩ := List.exists_cons_of_ne_nil (List.splitOn_ne_nil separator t)
      rw [split, List.modifyHead_cons] at h
      rw [split] at ih
      rcases List.mem_cons.1 h with rfl | h
      · rw [List.mem_cons, not_or]
        exact ⟨fun same => hc (beq_iff_eq.2 same.symm), ih List.mem_cons_self⟩
      · exact ih (List.mem_cons_of_mem _ h)

/-! ### Lines -/

/-- The lines between line feeds; a text without one is a single line. -/
def lines (t : Text) : List Text :=
  t.splitOn '\n'

/-- Write CR LF and a CR of its own as LF. -/
def unifyNewlines : Text → Text
  | [] => []
  | '\r' :: '\n' :: r => '\n' :: unifyNewlines r
  | '\r' :: r => '\n' :: unifyNewlines r
  | c :: r => c :: unifyNewlines r

/-! ### Order -/

/-- Do two texts come in the order of their code points? A text comes before all that it starts. -/
def inOrder : Text → Text → Bool
  | [], _ => true
  | _ :: _, [] => false
  | c :: s, d :: t => c.toNat < d.toNat || (c = d && inOrder s t)

/-- Sort by code points, keeping repetitions. -/
def sort (ts : List Text) : List Text :=
  ts.mergeSort inOrder

/-- Keep one of each run of equal neighbours. -/
def dropRepeats : List Text → List Text
  | a :: b :: r => if a = b then dropRepeats (b :: r) else a :: dropRepeats (b :: r)
  | ts => ts

/-- The different texts of a list, sorted by code points. -/
def sortDistinct (ts : List Text) : List Text :=
  dropRepeats (sort ts)

/-! ### Numbers -/

/-- A number in decimal digits. -/
def ofNat (n : Nat) : Text :=
  Nat.toDigits 10 n

/-- A number in decimal digits, with a minus sign when it is negative. -/
def ofInt (n : Int) : Text :=
  if n < 0 then '-' :: ofNat n.natAbs else ofNat n.natAbs

/-- A number in at least `width` lower-case hexadecimal digits. -/
def ofHex (width n : Nat) : Text :=
  let digits := Nat.toDigits 16 n
  List.replicate (width - digits.length) '0' ++ digits

/-- Put a comma before every third character counted from the end. -/
private def commas : Text → Text
  | a :: b :: c :: d :: r => a :: b :: c :: ',' :: commas (d :: r)
  | t => t

/-- A number in decimal digits, with a comma before each full group of three. -/
def ofNatGrouped (n : Nat) : Text :=
  (commas (ofNat n).reverse).reverse

end Text

end TreeDump
