import TreeDump.Text.Blank
import TreeDump.Text.Printable

/-!
# Integers in texts

A reader for one integer. It takes the digits of any script, single underscores between digits, a
sign before them, and blanks around them.
-/

namespace TreeDump.Text

/-- The most digits that an integer may have. -/
def maxDigits : Nat := 4300

/-- The value of a decimal digit. Every range of them starts with a zero. -/
def digitValue? (c : Char) : Option Nat :=
  decimalDigitRanges.findSome? fun (first, last) =>
    if first ≤ c.toNat ∧ c.toNat ≤ last then some ((c.toNat - first) % 10) else none

/-- The values of digits with single underscores between some of them. -/
def digitValues? : Text → Option (List Nat)
  | [] => none
  | [c] => (digitValue? c).map fun digit => [digit]
  | c :: '_' :: r => do
    let digit ← digitValue? c
    let digits ← digitValues? r
    return digit :: digits
  | c :: r => do
    let digit ← digitValue? c
    let digits ← digitValues? r
    return digit :: digits

/-- The number with the given digits, unless there are too many. -/
def natOfDigits? (digits : List Nat) : Option Nat :=
  if maxDigits < digits.length then none
  else some (digits.foldl (fun n digit => n * 10 + digit) 0)

/-- Is the character a blank that may stand beside an integer? The information separators may
not. -/
def isMargin (c : Char) : Bool :=
  isBlank c && !(0x1c ≤ c.toNat && c.toNat ≤ 0x1f)

/-- The integer that a text spells. -/
def toInt? (t : Text) : Option Int :=
  match dropEndWhile isMargin (t.dropWhile isMargin) with
  | '-' :: r => ((digitValues? r).bind natOfDigits?).map fun n => -(n : Int)
  | '+' :: r => ((digitValues? r).bind natOfDigits?).map Int.ofNat
  | r => ((digitValues? r).bind natOfDigits?).map Int.ofNat

end TreeDump.Text
