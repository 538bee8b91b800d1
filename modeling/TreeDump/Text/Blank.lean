import TreeDump.Text.Basic

/-!
# Blanks

The characters that count as white space, trimming, and the normal form of a text in which words
stand one space apart.
-/

namespace TreeDump

/-- The white space of Unicode, with the four information separators U+001C to U+001F. -/
def isBlank (c : Char) : Bool :=
  let n := c.toNat
  (0x09 ≤ n && n ≤ 0x0d) || (0x1c ≤ n && n ≤ 0x20) || n == 0x85 || n == 0xa0 || n == 0x1680
    || (0x2000 ≤ n && n ≤ 0x200a) || n == 0x2028 || n == 0x2029 || n == 0x202f || n == 0x205f
    || n == 0x3000

namespace Text

/-- The text without the blanks at its start. -/
def trimStart (t : Text) : Text :=
  t.dropWhile isBlank

/-- The text without the blanks at its end. -/
def trimEnd (t : Text) : Text :=
  dropEndWhile isBlank t

/-- The text without the blanks at both ends. -/
def trim (t : Text) : Text :=
  trimEnd (trimStart t)

/-- Write every run of blanks as one space; `inRun` says that such a run has been written. -/
def squeezeFrom (inRun : Bool) : Text → Text
  | [] => []
  | c :: r =>
    if isBlank c then
      if inRun then squeezeFrom true r else ' ' :: squeezeFrom true r
    else c :: squeezeFrom false r

/-- Write every run of blanks as one space and trim both ends. -/
def collapseBlanks (t : Text) : Text :=
  trim (squeezeFrom false t)

end Text

end TreeDump
