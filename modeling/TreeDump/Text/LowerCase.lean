import TreeDump.Text.CaseTable

/-!
# Small letters

The full mapping of a text to small letters. It is almost a map over the characters: the dotted
capital I becomes two characters, and a capital sigma is written as a final sigma at the end of a
word.
-/

namespace TreeDump

/-- Characters that do not part a word when the form of a sigma is chosen. -/
def isCaseIgnorable (c : Char) : Bool :=
  inRanges caseIgnorableRanges c.toNat

/-- Characters with a letter case. -/
def isCased (c : Char) : Bool :=
  inRanges casedRanges c.toNat

/-- The small letter of a character that has exactly one, else the character itself. -/
def smallLetter (c : Char) : Char :=
  if c.toNat < 0x80 then c.toLower
  else
    match capitalRuns.find? (·.covers c.toNat) with
    | some run => Char.ofNat (c.toNat + run.shift).toNat
    | none => c

/-- Does a letter come first, once case-ignorable characters are skipped? -/
def meetsCased (t : Text) : Bool :=
  (t.dropWhile isCaseIgnorable).head?.any isCased

/-- The small form of `c`, between the reversed text `before` and the text `after` it. -/
def smallForm (before : Text) (c : Char) (after : Text) : Text :=
  if c = 'Σ' then
    if meetsCased before && !meetsCased after then ['ς'] else ['σ']
  else if c = 'İ' then ['i', '\u0307']
  else [smallLetter c]

namespace Text

/-- The small letters of a text that follows the reversed text `before`. -/
def lowerFrom (before : Text) : Text → Text
  | [] => []
  | c :: r => smallForm before c r ++ lowerFrom (c :: before) r

/-- The text in small letters. -/
def lower (t : Text) : Text :=
  lowerFrom [] t

end Text

end TreeDump
