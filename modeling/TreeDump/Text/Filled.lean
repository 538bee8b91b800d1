import TreeDump.Text.Basic

/-!
# Filled lines

Words set in lines of a given width, one space apart. A line takes words as long as they fit. A
word that is too long for any line is broken, after a hyphen if there is one in reach.
-/

namespace TreeDump.Text

/-- How many characters of a word that has to be broken go into the given room: those up to the
last hyphen that fits, or all that fit when there is none behind another character. -/
def breakLength (room : Nat) (word : Text) : Nat :=
  let hyphenated := dropEndWhile (· != '-') (word.take room)
  if hyphenated.dropLast.any (· != '-') then hyphenated.length else room

/-- Break a word into at most `count` pieces that fill lines, and a last one. -/
def breakWord (width : Nat) : Nat → Text → List Text × Text
  | 0, word => ([], word)
  | count + 1, word =>
    if word.length ≤ width then ([], word)
    else
      let length := breakLength width word
      let (pieces, last) := breakWord width count (word.drop length)
      (word.take length :: pieces, last)

/-- Go on from `line` with a word that is longer than a line: the lines that get full, and the one
to go on from. A line keeps the space at its end when just that fits. -/
def lineBreaks (width : Nat) (line word : Text) : List Text × Text :=
  if line = [] then breakWord width word.length word
  else
    let (first, rest) :=
      if width ≤ line.length then (line, word)
      else
        let length := breakLength (width - line.length - 1) word
        (line ++ ' ' :: word.take length, word.drop length)
    let (pieces, last) := breakWord width rest.length rest
    (first :: pieces, last)

/-- Fill lines with words, going on from `line`. -/
def fillFrom (width : Nat) (line : Text) : List Text → List Text
  | [] => [line]
  | word :: words =>
    if width < word.length then
      let (full, last) := lineBreaks width line word
      full ++ fillFrom width last words
    else if line = [] then fillFrom width word words
    else if line.length + 1 + word.length ≤ width then
      fillFrom width (line ++ ' ' :: word) words
    else line :: fillFrom width word words

/-- The words of a text in lines of a width. -/
def fill (width : Nat) (t : Text) : List Text :=
  fillFrom width [] ((t.splitOn ' ').filter (· != []))

end TreeDump.Text
