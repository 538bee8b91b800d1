import TreeDump.Encoding.Utf8

/-!
# Texts with surrogates

What the system hands over need not be text: bytes that are no UTF-8 come as surrogates without
their partners, and an escape of JSON can put one into a string. A raw text has them among its
characters. It cannot be written in UTF-8, and the error names the first surrogates that are in the
way.
-/

namespace TreeDump

/-- A character, or a surrogate that stands there without its partner. -/
inductive RawChar
  | char (c : Char)
  | surrogate (unit : Nat) (isSurrogate : 0xd800 ≤ unit ∧ unit < 0xe000)
  deriving DecidableEq, Repr

/-- A text that may hold surrogates. -/
abbrev RawText := List RawChar

namespace RawText

/-- The raw text with the characters of a text. -/
def ofText (t : Text) : RawText :=
  t.map .char

/-- The text, if there are no surrogates in it. -/
def text? : RawText → Option Text
  | [] => some []
  | .char c :: r => (text? r).map (c :: ·)
  | .surrogate _ _ :: _ => none

end RawText

/-! ### Spelling -/

/-- A character spelled by itself, the null character twice, and a surrogate by a null character
with a character of its own after it. -/
def RawChar.spelled : RawChar → Text
  | .char c => if c = '\x00' then ['\x00', '\x00'] else [c]
  | .surrogate unit _ => ['\x00', Char.ofNat (unit - 0xc800)]

/-- A text that stands for a raw text where paths are cut and compared. It has the same slashes,
points and colons, and different raw texts are spelled differently. -/
def RawText.spelled (raw : RawText) : Text :=
  raw.flatMap RawChar.spelled

/-! ### Encoding -/

/-- Surrogates that cannot be written: where the first one stands, which it is, and how many stand
there one after another. -/
structure EncodeError where
  position : Nat
  unit : Nat
  width : Nat
  deriving DecidableEq, Repr

/-- The wording of an encoding error. -/
def EncodeError.message (e : EncodeError) : Text :=
  let place :=
    if e.width = 1 then
      "character '\\u".toList ++ Text.ofHex 4 e.unit ++ "' in position ".toList
        ++ Text.ofNat e.position
    else
      "characters in position ".toList ++ Text.ofNat e.position ++ "-".toList
        ++ Text.ofNat (e.position + e.width - 1)
  "'utf-8' codec can't encode ".toList ++ place ++ ": surrogates not allowed".toList

namespace Utf8

/-- How many surrogates a raw text starts with. -/
def surrogatesAhead : RawText → Nat
  | .surrogate _ _ :: r => surrogatesAhead r + 1
  | _ => 0

/-- The bytes of a raw text, the first character of which stands at `position`. -/
def encodeFrom (position : Nat) : RawText → Except EncodeError Bytes
  | [] => .ok []
  | .char c :: r => (String.utf8EncodeChar c ++ ·) <$> encodeFrom (position + 1) r
  | .surrogate unit _ :: r => .error ⟨position, unit, surrogatesAhead r + 1⟩

/-- The bytes of a raw text. -/
def encodeRaw (raw : RawText) : Except EncodeError Bytes :=
  encodeFrom 0 raw

end Utf8

end TreeDump
