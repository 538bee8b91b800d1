import TreeDump.Text.Basic

/-!
# One byte a character

ASCII, Latin-1, where every byte is its own code point, and Windows code page 1252, which differs
from Latin-1 at the bytes 80 to 9F: most of them are letters and signs, and five are nothing.
-/

namespace TreeDump

namespace Ascii

/-- The byte of a character. -/
def encodeChar? (c : Char) : Option UInt8 :=
  if c.toNat < 0x80 then some (UInt8.ofNat c.toNat) else none

end Ascii

namespace Latin1

/-- The character of a byte. -/
def decodeByte (b : UInt8) : Char :=
  Char.ofNat b.toNat

/-- The byte of a character. -/
def encodeChar? (c : Char) : Option UInt8 :=
  if c.toNat < 0x100 then some (UInt8.ofNat c.toNat) else none

/-- The text of a byte string. -/
def decode (bytes : Bytes) : Text :=
  bytes.map decodeByte

end Latin1

namespace Cp1252

/-- The bytes that differ from Latin-1 and stand for a character. -/
def table : List (UInt8 × Char) :=
  [(0x80, '\u20ac'), (0x82, '\u201a'), (0x83, '\u0192'), (0x84, '\u201e'), (0x85, '\u2026'),
   (0x86, '\u2020'), (0x87, '\u2021'), (0x88, '\u02c6'), (0x89, '\u2030'), (0x8a, '\u0160'),
   (0x8b, '\u2039'), (0x8c, '\u0152'), (0x8e, '\u017d'), (0x91, '\u2018'), (0x92, '\u2019'),
   (0x93, '\u201c'), (0x94, '\u201d'), (0x95, '\u2022'), (0x96, '\u2013'), (0x97, '\u2014'),
   (0x98, '\u02dc'), (0x99, '\u2122'), (0x9a, '\u0161'), (0x9b, '\u203a'), (0x9c, '\u0153'),
   (0x9e, '\u017e'), (0x9f, '\u0178')]

/-- Is the byte the same in Latin-1? -/
def isShared (b : UInt8) : Bool :=
  b < 0x80 || 0xa0 ≤ b

/-- The character of a byte, if there is one. -/
def decodeByte? (b : UInt8) : Option Char :=
  if isShared b then some (Latin1.decodeByte b)
  else table.lookup b

/-- The byte of a character, if there is one. -/
def encodeChar? (c : Char) : Option UInt8 :=
  match Latin1.encodeChar? c with
  | some b => if isShared b then some b else none
  | none => (table.find? fun entry => entry.2 = c).map Prod.fst

/-- The text of a byte string, if each byte has a character. -/
def decode? (bytes : Bytes) : Option Text :=
  bytes.mapM decodeByte?

end Cp1252

end TreeDump
