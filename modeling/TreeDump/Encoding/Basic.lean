import TreeDump.Encoding.Utf8
import TreeDump.Encoding.Utf16
import TreeDump.Encoding.SingleByte

/-!
# Encodings

The ways in which text is written as bytes, and the choice among them when bytes of unknown
encoding are read: a byte order mark decides first, then UTF-8 is tried, then code page 1252, and
Latin-1, which takes any byte, comes last.
-/

namespace TreeDump

/-- The encodings in use. The two of Unicode may carry a mark in front of the text. -/
inductive Encoding
  | ascii
  | latin1
  | cp1252
  | utf8
  | utf16 (order : ByteOrder)
  deriving DecidableEq, Repr

namespace Encoding

/-- The bytes of a character, if the encoding has it. -/
def encodeChar? : Encoding → Char → Option Bytes
  | .ascii, c => (Ascii.encodeChar? c).map ([·])
  | .latin1, c => (Latin1.encodeChar? c).map ([·])
  | .cp1252, c => (Cp1252.encodeChar? c).map ([·])
  | .utf8, c => some (String.utf8EncodeChar c)
  | .utf16 order, c => some (Utf16.encodeChar order c)

/-- The bytes of a text, if the encoding has all its characters. -/
def encode? (e : Encoding) (t : Text) : Option Bytes :=
  (t.mapM e.encodeChar?).map List.flatten

end Encoding

/-- A text read from bytes of unknown encoding. -/
structure Decoded where
  text : Text
  encoding : Encoding
  /-- why the text is not UTF-16, when the bytes start with a mark of UTF-16 -/
  notUtf16 : Option DecodeError

/-- The text of bytes that are not UTF-16. -/
def Decoded.ofBytesOtherThanUtf16 (bytes : Bytes) (notUtf16 : Option DecodeError) : Decoded :=
  match Utf8.decode (Utf8.dropMark bytes) with
  | .ok text => ⟨text, .utf8, notUtf16⟩
  | .error _ =>
    match Cp1252.decode? bytes with
    | some text => ⟨text, .cp1252, notUtf16⟩
    | none => ⟨Latin1.decode bytes, .latin1, notUtf16⟩

/-- Read bytes of unknown encoding. Every byte string has a text. -/
def Decoded.ofBytes (bytes : Bytes) : Decoded :=
  match Utf16.cutMark? bytes with
  | some (order, rest) =>
    match Utf16.decodeFrom order 2 rest with
    | .ok text => ⟨text, .utf16 order, none⟩
    | .error e => .ofBytesOtherThanUtf16 bytes (some e)
  | none => .ofBytesOtherThanUtf16 bytes none

end TreeDump
