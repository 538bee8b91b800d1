import TreeDump.Encoding.DecodeError

/-!
# UTF-8

The encoder, and a decoder that accepts exactly the shortest forms of scalar values. A sequence is
given up at the first byte that cannot go on in any well-formed sequence.
-/

namespace TreeDump.Utf8

/-- The bytes of a text. -/
def encode (t : Text) : Bytes :=
  t.flatMap String.utf8EncodeChar

/-- Is the byte of the form `10xxxxxx`? -/
def isContinuation (b : UInt8) : Bool :=
  0x80 ≤ b && b < 0xc0

/-- Can `second` follow the lead byte `lead` of a sequence of three or four bytes? The bounds rule
out longer forms than needed, surrogates, and values above the last code point. -/
def isSecond (lead second : UInt8) : Bool :=
  if lead = 0xe0 then 0xa0 ≤ second && second < 0xc0
  else if lead = 0xed then 0x80 ≤ second && second < 0xa0
  else if lead = 0xf0 then 0x90 ≤ second && second < 0xc0
  else if lead = 0xf4 then 0x80 ≤ second && second < 0x90
  else isContinuation second

/-- The six value bits of a continuation byte. -/
def low (b : UInt8) : Nat :=
  b.toNat % 0x40

/-- The character of a two-byte sequence. -/
def char₂ (a b : UInt8) : Char :=
  Char.ofNat (a.toNat % 0x20 * 0x40 + low b)

/-- The character of a three-byte sequence. -/
def char₃ (a b c : UInt8) : Char :=
  Char.ofNat ((a.toNat % 0x10 * 0x40 + low b) * 0x40 + low c)

/-- The character of a four-byte sequence. -/
def char₄ (a b c d : UInt8) : Char :=
  Char.ofNat (((a.toNat % 0x08 * 0x40 + low b) * 0x40 + low c) * 0x40 + low d)

/-- The error at a sequence that starts with `b` at a position and is given up after `width`
bytes. -/
def error (position : Nat) (b : UInt8) (width : Nat) (fault : DecodeFault) :
    Except DecodeError Text :=
  .error ⟨.utf8, position, b, width, fault⟩

/-- The text of some bytes, the first of which stands at `position`. -/
def decodeFrom (position : Nat) : Bytes → Except DecodeError Text
  | [] => .ok []
  | a :: r₁ =>
    if a < 0x80 then
      (Char.ofNat a.toNat :: ·) <$> decodeFrom (position + 1) r₁
    else if a < 0xc2 then
      error position a 1 .invalidStart
    else if a < 0xe0 then
      match r₁ with
      | [] => error position a 1 .unexpectedEnd
      | b :: r₂ =>
        if isContinuation b then (char₂ a b :: ·) <$> decodeFrom (position + 2) r₂
        else error position a 1 .invalidContinuation
    else if a < 0xf0 then
      match r₁ with
      | [] => error position a 1 .unexpectedEnd
      | b :: r₂ =>
        if isSecond a b then
          match r₂ with
          | [] => error position a 2 .unexpectedEnd
          | c :: r₃ =>
            if isContinuation c then (char₃ a b c :: ·) <$> decodeFrom (position + 3) r₃
            else error position a 2 .invalidContinuation
        else error position a 1 .invalidContinuation
    else if a < 0xf5 then
      match r₁ with
      | [] => error position a 1 .unexpectedEnd
      | b :: r₂ =>
        if isSecond a b then
          match r₂ with
          | [] => error position a 2 .unexpectedEnd
          | c :: r₃ =>
            if isContinuation c then
              match r₃ with
              | [] => error position a 3 .unexpectedEnd
              | d :: r₄ =>
                if isContinuation d then (char₄ a b c d :: ·) <$> decodeFrom (position + 4) r₄
                else error position a 3 .invalidContinuation
            else error position a 2 .invalidContinuation
        else error position a 1 .invalidContinuation
    else error position a 1 .invalidStart

/-- The text of a byte string. -/
def decode (bytes : Bytes) : Except DecodeError Text :=
  decodeFrom 0 bytes

/-- The mark that may come before the bytes of a text. -/
def mark : Bytes := [0xef, 0xbb, 0xbf]

/-- The bytes without a leading mark. -/
def dropMark : Bytes → Bytes
  | 0xef :: 0xbb :: 0xbf :: r => r
  | bytes => bytes

end TreeDump.Utf8
