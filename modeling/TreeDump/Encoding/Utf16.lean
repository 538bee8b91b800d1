import TreeDump.Encoding.DecodeError

/-!
# UTF-16

Text as units of two bytes in either order. A character beyond the first 2^16 is a high surrogate
followed by a low one, and surrogates stand for nothing else.
-/

namespace TreeDump.Utf16

/-- The two bytes of a unit. -/
def unitBytes (order : ByteOrder) (unit : Nat) : Bytes :=
  let high := UInt8.ofNat (unit / 0x100)
  let low := UInt8.ofNat (unit % 0x100)
  match order with
  | .little => [low, high]
  | .big => [high, low]

/-- The unit of two bytes. -/
def unit (order : ByteOrder) (a b : UInt8) : Nat :=
  match order with
  | .little => b.toNat * 0x100 + a.toNat
  | .big => a.toNat * 0x100 + b.toNat

/-- The bytes of a character. -/
def encodeChar (order : ByteOrder) (c : Char) : Bytes :=
  if c.toNat < 0x10000 then unitBytes order c.toNat
  else
    let rest := c.toNat - 0x10000
    unitBytes order (0xd800 + rest / 0x400) ++ unitBytes order (0xdc00 + rest % 0x400)

/-- The bytes of a text. -/
def encode (order : ByteOrder) (t : Text) : Bytes :=
  t.flatMap (encodeChar order)

/-- The mark that shows the byte order. -/
def mark (order : ByteOrder) : Bytes :=
  unitBytes order 0xfeff

/-- Is the unit the first of a pair? -/
def isHighSurrogate (unit : Nat) : Bool :=
  0xd800 ≤ unit && unit < 0xdc00

/-- Is the unit the second of a pair? -/
def isLowSurrogate (unit : Nat) : Bool :=
  0xdc00 ≤ unit && unit < 0xe000

/-- The character of a pair of surrogates. -/
def pairChar (high low : Nat) : Char :=
  Char.ofNat (0x10000 + (high - 0xd800) * 0x400 + (low - 0xdc00))

/-- The text of some bytes, the first of which stands at `position`. A high surrogate without a
whole unit after it takes all that is left into the error. -/
def decodeFrom (order : ByteOrder) (position : Nat) : Bytes → Except DecodeError Text
  | [] => .ok []
  | [a] => .error ⟨.utf16 order, position, a, 1, .truncated⟩
  | a :: b :: r =>
    if isHighSurrogate (unit order a b) then
      match r with
      | [] => .error ⟨.utf16 order, position, a, 2, .unexpectedEnd⟩
      | [_] => .error ⟨.utf16 order, position, a, 3, .unexpectedEnd⟩
      | c :: d :: r' =>
        if isLowSurrogate (unit order c d) then
          (pairChar (unit order a b) (unit order c d) :: ·) <$> decodeFrom order (position + 4) r'
        else .error ⟨.utf16 order, position, a, 2, .loneHighSurrogate⟩
    else if isLowSurrogate (unit order a b) then
      .error ⟨.utf16 order, position, a, 2, .loneLowSurrogate⟩
    else (Char.ofNat (unit order a b) :: ·) <$> decodeFrom order (position + 2) r

/-- The byte order that a leading mark shows, and the bytes after it. -/
def cutMark? : Bytes → Option (ByteOrder × Bytes)
  | 0xff :: 0xfe :: r => some (.little, r)
  | 0xfe :: 0xff :: r => some (.big, r)
  | _ => none

end TreeDump.Utf16
