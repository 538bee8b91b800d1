import TreeDump.Text.Basic

/-!
# Bytes that stand for no text

Why a byte string is not well formed in an encoding, and at which bytes that shows.
-/

namespace TreeDump

/-- The order of the two bytes of a UTF-16 unit. -/
inductive ByteOrder
  | little
  | big
  deriving DecidableEq, Repr

/-- The encodings whose errors are reported. -/
inductive Codec
  | utf8
  | utf16 (order : ByteOrder)
  deriving DecidableEq, Repr

/-- The name of the encoding in messages. -/
def Codec.name : Codec → Text
  | .utf8 => "utf-8".toList
  | .utf16 .little => "utf-16-le".toList
  | .utf16 .big => "utf-16-be".toList

/-- What is wrong with the bytes. -/
inductive DecodeFault
  | invalidStart
  | invalidContinuation
  | unexpectedEnd
  | truncated
  | loneHighSurrogate
  | loneLowSurrogate
  deriving DecidableEq, Repr

/-- The wording of a fault. -/
def DecodeFault.message : DecodeFault → Text
  | .invalidStart => "invalid start byte".toList
  | .invalidContinuation => "invalid continuation byte".toList
  | .unexpectedEnd => "unexpected end of data".toList
  | .truncated => "truncated data".toList
  | .loneHighSurrogate => "illegal UTF-16 surrogate".toList
  | .loneLowSurrogate => "illegal encoding".toList

/-- A fault, with the first byte concerned, its position and the number of bytes concerned. -/
structure DecodeError where
  codec : Codec
  position : Nat
  firstByte : UInt8
  width : Nat
  fault : DecodeFault
  deriving DecidableEq, Repr

/-- The wording of a decoding error. -/
def DecodeError.message (e : DecodeError) : Text :=
  let place :=
    if e.width = 1 then
      "byte 0x".toList ++ Text.ofHex 2 e.firstByte.toNat ++ " in position ".toList
        ++ Text.ofNat e.position
    else
      "bytes in position ".toList ++ Text.ofNat e.position ++ "-".toList
        ++ Text.ofNat (e.position + e.width - 1)
  "'".toList ++ e.codec.name ++ "' codec can't decode ".toList ++ place ++ ": ".toList
    ++ e.fault.message

end TreeDump
