import Mathlib.Tactic.Common
import TreeDump.Encoding.SingleByte
import TreeDump.Proofs.Encoding.Sequences

/-!
# One byte a character, in both directions

In Latin-1 every byte has a character, and in code page 1252 all but five have one. In both the
character of a byte is written as that byte again.
-/

namespace TreeDump

lemma Latin1.encodeChar?_decodeByte (b : UInt8) : encodeChar? (decodeByte b) = some b := by
  have small : b.toNat < 0x100 := b.toNat_lt
  have value : (decodeByte b).toNat = b.toNat :=
    toNat_ofNat_of_isValidChar (.inl (by omega))
  rw [encodeChar?, if_pos (by omega), value, UInt8.ofNat_toNat]

namespace Cp1252

/-- The bytes that stand for no character. -/
def unassigned : List UInt8 := [0x81, 0x8d, 0x8f, 0x90, 0x9d]

lemma decodeByte?_eq_none_iff {b : UInt8} : decodeByte? b = none ↔ b ∈ unassigned := by
  have all : ∀ n < 0x100, decodeByte? (UInt8.ofNat n) = none ↔ UInt8.ofNat n ∈ unassigned := by
    decide +kernel
  simpa using all b.toNat b.toNat_lt

lemma encodeChar?_of_decodeByte? {b : UInt8} {c : Char} (h : decodeByte? b = some c) :
    encodeChar? c = some b := by
  have all : ∀ n < 0x100, (decodeByte? (UInt8.ofNat n)).all
      fun c => encodeChar? c = some (UInt8.ofNat n) := by
    decide +kernel
  simpa [h] using all b.toNat b.toNat_lt

lemma decode?_cons (b : UInt8) (bytes : Bytes) :
    decode? (b :: bytes) = (decodeByte? b).bind fun c => (decode? bytes).map (c :: ·) := by
  rw [decode?, List.mapM_cons]
  cases decodeByte? b with
  | none => rfl
  | some c => cases h : bytes.mapM decodeByte? <;> simp [decode?, h]

lemma decode?_eq_none_iff {bytes : Bytes} :
    decode? bytes = none ↔ ∃ b ∈ bytes, b ∈ unassigned := by
  simp only [← decodeByte?_eq_none_iff]
  induction bytes with
  | nil => simp [decode?]
  | cons b bytes ih =>
    rw [decode?_cons]
    cases h : decodeByte? b <;> simp [h, ih]

end Cp1252

end TreeDump
