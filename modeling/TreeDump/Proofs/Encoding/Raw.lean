import Mathlib.Tactic.Common
import TreeDump.Encoding.Raw
import TreeDump.Proofs.Encoding.Sequences

/-!
# Raw texts

A raw text without surrogates is a text, and is written as one. One that has a surrogate is not
written at all. Different raw texts are spelled differently, so that paths may be compared by their
spellings.
-/

namespace TreeDump

namespace RawText

lemma text?_eq_some_iff {raw : RawText} {t : Text} : raw.text? = some t ↔ raw = ofText t := by
  induction raw generalizing t with
  | nil => cases t <;> simp [text?, ofText]
  | cons first raw ih =>
    cases first with
    | char c =>
      rw [text?, Option.map_eq_some_iff]
      cases t with
      | nil => simp [ofText]
      | cons d t =>
        rw [ofText, List.map_cons, List.cons.injEq, RawChar.char.injEq, ← ofText, ← ih]
        grind
    | surrogate unit isSurrogate => cases t <;> simp [text?, ofText]

@[simp] lemma text?_ofText (t : Text) : (ofText t).text? = some t :=
  text?_eq_some_iff.mpr rfl

lemma eq_ofText {raw : RawText} {t : Text} (isText : raw.text? = some t) : raw = ofText t :=
  text?_eq_some_iff.mp isText

lemma char_mem_ofText {c : Char} {t : Text} : RawChar.char c ∈ ofText t ↔ c ∈ t := by
  simp [ofText]

/-- Behind whatever it stands, a surrogate keeps a raw text from being a text. -/
lemma text?_append_eq_none (raw : RawText) {more : RawText} (noText : more.text? = none) :
    (raw ++ more).text? = none := by
  induction raw with
  | nil => exact noText
  | cons first raw ih => cases first <;> simp [text?, ih]

lemma text?_append_eq_none_left {raw : RawText} (more : RawText) (noText : raw.text? = none) :
    (raw ++ more).text? = none := by
  induction raw with
  | nil => cases noText
  | cons first raw ih =>
    cases first with
    | char c =>
      rw [text?, Option.map_eq_none_iff] at noText
      simp [text?, ih noText]
    | surrogate unit isSurrogate => rfl

end RawText

/-! ### Spelling -/

namespace RawChar

lemma toNat_ofNat_surrogate {unit : Nat} (isSurrogate : 0xd800 ≤ unit ∧ unit < 0xe000) :
    (Char.ofNat (unit - 0xc800)).toNat = unit - 0xc800 :=
  toNat_ofNat_of_isValidChar (.inl (by omega))

lemma ofNat_surrogate_ne_null {unit : Nat} (isSurrogate : 0xd800 ≤ unit ∧ unit < 0xe000) :
    Char.ofNat (unit - 0xc800) ≠ '\x00' := by
  intro null
  have number := toNat_ofNat_surrogate isSurrogate
  rw [null] at number
  change 0 = unit - 0xc800 at number
  omega

/-- No spelling is the start of another. -/
lemma spelled_append_inj {a b : RawChar} {s t : Text} (h : a.spelled ++ s = b.spelled ++ t) :
    a = b ∧ s = t := by
  match a, b with
  | .char c, .char d => grind [spelled]
  | .char c, .surrogate unit isSurrogate => grind [spelled, ofNat_surrogate_ne_null]
  | .surrogate unit isSurrogate, .char d => grind [spelled, ofNat_surrogate_ne_null]
  | .surrogate unit isSurrogate, .surrogate other isSurrogate' =>
    simp only [spelled, List.cons_append, List.nil_append, List.cons.injEq, true_and] at h
    have same := congrArg Char.toNat h.1
    rw [toNat_ofNat_surrogate isSurrogate, toNat_ofNat_surrogate isSurrogate'] at same
    obtain rfl : unit = other := by omega
    exact ⟨rfl, h.2⟩

lemma spelled_ne_nil (c : RawChar) : c.spelled ≠ [] := by
  cases c <;> grind [spelled]

end RawChar

namespace RawText

/-- Different raw texts are spelled differently. -/
theorem spelled_injective : Function.Injective spelled := by
  intro a
  induction a with
  | nil =>
    intro b same
    cases b with
    | nil => rfl
    | cons first b => exact absurd (List.append_eq_nil_iff.mp same.symm).1 first.spelled_ne_nil
  | cons first a ih =>
    intro b same
    cases b with
    | nil => exact absurd (List.append_eq_nil_iff.mp same).1 first.spelled_ne_nil
    | cons other b =>
      obtain ⟨rfl, rest⟩ := RawChar.spelled_append_inj same
      rw [ih rest]

theorem spelled_ofText {t : Text} (noNull : '\x00' ∉ t) : (ofText t).spelled = t := by
  induction t with
  | nil => rfl
  | cons c t ih =>
    obtain ⟨first, rest⟩ := not_or.mp (mt List.mem_cons.mpr noNull)
    have single : RawChar.spelled (.char c) = [c] := if_neg (Ne.symm first)
    change RawChar.spelled (.char c) ++ (ofText t).spelled = c :: t
    rw [single, ih rest]
    rfl

end RawText

/-! ### Encoding -/

namespace Utf8

lemma encodeFrom_ofText (position : Nat) (t : Text) :
    encodeFrom position (.ofText t) = .ok (encode t) := by
  induction t generalizing position with
  | nil => rfl
  | cons c t ih =>
    change (String.utf8EncodeChar c ++ ·) <$> encodeFrom (position + 1) (.ofText t) = _
    rw [ih]
    rfl

@[simp] lemma encodeRaw_ofText (t : Text) : encodeRaw (.ofText t) = .ok (encode t) :=
  encodeFrom_ofText 0 t

/-- What holds a surrogate is not written at all. -/
lemma exists_encodeFrom_eq_error {raw : RawText} (noText : raw.text? = none) (position : Nat) :
    ∃ e, encodeFrom position raw = .error e := by
  induction raw generalizing position with
  | nil => cases noText
  | cons first raw ih =>
    cases first with
    | surrogate unit isSurrogate => exact ⟨_, rfl⟩
    | char c =>
      rw [RawText.text?, Option.map_eq_none_iff] at noText
      obtain ⟨e, failed⟩ := ih noText (position + 1)
      exact ⟨e, by rw [encodeFrom, failed]; rfl⟩

end Utf8

end TreeDump
