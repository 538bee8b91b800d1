import TreeDump.Proofs.Json.Strings
import TreeDump.Proofs.Text.Lines

/-!
# Documents in ASCII

Whatever texts a document holds, it is written in ASCII and without carriage returns. So its lines
are the same wherever it is read.
-/

namespace TreeDump

/-- Is the character in ASCII, and no carriage return? -/
def isPortable (c : Char) : Bool :=
  c.toNat < 0x80 && c != '\r'

lemma isPortable_iff {c : Char} : isPortable c = true ↔ c.toNat < 0x80 ∧ c ≠ '\r' := by
  simp [isPortable]

lemma Text.unifyNewlines_of_portable {t : Text} (h : ∀ c ∈ t, isPortable c = true) :
    t.unifyNewlines = t :=
  unifyNewlines_of_no_return fun mem => (isPortable_iff.mp (h '\r' mem)).2 rfl

namespace Json

lemma isPortable_digitChar {d : Nat} (h : d < 16) : isPortable (Nat.digitChar d) = true := by
  have all : ∀ d : Fin 16, isPortable (Nat.digitChar d) = true := by decide
  exact all ⟨d, h⟩

lemma isPortable_unitEscape {unit : Nat} (h : unit < 0x10000) :
    ∀ c ∈ unitEscape unit, isPortable c = true := by
  rw [unitEscape, ofHex_four h]
  simp only [List.forall_mem_cons, List.not_mem_nil, false_imp_iff, implies_true, and_true]
  refine ⟨by decide, by decide, ?_, ?_, ?_, ?_⟩ <;> exact isPortable_digitChar (by omega)

lemma isPortable_escapeChar (c : Char) : ∀ d ∈ escapeChar c, isPortable d = true := by
  have valid := toNat_valid c
  rw [escapeChar]
  split
  next quoted => rcases quoted with rfl | rfl <;> exact List.all_eq_true.mp rfl
  split
  next => exact List.all_eq_true.mp rfl
  split
  next => exact List.all_eq_true.mp rfl
  split
  next => exact List.all_eq_true.mp rfl
  split
  next => exact List.all_eq_true.mp rfl
  split
  next => exact List.all_eq_true.mp rfl
  split
  next visible =>
    have noReturn : c ≠ '\r' := by
      rintro rfl
      exact absurd visible.1 (by decide)
    simpa using isPortable_iff.mpr ⟨by omega, noReturn⟩
  split
  next unit => exact isPortable_unitEscape unit
  next pair =>
    intro d mem
    rcases List.mem_append.mp mem with mem | mem
    · exact isPortable_unitEscape (by omega) d mem
    · exact isPortable_unitEscape (by omega) d mem

lemma isPortable_printString (t : Text) : ∀ c ∈ printString t, isPortable c = true := by
  intro c mem
  simp only [printString, List.mem_append, List.mem_cons, List.mem_flatMap, List.not_mem_nil,
    or_false] at mem
  obtain (rfl | ⟨d, -, mem⟩) | rfl := mem
  · decide
  · exact isPortable_escapeChar d c mem
  · decide

lemma isPortable_newLine (level : Nat) : ∀ c ∈ newLine level, isPortable c = true := by
  intro c mem
  rcases List.mem_cons.mp mem with rfl | mem
  · decide
  · rw [List.eq_of_mem_replicate mem]
    decide

/-! ### Blocks -/

lemma isPortable_intercalate {separator : Text} {parts : List Text}
    (between : ∀ c ∈ separator, isPortable c = true)
    (inside : ∀ part ∈ parts, ∀ c ∈ part, isPortable c = true) :
    ∀ c ∈ separator.intercalate parts, isPortable c = true := by
  intro c mem
  rcases Text.mem_of_mem_intercalate mem with mem | ⟨part, hpart, mem⟩
  · exact between c mem
  · exact inside part hpart c mem

lemma isPortable_printBlock {opening closing : Char} {parts : List Text} (level : Nat)
    (brackets : isPortable opening = true ∧ isPortable closing = true)
    (inside : ∀ part ∈ parts, ∀ c ∈ part, isPortable c = true) :
    ∀ c ∈ printBlock level opening closing parts, isPortable c = true := by
  obtain ⟨first, last⟩ := brackets
  cases parts with
  | nil => simp [printBlock, first, last]
  | cons part parts =>
    have between : ∀ c ∈ ',' :: newLine (level + 1), isPortable c = true :=
      List.forall_mem_cons.mpr ⟨by decide, isPortable_newLine _⟩
    simp only [printBlock, List.forall_mem_append, List.forall_mem_cons]
    exact ⟨⟨⟨⟨first, isPortable_newLine _⟩, isPortable_intercalate between inside⟩,
      isPortable_newLine _⟩, last, by simp⟩

/-- A document of lists of texts is in ASCII. -/
theorem isPortable_printLists (fields : List (Text × List Text)) :
    ∀ c ∈ printLists fields, isPortable c = true := by
  apply isPortable_printBlock 0 (by decide)
  intro lines mem
  obtain ⟨⟨key, items⟩, -, rfl⟩ := List.mem_map.mp mem
  refine List.forall_mem_append.mpr ⟨List.forall_mem_append.mpr ⟨?_, List.all_eq_true.mp rfl⟩, ?_⟩
  · exact isPortable_printString key
  · apply isPortable_printBlock 1 (by decide)
    intro item mem
    obtain ⟨t, -, rfl⟩ := List.mem_map.mp mem
    exact isPortable_printString t

end Json

end TreeDump
