import Mathlib.Data.List.Basic
import Mathlib.Data.List.Induction
import Mathlib.Tactic.Common
import TreeDump.Json.Reader

/-!
# Objects as they are written

The fields of an object may be written under one name more than once. The reader collects them, and
of the fields of one name the last one counts.
-/

namespace TreeDump.Json

variable {t rest : Text} {fields : List (JsonString × Json)}

/-! ### Collecting fields -/

lemma lookup_cons_eq_ite (key : JsonString) (field : JsonString × Json)
    (fields : List (JsonString × Json)) :
    (field :: fields).lookup key = if key = field.1 then some field.2 else fields.lookup key := by
  rw [List.lookup_cons]
  by_cases h : key = field.1
  · rw [if_pos h, beq_iff_eq.mpr h]
  · rw [if_neg h, beq_eq_false_iff_ne.mpr h]

lemma lookup_putField (key other : JsonString) (value : Json) (fields : List (JsonString × Json)) :
    (putField key value fields).lookup other
      = if other = key then some value else fields.lookup other := by
  induction fields with
  | nil => rw [putField, lookup_cons_eq_ite]
  | cons field fields ih =>
    rw [putField, lookup_cons_eq_ite other field]
    split
    next same =>
      rw [lookup_cons_eq_ite, same]
      split <;> rfl
    next differs =>
      rw [lookup_cons_eq_ite, ih]
      by_cases h : other = field.1
      · rw [if_pos h, if_pos h, if_neg (h ▸ differs)]
      · rw [if_neg h, if_neg h]

/-- Of the fields of one name the last one counts. -/
theorem lookup_collectFields (key : JsonString) (fields : List (JsonString × Json)) :
    (collectFields fields).lookup key = fields.reverse.lookup key := by
  rw [collectFields]
  induction fields using List.reverseRecOn with
  | nil => rfl
  | append_singleton fields field ih =>
    rw [List.foldl_append, List.foldl_cons, List.foldl_nil, lookup_putField, ih,
      List.reverse_concat, lookup_cons_eq_ite]

/-! ### Words and numbers -/

lemma readMagnitude_ne_object (negative : Bool) (t : Text) :
    readMagnitude negative t ≠ some (.ok (.object fields, rest)) := by
  intro h
  rw [readMagnitude] at h
  cases whole : wholeDigits? t with
  | none => simp [whole] at h
  | some cut =>
    simp only [whole, Option.bind_eq_bind, Option.bind_some] at h
    split at h
    · split at h <;> cases h
    · cases h

lemma readNumber_ne_object (t : Text) : readNumber t ≠ .ok (.object fields, rest) := by
  have magnitude : ∀ negative r,
      (readMagnitude negative r).getD (.error (.fault .value t)) ≠ .ok (.object fields, rest) := by
    intro negative r
    cases h : readMagnitude negative r with
    | none => simp
    | some number =>
      rintro rfl
      exact readMagnitude_ne_object negative r h
  unfold readNumber
  dsimp only
  split
  · exact magnitude true _
  · exact magnitude false _

lemma readScalar_ne_object (t : Text) : readScalar t ≠ .ok (.object fields, rest) := by
  rw [readScalar]
  split
  next found word =>
    rintro ⟨⟩
    obtain ⟨⟨text, value⟩, isWord, there⟩ := List.exists_of_findSome?_eq_some word
    obtain ⟨r, -, same⟩ := Option.map_eq_some_iff.mp there
    obtain ⟨rfl, rfl⟩ := Prod.mk.inj same
    simp [words] at isWord
  next => exact readNumber_ne_object t

/-! ### Objects -/

/-- The fields that are written in the object at the start of a text, and the text after it. The
numbers bound the steps of the reader and the containers that are open inside of the object. -/
inductive StartsWithObject (n room : Nat) : Text → List (JsonString × Json) → Text → Prop
  | empty {r rest : Text} (closes : skipBlanks r = '\x7d' :: rest) :
    StartsWithObject n room ('\x7b' :: r) [] rest
  | fields {r rest : Text} {written : List (JsonString × Json)}
    (reads : readFields n room (skipBlanks r) = .ok (written, rest)) :
    StartsWithObject n room ('\x7b' :: r) written rest

lemma readFields_brace (n room : Nat) (r : Text) {written : List (JsonString × Json)} :
    readFields n room ('\x7d' :: r) ≠ .ok (written, rest) := by
  cases n <;> simp [readFields]

lemma readValue_eq_object_iff {n room : Nat} :
    readValue (n + 1) (room + 1) t = .ok (.object fields, rest)
      ↔ ∃ written, StartsWithObject n room t written rest ∧ fields = collectFields written := by
  constructor
  · intro h
    unfold readValue at h
    split at h
    next r => cases string : readQuoted r <;> rw [string] at h <;> cases h
    next => cases h
    next r _ same =>
      cases same
      split at h
      next => cases h
      next => cases items : readItems n room (skipBlanks r) <;> rw [items] at h <;> cases h
    next => cases h
    next r _ same =>
      cases same
      split at h
      next closes =>
        cases h
        exact ⟨[], .empty closes, rfl⟩
      next =>
        cases reads : readFields n room (skipBlanks r) with
        | error stop =>
          rw [reads] at h
          cases h
        | ok found =>
          rw [reads] at h
          cases h
          exact ⟨_, .fields reads, rfl⟩
    next => exact absurd h (readScalar_ne_object _)
  · rintro ⟨written, starts, rfl⟩
    cases starts with
    | empty closes =>
      rw [readValue, closes]
      rfl
    | @fields r _ _ reads =>
      rw [readValue]
      split
      next closes => exact absurd (closes ▸ reads) (readFields_brace n room _)
      next =>
        rw [reads]
        rfl

/-- The text is an object between blanks, and these are the fields that are written in it. -/
def IsObjectOf (t : Text) (written : List (JsonString × Json)) : Prop :=
  ∃ rest, StartsWithObject (2 * t.length + 1) (nestingLimit - 1) (skipBlanks t) written rest ∧
    skipBlanks rest = []

/-- A text is read as an object exactly if it is one, with the fields of one name collected. -/
theorem ofText_eq_object_iff :
    ofText t = .ok (.object fields)
      ↔ ∃ written, IsObjectOf t written ∧ fields = collectFields written := by
  have whole : ofText t = .ok (.object fields) ↔ readWhole t = .ok (.object fields) := by
    rw [ofText]
    cases readWhole t <;> simp [Except.mapError]
  rw [whole]
  constructor
  · intro h
    unfold readWhole at h
    split at h
    · cases h
    · cases reads : readValue (2 * t.length + 2) nestingLimit (skipBlanks t) with
      | error stop =>
        rw [reads] at h
        cases h
      | ok found =>
        obtain ⟨value, rest⟩ := found
        rw [reads] at h
        dsimp only [bind, Except.bind] at h
        split at h
        next ends =>
          cases h
          obtain ⟨written, starts, same⟩ := readValue_eq_object_iff.mp reads
          exact ⟨written, ⟨rest, starts, ends⟩, same⟩
        next => cases h
  · rintro ⟨written, ⟨rest, starts, ends⟩, rfl⟩
    have reads := readValue_eq_object_iff.mpr ⟨written, starts, rfl⟩
    have noMark : ¬t.head? = some '\ufeff' := by
      intro mark
      obtain ⟨r, rfl⟩ := List.head?_eq_some_iff.mp mark
      cases starts
    rw [readWhole, if_neg noMark]
    dsimp only
    rw [show nestingLimit = nestingLimit - 1 + 1 from rfl, reads]
    dsimp only [bind, Except.bind]
    rw [ends]
    rfl

end TreeDump.Json
