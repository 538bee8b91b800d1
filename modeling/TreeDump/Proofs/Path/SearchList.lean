import Mathlib.Data.List.Basic
import Mathlib.Data.List.Forall2
import Mathlib.Tactic.Common
import TreeDump.Path.SearchList
import TreeDump.Proofs.Encoding.Raw
import TreeDump.Proofs.Path.Normal

/-!
# Entries of search lists

The entries of a list that goes on behind a separator are those before it and those behind it. A
directory is new to some others when its key is the key of none of them. A list of POSIX paths holds
the directories whose normal form is that of an entry, however directory and entries are spelled.
-/

namespace TreeDump.SearchList

variable (kind : SearchList) {known directories : List Text} {directory : Text}

/-! ### Entries -/

lemma entries_append (value more : Text) :
    kind.entries (value ++ kind.separator :: more) = kind.entries value ++ kind.entries more := by
  rw [entries, List.splitOn_append_cons_self, List.filter_append]
  rfl

lemma entries_nil : kind.entries [] = [] := rfl

lemma entries_eq_singleton (nonempty : directory ≠ []) (whole : kind.separator ∉ directory) :
    kind.entries directory = [directory] := by
  rw [entries, List.splitOn_eq_singleton whole]
  simp [nonempty]

lemma entries_intercalate {parts : List Text} (nonempty : parts ≠ [])
    (whole : ∀ part ∈ parts, kind.separator ∉ part) :
    kind.entries ([kind.separator].intercalate parts) = parts.filter (· != []) := by
  rw [entries, List.splitOn_intercalate _ whole nonempty]

/-! ### What a list holds -/

lemma holds_eq_any_map (value : Text) :
    kind.holds value directory
      = ((kind.entries value).map kind.key).any (· == kind.key directory) := by
  rw [List.any_map]
  rfl

lemma holds_append (value more : Text) :
    kind.holds (value ++ kind.separator :: more) directory
      = (kind.holds value directory || kind.holds more directory) := by
  rw [holds, entries_append, List.any_append]
  rfl

lemma holds_congr {directory' : Text} (same : kind.key directory' = kind.key directory)
    (value : Text) : kind.holds value directory' = kind.holds value directory := by
  rw [holds, same, ← holds]

lemma holds_iff_exists {value : Text} :
    kind.holds value directory = true ↔
      ∃ entry ∈ value.splitOn kind.separator, entry ≠ [] ∧ kind.key entry = kind.key directory := by
  simp [holds, entries]

lemma holds_self (nonempty : directory ≠ []) (whole : kind.separator ∉ directory) :
    kind.holds directory directory = true := by
  simp [holds, kind.entries_eq_singleton nonempty whole]

/-- A list that is joined from a directory and others holds the directory. -/
lemma holds_intercalate (nonempty : directory ≠ []) (whole : kind.separator ∉ directory)
    (before after : List Text) :
    kind.holds ([kind.separator].intercalate (before ++ directory :: after)) directory = true := by
  have self := kind.holds_self nonempty whole
  have first : kind.holds ([kind.separator].intercalate (directory :: after)) directory = true := by
    cases after with
    | nil => rwa [List.intercalate_singleton]
    | cons next after =>
      rw [List.intercalate_cons_cons, List.append_assoc, List.singleton_append, holds_append, self,
        Bool.true_or]
  cases before with
  | nil => exact first
  | cons earlier before =>
    rw [Text.intercalate_append (by simp) (by simp), List.append_assoc, List.singleton_append,
      holds_append, first, Bool.or_true]

/-- Lists of texts are compared as they are. -/
theorem holdsRaw_ofText {value : Text} (noNull : '\x00' ∉ value) (noNull' : '\x00' ∉ directory) :
    kind.holdsRaw (.ofText value) (.ofText directory) = kind.holds value directory := by
  rw [holdsRaw, RawText.spelled_ofText noNull, RawText.spelled_ofText noNull']

/-! ### New directories -/

/-- No known directory has the key of the directory. -/
def IsNew (known : List Text) (directory : Text) : Prop :=
  ∀ other ∈ known, kind.key other ≠ kind.key directory

instance (known : List Text) (directory : Text) : Decidable (kind.IsNew known directory) :=
  inferInstanceAs (Decidable (∀ other ∈ known, kind.key other ≠ kind.key directory))

/-- A list holds the directories that are not new to its entries. -/
lemma holds_iff {value : Text} :
    kind.holds value directory = true ↔ ¬kind.IsNew (kind.entries value) directory := by
  simp [holds, IsNew]

lemma isNew_append {more : List Text} :
    kind.IsNew (known ++ more) directory ↔
      kind.IsNew known directory ∧ kind.IsNew more directory :=
  List.forall_mem_append

lemma isNew_cons {first : Text} :
    kind.IsNew (first :: known) directory ↔
      kind.key first ≠ kind.key directory ∧ kind.IsNew known directory :=
  List.forall_mem_cons

/-- The directories that are new to the known ones and to all that come before them, in their
order. -/
def newAmong (known : List Text) : List Text → List Text
  | [] => []
  | directory :: directories =>
    if kind.IsNew known directory then directory :: newAmong (known ++ [directory]) directories
    else newAmong (known ++ [directory]) directories

/-- What is new to the new directories is new to all of them. -/
lemma isNew_newAmong (known : List Text) :
    kind.IsNew (known ++ kind.newAmong known directories) directory ↔
      kind.IsNew (known ++ directories) directory := by
  induction directories generalizing known with
  | nil => rfl
  | cons first directories ih =>
    have step := ih (known ++ [first])
    rw [List.append_assoc, List.append_assoc, List.singleton_append, List.singleton_append] at step
    rw [newAmong, ← step]
    split
    next => rfl
    next old =>
      -- what is new to the known ones is new to a directory with the key of one of them
      rw [isNew_append, isNew_append, isNew_cons]
      refine and_congr_right fun unknown => (and_iff_right fun same => ?_).symm
      exact old fun other mem equal => unknown other mem (equal.trans same)

lemma newAmong_concat (known : List Text) :
    kind.newAmong known (directories ++ [directory])
      = kind.newAmong known directories
        ++ if kind.IsNew (known ++ directories) directory then [directory] else [] := by
  induction directories generalizing known with
  | nil => simp [newAmong]
  | cons first directories ih =>
    have rest := ih (known ++ [first])
    rw [List.append_assoc, List.singleton_append] at rest
    rw [List.cons_append, newAmong, newAmong, rest]
    split <;> rfl

/-! ### Other spellings -/

variable {parts parts' : List Text}

lemma not_mem_respelled (h : List.Forall₂ Path.Respells parts parts')
    (whole : ∀ part ∈ parts, ':' ∉ part) : ∀ part ∈ parts', ':' ∉ part := by
  induction h with
  | nil => exact whole
  | cons first _ ih =>
    obtain ⟨here, others⟩ := List.forall_mem_cons.mp whole
    refine List.forall_mem_cons.mpr ⟨fun mem => here ?_, ih others⟩
    exact first.mem_of_mem (by decide) (by decide) mem

lemma map_normalize_respelled (h : List.Forall₂ Path.Respells parts parts') :
    (parts'.filter (· != [])).map Path.normalize
      = (parts.filter (· != [])).map Path.normalize := by
  induction h with
  | nil => rfl
  | @cons part part' _ _ first _ ih =>
    by_cases empty : part = []
    · obtain rfl := empty
      obtain rfl := first.eq_nil_iff.mpr rfl
      exact ih
    · have filled : part' ≠ [] := mt first.eq_nil_iff.mp empty
      rw [List.filter_cons_of_pos (by simpa using filled),
        List.filter_cons_of_pos (by simpa using empty), List.map_cons, List.map_cons,
        first.normalize_eq, ih]

lemma holds_respelled {value : Text} (h : List.Forall₂ Path.Respells (value.splitOn ':') parts) :
    posix.holds ([':'].intercalate parts) directory = posix.holds value directory := by
  have whole : ∀ part ∈ parts, ':' ∉ part :=
    not_mem_respelled h fun _ => Text.not_mem_of_mem_splitOn
  have nonempty : parts ≠ [] := by
    rintro rfl
    exact List.splitOn_ne_nil ':' value (List.forall₂_nil_right_iff.mp h)
  have keys : (posix.entries ([':'].intercalate parts)).map posix.key
      = (posix.entries value).map posix.key :=
    (congrArg _ (posix.entries_intercalate nonempty whole)).trans (map_normalize_respelled h)
  rw [holds_eq_any_map, keys, ← holds_eq_any_map]

/-- A list of POSIX paths holds a directory if the normal form of the directory is that of an entry
which is not empty. So two lists in one hold what each of them holds, and it does not matter how the
directory and the entries are spelled. An entry is held as it stands, also where the list is joined
from it and others. -/
theorem holds_up_to_spelling (value directory : Text) :
    (posix.holds value directory = true ↔
      ∃ entry ∈ value.splitOn ':', entry ≠ [] ∧ Path.normalize entry = Path.normalize directory) ∧
    (∀ more, posix.holds (value ++ ':' :: more) directory
      = (posix.holds value directory || posix.holds more directory)) ∧
    posix.holds value (Path.normalize directory) = posix.holds value directory ∧
    (∀ c ∈ directory, c ≠ '/' →
      posix.holds value (directory ++ ['/']) = posix.holds value directory) ∧
    (∀ parts, List.Forall₂ Path.Respells (value.splitOn ':') parts →
      posix.holds ([':'].intercalate parts) directory = posix.holds value directory) ∧
    (directory ≠ [] → directory ∈ value.splitOn ':' → posix.holds value directory = true) ∧
    (directory ≠ [] → ':' ∉ directory → ∀ before after,
      posix.holds ([':'].intercalate (before ++ directory :: after)) directory = true) := by
  refine ⟨posix.holds_iff_exists, posix.holds_append value, ?_, ?_, ?_, ?_, ?_⟩
  · exact posix.holds_congr (Path.normalize_normalize directory) value
  · intro c mem notSlash
    exact posix.holds_congr (Path.Respells.slash mem notSlash).normalize_eq value
  · exact fun _ respelled => holds_respelled respelled
  · exact fun nonempty mem => posix.holds_iff_exists.mpr ⟨directory, mem, nonempty, rfl⟩
  · exact fun nonempty whole => posix.holds_intercalate nonempty whole

/-- An entry that starts with two slashes gets another at its end, an empty one stays as it is, and
one with a name to cancel is normalized. -/
theorem holds_up_to_spelling_sampleEntries :
    let directory := "a/../b".toList
    let value := "//usr/bin::a/../b:..".toList
    let parts := ["//usr/bin".toList ++ ['/'], [], Path.normalize directory, "..".toList]
    List.Forall₂ Path.Respells (value.splitOn ':') parts ∧
      [':'].intercalate parts = "//usr/bin/::b:..".toList ∧
      'b' ∈ directory ∧ directory ≠ [] ∧ ':' ∉ directory ∧ directory ∈ value.splitOn ':' ∧
      posix.holds value directory = true ∧
      posix.holds "//usr/bin/::b:..".toList directory = true ∧
      posix.holds value "a/../b/".toList = true ∧
      posix.holds "x:y:a/../b".toList directory = true := by
  intro directory value parts
  obtain ⟨-, -, -, slash, respelled, entry, joined⟩ := holds_up_to_spelling value directory
  have nonempty : directory ≠ [] := by decide
  have whole : ':' ∉ directory := by decide
  have mem : directory ∈ value.splitOn ':' := by decide +kernel
  have held := entry nonempty mem
  have spelled : List.Forall₂ Path.Respells (value.splitOn ':') parts := by
    have split : value.splitOn ':' = ["//usr/bin".toList, [], directory, "..".toList] := by
      decide +kernel
    rw [split]
    refine .cons (.slash (c := 'u') (by decide) (by decide)) (.cons (.same _) (.cons ?_ ?_))
    · exact .normal nonempty
    · exact .cons (.same _) .nil
  have text : [':'].intercalate parts = "//usr/bin/::b:..".toList := by decide +kernel
  refine ⟨spelled, text, by decide, nonempty, whole, mem, held, ?_, ?_, ?_⟩
  · rw [← text]
    exact (respelled parts spelled).trans held
  · exact (slash 'b' (by decide) (by decide)).trans held
  · exact joined nonempty whole ["x:y".toList] []

end TreeDump.SearchList
