import Mathlib.Data.List.Basic
import Mathlib.Tactic.Common
import TreeDump.FileSystem.Resolve
import TreeDump.Path.Plain
import TreeDump.Proofs.Text.Lines

/-!
# The spelling of plain paths

The components of a plain path's text are its names, after components that lead nowhere else, so
that the path is read back from its text. The text of the directory above is not longer and has no
other characters but a point.
-/

namespace TreeDump

namespace Text

lemma utf8Length_append (s t : Text) :
    utf8Length (s ++ t) = s.utf8Length + t.utf8Length := by
  induction s with
  | nil => simp [utf8Length]
  | cons c s ih => simp [utf8Length, ih, Nat.add_assoc]

end Text

namespace PlainPath

variable {path : PlainPath}

/-- The path leads through the same directory as another, or to it. -/
def OnWayTo (path other : PlainPath) : Prop :=
  path.lead = other.lead ∧ path.names <+: other.names

lemma OnWayTo.refl (path : PlainPath) : path.OnWayTo path :=
  ⟨rfl, List.prefix_rfl⟩

lemma OnWayTo.of_parent {other : PlainPath} (h : path.OnWayTo other.parent) : path.OnWayTo other :=
  ⟨h.1, h.2.trans (List.dropLast_prefix _)⟩

lemma nonempty_of_mem (path : PlainPath) {name : Text} (h : name ∈ path.names) : name ≠ [] := by
  have plain := path.isPlain_of_mem name h
  rintro rfl
  exact absurd plain (by decide)

lemma slash_not_mem_of_mem (path : PlainPath) {name : Text} (h : name ∈ path.names) :
    '/' ∉ name := by
  have plain := path.isPlain_of_mem name h
  simp only [Path.isPlain, Bool.and_eq_true, Bool.not_eq_true'] at plain
  simpa using plain.2

/-! ### Components -/

/-- The names with slashes between them. -/
def joined (path : PlainPath) : Text :=
  ['/'].intercalate path.names

lemma components_joined (nonempty : path.names ≠ []) :
    Path.components path.joined = path.names :=
  List.splitOn_intercalate _ (fun _ => path.slash_not_mem_of_mem) nonempty

lemma components_slash (text : Text) :
    Path.components ('/' :: text) = [] :: Path.components text := by
  simp [Path.components, List.splitOn_cons_eq_if_modifyHead]

lemma head_joined (nonempty : path.names ≠ []) : ∃ c rest, path.joined = c :: rest ∧ c ≠ '/' := by
  obtain ⟨name, names, hnames⟩ := List.exists_cons_of_ne_nil nonempty
  have mem : name ∈ path.names := by simp [hnames]
  obtain ⟨c, rest, rfl⟩ := List.exists_cons_of_ne_nil (path.nonempty_of_mem mem)
  have ne : c ≠ '/' := by
    rintro rfl
    exact path.slash_not_mem_of_mem mem List.mem_cons_self
  rw [joined, hnames]
  cases names with
  | nil => exact ⟨c, rest, by simp, ne⟩
  | cons other names => exact ⟨c, _, by rw [List.intercalate_cons_cons]; rfl, ne⟩

lemma text_of_names (nonempty : path.names ≠ []) : path.text = path.lead ++ path.joined := by
  obtain ⟨c, rest, joined, -⟩ := head_joined nonempty
  have : path.lead ++ path.joined ≠ [] := by simp [joined]
  exact if_neg this

lemma lead_cases (path : PlainPath) :
    path.lead = [] ∨ path.lead = ['/'] ∨ path.lead = ['/', '/'] := by
  simpa using path.lead_mem

/-- The components are the names, after blank ones. -/
lemma components_text (path : PlainPath) :
    ∃ blanks, (∀ name ∈ blanks, name = [] ∨ name = Path.here) ∧
      Path.components path.text = blanks ++ path.names := by
  by_cases nonempty : path.names = []
  · refine ⟨Path.components path.text, ?_, by rw [nonempty, List.append_nil]⟩
    rw [text, nonempty]
    obtain lead | lead | lead := path.lead_cases <;> rw [lead] <;> decide
  · refine ⟨List.replicate path.lead.length [], by simp, ?_⟩
    rw [text_of_names nonempty]
    obtain lead | lead | lead := path.lead_cases <;>
      simp [lead, components_slash, components_joined nonempty, List.replicate_succ]

lemma isAbsolute_text (path : PlainPath) :
    Path.isAbsolute path.text = true ↔ path.lead ≠ [] := by
  by_cases nonempty : path.names = []
  · rw [text, nonempty]
    obtain lead | lead | lead := path.lead_cases <;> rw [lead] <;> decide
  · rw [text_of_names nonempty]
    obtain ⟨c, rest, joined, ne⟩ := head_joined nonempty
    obtain lead | lead | lead := path.lead_cases <;> simp [lead, joined, Path.isAbsolute, ne]

lemma start_congr (fs : FileSystem) {other : PlainPath} (h : path.lead = other.lead) :
    fs.start path.text = fs.start other.text := by
  simp only [FileSystem.start, isAbsolute_text, h]

/-! ### Reading back -/

attribute [ext] PlainPath

lemma names_ofText (text : Text) :
    (ofText text).names
      = (Path.components text).filter fun name => name != [] && name != Path.here := rfl

lemma lead_text (path : PlainPath) : Path.lead path.text = path.lead := by
  by_cases nonempty : path.names = []
  · rw [text, nonempty]
    obtain lead | lead | lead := path.lead_cases <;> rw [lead] <;> decide
  · rw [text_of_names nonempty]
    obtain ⟨c, rest, joined, ne⟩ := head_joined nonempty
    obtain lead | lead | lead := path.lead_cases <;> simp [lead, joined, Path.lead, ne]

/-- The plain form of a plain path's text is that path. -/
lemma ofText_text (path : PlainPath) : ofText path.text = path := by
  ext1
  · exact lead_text path
  · obtain ⟨blanks, blank, components⟩ := path.components_text
    have dropped : blanks.filter (fun name => name != [] && name != Path.here) = [] :=
      List.filter_eq_nil_iff.mpr fun name h => by rcases blank name h with rfl | rfl <;> decide
    have kept : path.names.filter (fun name => name != [] && name != Path.here) = path.names :=
      List.filter_eq_self.mpr fun name h => by
        have plain := path.isPlain_of_mem name h
        rw [Path.isPlain, Bool.and_eq_true] at plain
        exact plain.1
    rw [names_ofText, components, List.filter_append, dropped, kept, List.nil_append]

/-! ### The directory above -/

@[simp] lemma names_parent (path : PlainPath) : path.parent.names = path.names.dropLast := rfl

/-- The text of a path goes on where that of the directory above ends. -/
lemma text_eq_append (nonempty : path.names ≠ []) :
    ∃ more, more ≠ [] ∧ path.text = (path.lead ++ path.parent.joined) ++ more := by
  obtain h | ⟨above, name, h⟩ := List.eq_nil_or_concat' path.names
  · exact absurd h nonempty
  have named : name ≠ [] := path.nonempty_of_mem (by simp [h])
  rw [text_of_names nonempty, joined, joined, names_parent, h, List.dropLast_concat]
  by_cases first : above = []
  · exact ⟨name, named, by simp [first]⟩
  · exact ⟨'/' :: name, by simp, by simp [Text.intercalate_append first]⟩

lemma parent_of_no_names (h : path.names = []) : path.parent = path := by
  cases path
  subst h
  rfl

lemma mem_text_of_parent {c : Char} (ne : c ≠ '.') (h : c ∈ path.parent.text) : c ∈ path.text := by
  by_cases nonempty : path.names = []
  · rwa [parent_of_no_names nonempty] at h
  · obtain ⟨more, -, htext⟩ := text_eq_append nonempty
    rw [htext]
    change c ∈ Path.orHere (path.lead ++ path.parent.joined) at h
    rw [Path.orHere] at h
    split at h
    · exact absurd (List.mem_singleton.mp h) ne
    · exact List.mem_append_left _ h

lemma utf8Length_parent_le (path : PlainPath) :
    path.parent.text.utf8Length ≤ path.text.utf8Length := by
  by_cases nonempty : path.names = []
  · exact Nat.le_of_eq (by rw [parent_of_no_names nonempty])
  · obtain ⟨more, some, htext⟩ := text_eq_append nonempty
    rw [htext, Text.utf8Length_append]
    change (Path.orHere (path.lead ++ path.parent.joined)).utf8Length ≤ _
    rw [Path.orHere]
    split
    · obtain ⟨c, rest, rfl⟩ := List.exists_cons_of_ne_nil some
      have : 0 < c.utf8Size := c.utf8Size_pos
      have one : Text.utf8Length Path.here = 1 := rfl
      rw [one, Text.utf8Length]
      omega
    · exact Nat.le_add_right _ _

end PlainPath

end TreeDump
