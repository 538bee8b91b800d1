import TreeDump.Configuration.Basic
import TreeDump.Proofs.Text.LowerCase
import TreeDump.Proofs.Text.Sorted

/-!
# Configurations made of their own lists

Taking a configuration from lists trims their items, drops the points before extensions and writes
extensions in small letters, once and in that order. What comes out need not stay when it is taken
again: blanks that stood behind the points are trimmed only then, and an extension of points alone
is dropped only then. A configuration is made of its own lists exactly if each extension that it was
made of shows a character right behind its points.
-/

namespace TreeDump

/-! ### Extensions -/

/-- An extension without the blanks around it and the points before it. -/
def bareExtension (extension : Text) : Text :=
  (Text.trim extension).dropWhile (· == '.')

lemma normalizeExtension_eq_lower (e : Text) :
    normalizeExtension e = Text.lower (bareExtension e) := rfl

lemma endsVisibly_bareExtension {e : Text} (nonempty : bareExtension e ≠ []) :
    (bareExtension e).EndsVisibly := by
  obtain ⟨points, split⟩ : bareExtension e <:+ Text.trim e := List.dropWhile_suffix _
  have left : Text.trim e ≠ [] := by
    intro none
    rw [bareExtension, none] at nonempty
    exact nonempty rfl
  obtain ⟨s, c, concat, visible⟩ := (Text.visible_trim left).2
  obtain none | ⟨r, d, last⟩ := List.eq_nil_or_concat' (bareExtension e)
  · exact absurd none nonempty
  · rw [last, ← List.append_assoc, concat] at split
    obtain ⟨-, same⟩ := List.append_inj' split rfl
    exact ⟨r, d, last, (List.singleton_inj.mp same) ▸ visible⟩

/-- An extension in normal form stays, if it shows a character at its start. -/
lemma normalizeExtension_again {e : Text} (shows : (bareExtension e).StartsVisibly) :
    Text.trim (normalizeExtension e) = normalizeExtension e ∧
      normalizeExtension (normalizeExtension e) = normalizeExtension e := by
  obtain ⟨c, r, bare, -⟩ := id shows
  have starts := Text.startsVisibly_lower.mpr shows
  have nonempty : bareExtension e ≠ [] := by simp [bare]
  have ends := (endsVisibly_bareExtension nonempty).lower
  have trimmed := Text.trim_eq_self starts ends
  have noPoint : (Text.lower (bareExtension e)).dropWhile (· == '.')
      = Text.lower (bareExtension e) := by
    obtain ⟨d, s, h, same⟩ := Text.exists_lower_cons c r
    have point : (d == '.') = (c == '.') := same (· == '.') (by simp; decide)
    rw [bare, h, List.dropWhile_cons, point, Text.neg_of_dropWhile_eq_cons (p := (· == '.')) bare]
    rfl
  have again : bareExtension (normalizeExtension e) = normalizeExtension e := by
    rw [normalizeExtension_eq_lower, bareExtension, trimmed, noPoint]
  refine ⟨trimmed, ?_⟩
  rw [normalizeExtension_eq_lower (normalizeExtension e), again]
  exact Text.lower_eq_self fun _ => Text.isSmall_of_mem_lower

/-- An extension that starts with a blank is shorter once it is taken again. -/
lemma length_normalizeExtension_lt {e : Text} (small : ∀ c ∈ e, IsSmall c)
    (notBlank : Text.trim e ≠ []) (hides : ¬e.StartsVisibly) :
    (normalizeExtension e).length < e.length := by
  have part : (bareExtension e).Sublist (Text.trim e) := List.dropWhile_sublist _
  have start : (Text.trim e).Sublist (Text.trimStart e) :=
    (Text.dropEndWhile_prefix _ _).sublist
  have shorter : (Text.trimStart e).length < e.length := by
    cases e with
    | nil => exact absurd rfl notBlank
    | cons c r =>
      have blank : isBlank c = true := by
        by_contra visible
        exact hides ⟨c, r, rfl, Bool.eq_false_iff.mpr visible⟩
      rw [Text.trimStart, List.dropWhile_cons, if_pos blank]
      exact Nat.lt_succ_of_le (List.dropWhile_sublist _).length_le
  have same : normalizeExtension e = bareExtension e := by
    refine Text.lower_eq_self fun c mem => small c ?_
    exact (List.dropWhile_sublist _).subset (start.subset (part.subset mem))
  rw [same]
  have := part.length_le
  have := start.length_le
  omega

namespace Configuration

/-! ### Configurations -/

/-- Do the texts of a configuration stay as they are when they are taken from lists? -/
structure Normal (config : Configuration) : Prop where
  extensions : ∀ t ∈ config.extensions.toList, Text.trim t ≠ [] ∧ normalizeExtension t = t
  ignored : ∀ t ∈ config.ignored.toList, Text.trim t ≠ [] ∧ Text.trim t = t

lemma ofList_map_eq {set : TextSet} {f : Text → Text}
    (fixed : ∀ t ∈ set.toList, Text.trim t ≠ [] ∧ f t = t) :
    TextSet.ofList ((set.toList.filter fun t => t.trim != []).map f) = set := by
  have kept : (set.toList.filter fun t => t.trim != []) = set.toList :=
    List.filter_eq_self.mpr fun t mem => by simpa using (fixed t mem).1
  have same : set.toList.map f = set.toList :=
    List.map_congr_left (fun t mem => (fixed t mem).2) |>.trans (List.map_id _)
  rw [kept, same, Text.ofList_toList]

/-- A configuration of texts that stay as they are is made of its own lists. -/
theorem ofLists_toList {config : Configuration} (normal : config.Normal) :
    ofLists config.extensions.toList config.ignored.toList = config := by
  rw [ofLists, ofList_map_eq normal.extensions, ofList_map_eq normal.ignored]

variable {extensions ignored : List Text}

lemma mem_extensions_ofLists {t : Text} :
    t ∈ (ofLists extensions ignored).extensions.toList ↔
      ∃ e ∈ extensions, Text.trim e ≠ [] ∧ normalizeExtension e = t := by
  change t ∈ TextSet.ofList _ ↔ _
  simp [and_assoc]

lemma mem_ignored_ofLists {t : Text} :
    t ∈ (ofLists extensions ignored).ignored.toList ↔
      ∃ d ∈ ignored, Text.trim d ≠ [] ∧ Text.trim d = t := by
  change t ∈ TextSet.ofList _ ↔ _
  simp [and_assoc]

/-- Names of directories stay as they are. -/
lemma normal_ignored {t : Text} (mem : t ∈ (ofLists extensions ignored).ignored.toList) :
    Text.trim t ≠ [] ∧ Text.trim t = t := by
  obtain ⟨d, -, notBlank, rfl⟩ := mem_ignored_ofLists.mp mem
  rw [Text.trim_trim]
  exact ⟨notBlank, rfl⟩

/-- Does every extension of a list that is not blank show a character right behind its points? -/
def ShowsExtensions (extensions : List Text) : Prop :=
  ∀ e ∈ extensions, Text.trim e ≠ [] → (bareExtension e).StartsVisibly

instance (extensions : List Text) : Decidable (ShowsExtensions extensions) :=
  inferInstanceAs (Decidable (∀ e ∈ extensions, Text.trim e ≠ [] → (bareExtension e).StartsVisibly))

lemma normal_ofLists (shows : ShowsExtensions extensions) :
    (ofLists extensions ignored).Normal where
  ignored _ mem := normal_ignored mem
  extensions t mem := by
    obtain ⟨e, listed, notBlank, rfl⟩ := mem_extensions_ofLists.mp mem
    obtain ⟨trimmed, again⟩ := normalizeExtension_again (shows e listed notBlank)
    rw [trimmed]
    refine ⟨?_, again⟩
    obtain ⟨c, r, h, -⟩ := Text.startsVisibly_lower.mpr (shows e listed notBlank)
    rw [normalizeExtension_eq_lower, h]
    exact List.cons_ne_nil c r

/-- If a configuration is made of its own lists, an extension that starts with a blank has come
from a longer one. -/
lemma exists_longer {t : Text}
    (same : ofLists (ofLists extensions ignored).extensions.toList
      (ofLists extensions ignored).ignored.toList = ofLists extensions ignored)
    (mem : t ∈ (ofLists extensions ignored).extensions.toList) (hides : ¬t.StartsVisibly) :
    ∃ u ∈ (ofLists extensions ignored).extensions.toList, ¬u.StartsVisibly ∧ t.length < u.length := by
  rw [← same] at mem
  obtain ⟨u, listed, notBlank, rfl⟩ := mem_extensions_ofLists.mp mem
  obtain ⟨e, -, -, rfl⟩ := mem_extensions_ofLists.mp listed
  have small : ∀ c ∈ normalizeExtension e, IsSmall c := fun _ => Text.isSmall_of_mem_lower
  by_cases shows : (normalizeExtension e).StartsVisibly
  · have again := (normalizeExtension_again (Text.startsVisibly_lower.mp shows)).2
    rw [again] at hides
    exact absurd shows hides
  · exact ⟨_, listed, shows, length_normalizeExtension_lt small notBlank shows⟩

/-- A configuration is made of its own lists exactly if every extension that it was made of shows a
character right behind its points. -/
theorem ofLists_toList_ofLists_iff :
    ofLists (ofLists extensions ignored).extensions.toList
        (ofLists extensions ignored).ignored.toList = ofLists extensions ignored ↔
      ShowsExtensions extensions := by
  constructor
  · intro same e listed notBlank
    by_contra hides
    -- extensions that start with a blank would become longer and longer
    have long : ∀ n, ∃ t ∈ (ofLists extensions ignored).extensions.toList,
        ¬t.StartsVisibly ∧ n ≤ t.length := by
      intro n
      induction n with
      | zero =>
        refine ⟨_, mem_extensions_ofLists.mpr ⟨e, listed, notBlank, rfl⟩, ?_, Nat.zero_le _⟩
        exact fun shows => hides (Text.startsVisibly_lower.mp shows)
      | succ n ih =>
        obtain ⟨t, mem, hides, long⟩ := ih
        obtain ⟨u, mem, hides, longer⟩ := exists_longer same mem hides
        exact ⟨u, mem, hides, Nat.lt_of_le_of_lt long longer⟩
    obtain ⟨t, mem, -, tooLong⟩ :=
      long ((ofLists extensions ignored).extensions.toList.flatten.length + 1)
    exact absurd (List.sublist_flatten_of_mem mem).length_le (Nat.not_le.mpr tooLong)
  · intro shows
    exact ofLists_toList (normal_ofLists shows)

lemma normal_defaults : defaults.Normal :=
  normal_ofLists (by decide +kernel)

end Configuration

end TreeDump
