import Mathlib.Data.List.Basic
import Mathlib.Data.List.Induction
import TreeDump.FileSystem.Resolve

/-!
# What leads where

Resolution as a relation: `Leads fs purpose links place names target` says that from a place the
names lead to a target when at most `links` links are followed. The rules are those of `follow`, one
for each way in which it goes on, and speak of places in place of trails.
-/

namespace TreeDump.FileSystem

/-- A name to be looked up among the entries of a directory, when `rest` comes after it. -/
structure Enters (purpose : Purpose) (name : Text) (rest : List Text) : Prop where
  nonempty : name ≠ []
  ne_here : name ≠ Path.here
  ne_up : name ≠ Path.up
  open_end : ¬(purpose = .write ∧ slashesOnly rest = true)
  short : name.utf8Length ≤ nameLimit

/-- The node of a last name at which resolution ends. -/
def Final (purpose : Purpose) (node? : Option Node) : Prop :=
  node? ≠ some .directory ∧ ∀ text, node? = some (.link text) → purpose = .lookAtName

/-- The names lead from a place to a target. -/
inductive Leads (fs : FileSystem) (purpose : Purpose) :
    Nat → List Text → List Text → Target → Prop
  | here {links : Nat} {place : List Text} :
      Leads fs purpose links place [] (place, some .directory)
  | stay {links : Nat} {place rest : List Text} {name : Text} {target : Target}
      (blank : name = [] ∨ name = Path.here) (next : Leads fs purpose links place rest target) :
      Leads fs purpose links place (name :: rest) target
  | up {links : Nat} {place rest : List Text} {target : Target}
      (next : Leads fs purpose links place.dropLast rest target) :
      Leads fs purpose links place (Path.up :: rest) target
  | enter {links : Nat} {place rest : List Text} {name : Text} {target : Target}
      (enters : Enters purpose name rest) (node : fs.node? (place ++ [name]) = some .directory)
      (next : Leads fs purpose links (place ++ [name]) rest target) :
      Leads fs purpose links place (name :: rest) target
  | follow {links : Nat} {place rest : List Text} {name text : Text} {target : Target}
      (enters : Enters purpose name rest) (node : fs.node? (place ++ [name]) = some (.link text))
      (through : ¬(rest = [] ∧ purpose = .lookAtName))
      (next : Leads fs purpose links (if Path.isAbsolute text then [] else place)
        (Path.components text ++ rest) target) :
      Leads fs purpose (links + 1) place (name :: rest) target
  | stop {links : Nat} {place : List Text} {name : Text} {node? : Option Node}
      (enters : Enters purpose name []) (node : fs.node? (place ++ [name]) = node?)
      (final : Final purpose node?) :
      Leads fs purpose links place [name] (place ++ [name], node?)

variable {fs : FileSystem} {purpose : Purpose} {links : Nat} {place names rest : List Text}
  {name : Text} {target : Target}

/-! ### Resolution and the relation -/

@[simp] lemma names_trailTo (fs : FileSystem) (place : List Text) :
    (fs.trailTo place).names = place := by
  induction place using List.reverseRecOn with
  | nil => rfl
  | append_singleton place name ih => rw [trailTo_concat, names_down, ih]

@[simp] lemma tail_trailTo (fs : FileSystem) (place : List Text) :
    (fs.trailTo place).tail = fs.trailTo place.dropLast := by
  rcases List.eq_nil_or_concat' place with rfl | ⟨above, name, rfl⟩
  · rfl
  · rw [trailTo_concat, List.dropLast_concat]
    rfl

lemma value_below_trailTo (fs : FileSystem) (place : List Text) (name : Text) :
    ((fs.trailTo (place ++ [name])).below fs).value = fs.node? (place ++ [name]) := by
  rw [below_trailTo, node?, if_neg (by simp)]
  rfl

@[simp] lemma follow_nil :
    fs.follow purpose links (fs.trailTo place) [] = .ok (place, some .directory) := by
  cases links <;> rw [follow, advance, names_trailTo]

lemma follow_blank (blank : name = [] ∨ name = Path.here) :
    fs.follow purpose links (fs.trailTo place) (name :: rest)
      = fs.follow purpose links (fs.trailTo place) rest := by
  cases links <;> simp only [follow, advance, if_pos blank]

lemma follow_up :
    fs.follow purpose links (fs.trailTo place) (Path.up :: rest)
      = fs.follow purpose links (fs.trailTo place.dropLast) rest := by
  have notBlank : ¬(Path.up = [] ∨ Path.up = Path.here) := by decide
  cases links <;> simp only [follow, advance, if_neg notBlank, if_true, tail_trailTo]

/-- Where `follow` goes from a name that is looked up, by the node under it. -/
def onward (fs : FileSystem) (purpose : Purpose) (links : Nat) (place : List Text) (name : Text)
    (rest : List Text) : Option Node → Except SystemError Target
  | none => if rest = [] then .ok (place ++ [name], none) else .error .notFound
  | some .directory => fs.follow purpose links (fs.trailTo (place ++ [name])) rest
  | some (.link text) =>
    if rest = [] ∧ purpose = .lookAtName then .ok (place ++ [name], some (.link text))
    else
      match links with
      | 0 => .error .tooManyLinks
      | links + 1 => fs.follow purpose links
          (fs.trailTo (if Path.isAbsolute text then [] else place)) (Path.components text ++ rest)
  | some node => if rest = [] then .ok (place ++ [name], some node) else .error .notDirectory

lemma onward_link (text : Text) :
    fs.onward purpose links place name rest (some (.link text)) =
      if rest = [] ∧ purpose = .lookAtName then .ok (place ++ [name], some (.link text))
      else
        match links with
        | 0 => .error .tooManyLinks
        | links + 1 => fs.follow purpose links
            (fs.trailTo (if Path.isAbsolute text then [] else place))
            (Path.components text ++ rest) := rfl

lemma follow_enters (enters : Enters purpose name rest) :
    fs.follow purpose links (fs.trailTo place) (name :: rest)
      = fs.onward purpose links place name rest (fs.node? (place ++ [name])) := by
  have notBlank : ¬(name = [] ∨ name = Path.here) := not_or.mpr ⟨enters.nonempty, enters.ne_here⟩
  have start : ∀ text, (if Path.isAbsolute text then [] else fs.trailTo place)
      = fs.trailTo (if Path.isAbsolute text then [] else place) := by
    intro text
    split <;> rfl
  cases links <;>
    simp only [follow, advance, if_neg notBlank, if_neg enters.ne_up, if_neg enters.open_end,
      if_neg (Nat.not_lt.mpr enters.short), ← trailTo_concat, value_below_trailTo, names_trailTo,
      start] <;>
    rcases fs.node? (place ++ [name]) with _ | (_ | _ | _ | _ | _ | _) <;> rfl

lemma follow_eq_error_of_not_enters (notBlank : ¬(name = [] ∨ name = Path.here))
    (notUp : name ≠ Path.up) (notEnters : ¬Enters purpose name rest) :
    ∃ error, fs.follow purpose links (fs.trailTo place) (name :: rest) = .error error := by
  by_cases closed : purpose = .write ∧ slashesOnly rest = true
  · refine ⟨.isDirectory, ?_⟩
    cases links <;> simp only [follow, advance, if_neg notBlank, if_neg notUp, if_pos closed]
  · have long : nameLimit < name.utf8Length := by
      by_contra short
      obtain ⟨nonempty, ne_here⟩ := not_or.mp notBlank
      exact notEnters ⟨nonempty, ne_here, notUp, closed, Nat.not_lt.mp short⟩
    refine ⟨.nameTooLong, ?_⟩
    cases links <;>
      simp only [follow, advance, if_neg notBlank, if_neg notUp, if_neg closed, if_pos long]

lemma follow_of_leads (h : Leads fs purpose links place names target) :
    fs.follow purpose links (fs.trailTo place) names = .ok target := by
  induction h with
  | here => exact follow_nil
  | stay blank _ ih => rw [follow_blank blank, ih]
  | up _ ih => rw [follow_up, ih]
  | enter enters node _ ih => rw [follow_enters enters, node]; exact ih
  | follow enters node through _ ih =>
    rw [follow_enters enters, node]
    exact (if_neg through).trans ih
  | @stop _ _ _ node? enters node final =>
    rw [follow_enters enters, node]
    match node?, final with
    | none, _ => rfl
    | some .directory, final => exact absurd rfl final.1
    | some (.link text), final => exact if_pos ⟨rfl, final.2 text rfl⟩
    | some (.file _), _ | some .pipe, _ | some .nullDevice, _ | some .socket, _ => rfl

/-- A step of `follow`, when the relation holds wherever it goes on. -/
lemma leads_of_follow_cons
    (onRest : ∀ place, fs.follow purpose links (fs.trailTo place) rest = .ok target →
      Leads fs purpose links place rest target)
    (onLink : ∀ fewer place names, links = fewer + 1 →
      fs.follow purpose fewer (fs.trailTo place) names = .ok target →
      Leads fs purpose fewer place names target)
    (h : fs.follow purpose links (fs.trailTo place) (name :: rest) = .ok target) :
    Leads fs purpose links place (name :: rest) target := by
  by_cases blank : name = [] ∨ name = Path.here
  · rw [follow_blank blank] at h
    exact .stay blank (onRest place h)
  by_cases isUp : name = Path.up
  · rw [isUp, follow_up] at h
    exact isUp ▸ .up (onRest _ h)
  by_cases enters : Enters purpose name rest
  swap
  · obtain ⟨error, failed⟩ := follow_eq_error_of_not_enters blank isUp enters
    rw [failed] at h
    cases h
  have stops : ∀ node? (error : SystemError), Final purpose node? →
      fs.node? (place ++ [name]) = node? →
      (if rest = [] then .ok (place ++ [name], node?) else .error error) = Except.ok target →
      Leads fs purpose links place (name :: rest) target := by
    intro node? error final node ended
    split at ended
    next last =>
      subst last
      rw [← Except.ok.inj ended]
      exact .stop enters node final
    next => cases ended
  rw [follow_enters enters] at h
  generalize node : fs.node? (place ++ [name]) = node? at h
  match node?, h with
  | none, ended => exact stops none _ ⟨by simp, by simp⟩ node ended
  | some .directory, next => exact .enter enters node (onRest _ next)
  | some (.link text), next =>
    rw [onward_link] at next
    split at next
    next last =>
      obtain ⟨rfl, rfl⟩ := last
      rw [← Except.ok.inj next]
      exact .stop enters node ⟨by simp, fun _ _ => rfl⟩
    next through =>
      cases links with
      | zero => cases next
      | succ fewer => exact .follow enters node through (onLink fewer _ _ rfl next)
  | some (.file _), ended | some .pipe, ended | some .nullDevice, ended | some .socket, ended =>
    exact stops _ _ ⟨by simp, by simp⟩ node ended

lemma leads_of_follow (h : fs.follow purpose links (fs.trailTo place) names = .ok target) :
    Leads fs purpose links place names target := by
  induction links generalizing place names with
  | zero =>
    induction names generalizing place with
    | nil =>
      rw [follow_nil, Except.ok.injEq] at h
      exact h ▸ .here
    | cons name rest ih => exact leads_of_follow_cons (fun _ => ih) (by simp) h
  | succ links onLink =>
    induction names generalizing place with
    | nil =>
      rw [follow_nil, Except.ok.injEq] at h
      exact h ▸ .here
    | cons name rest ih =>
      apply leads_of_follow_cons (fun _ => ih) ?_ h
      rintro fewer place names ⟨⟩
      exact onLink

theorem follow_eq_ok :
    fs.follow purpose links (fs.trailTo place) names = .ok target ↔
      Leads fs purpose links place names target :=
  ⟨leads_of_follow, follow_of_leads⟩

namespace Leads

/-- What is not a directory is found under the last name. -/
lemma node?_eq (h : Leads fs purpose links place names target)
    (notDirectory : target.2 ≠ some .directory) :
    target.1 ≠ [] ∧ fs.node? target.1 = target.2 := by
  induction h with
  | here => exact absurd rfl notDirectory
  | stay _ _ ih => exact ih notDirectory
  | up _ ih => exact ih notDirectory
  | enter _ _ _ ih => exact ih notDirectory
  | follow _ _ _ _ ih => exact ih notDirectory
  | stop _ node _ => exact ⟨by simp, node⟩

/-- Only a look at a last name ends at a link. -/
lemma ne_link (h : Leads fs purpose links place names target) (purpose_ne : purpose ≠ .lookAtName)
    (text : Text) : target.2 ≠ some (.link text) := by
  induction h with
  | here => simp
  | stay _ _ ih => exact ih
  | up _ ih => exact ih
  | enter _ _ _ ih => exact ih
  | follow _ _ _ _ ih => exact ih
  | stop _ _ final =>
    intro isLink
    exact purpose_ne (final.2 text isLink)

/-- Blank components lead nowhere else. -/
lemma stay_iff {blanks : List Text} (blank : ∀ name ∈ blanks, name = [] ∨ name = Path.here) :
    Leads fs purpose links place (blanks ++ names) target ↔
      Leads fs purpose links place names target := by
  induction blanks with
  | nil => rfl
  | cons name blanks ih =>
    obtain ⟨first, others⟩ := List.forall_mem_cons.mp blank
    rw [List.cons_append, ← follow_eq_ok, follow_blank first, follow_eq_ok, ih others]

/-- The way to a target passes through directories only. -/
lemma directory_of_append {above below : List Text} (nonempty : below ≠ [])
    (h : Leads fs purpose links place (above ++ below) target) :
    ∃ through, Leads fs .look links place above (through, some .directory) := by
  generalize hnames : above ++ below = names at h
  induction h generalizing above with
  | here => exact absurd (List.append_eq_nil_iff.mp hnames).2 nonempty
  | stay blank _ ih =>
    obtain ⟨rfl, -⟩ | ⟨above, rfl, rfl⟩ := List.append_eq_cons_iff.mp hnames
    · exact ⟨_, .here⟩
    · obtain ⟨through, next⟩ := ih rfl
      exact ⟨through, .stay blank next⟩
  | up _ ih =>
    obtain ⟨rfl, -⟩ | ⟨above, rfl, rfl⟩ := List.append_eq_cons_iff.mp hnames
    · exact ⟨_, .here⟩
    · obtain ⟨through, next⟩ := ih rfl
      exact ⟨through, .up next⟩
  | enter enters node _ ih =>
    obtain ⟨rfl, -⟩ | ⟨above, rfl, rfl⟩ := List.append_eq_cons_iff.mp hnames
    · exact ⟨_, .here⟩
    · obtain ⟨through, next⟩ := ih rfl
      exact ⟨through, .enter { enters with open_end := by simp } node next⟩
  | follow enters node _ _ ih =>
    obtain ⟨rfl, -⟩ | ⟨above, rfl, rfl⟩ := List.append_eq_cons_iff.mp hnames
    · exact ⟨_, .here⟩
    · obtain ⟨through, next⟩ := ih (List.append_assoc _ _ _)
      exact ⟨through, .follow { enters with open_end := by simp } node (by simp) next⟩
  | stop =>
    obtain ⟨rfl, -⟩ | ⟨above, rfl, hrest⟩ := List.append_eq_cons_iff.mp hnames
    · exact ⟨_, .here⟩
    · exact absurd (List.append_eq_nil_iff.mp hrest.symm).2 nonempty

/-! ### The same path for another purpose -/

/-- After a slash at the end comes a directory. -/
lemma directory_of_slash (h : Leads fs purpose links place (names ++ [[]]) target) :
    target.2 = some .directory := by
  generalize hall : names ++ [[]] = all at h
  induction h generalizing names with
  | here => simp at hall
  | stay _ next ih =>
    obtain ⟨rfl, last⟩ | ⟨names, rfl, rfl⟩ := List.append_eq_cons_iff.mp hall
    · obtain ⟨-, rfl⟩ := List.cons_eq_cons.mp last
      cases next
      rfl
    · exact ih rfl
  | up _ ih =>
    obtain ⟨rfl, last⟩ | ⟨names, rfl, rfl⟩ := List.append_eq_cons_iff.mp hall
    · exact absurd (List.cons_eq_cons.mp last).1 (by decide)
    · exact ih rfl
  | enter enters _ _ ih =>
    obtain ⟨rfl, last⟩ | ⟨names, rfl, rfl⟩ := List.append_eq_cons_iff.mp hall
    · exact absurd (List.cons_eq_cons.mp last).1.symm enters.nonempty
    · exact ih rfl
  | follow enters _ _ _ ih =>
    obtain ⟨rfl, last⟩ | ⟨names, rfl, rfl⟩ := List.append_eq_cons_iff.mp hall
    · exact absurd (List.cons_eq_cons.mp last).1.symm enters.nonempty
    · exact ih (List.append_assoc _ _ _)
  | stop enters =>
    obtain ⟨rfl, last⟩ | ⟨names, rfl, hrest⟩ := List.append_eq_cons_iff.mp hall
    · exact absurd (List.cons_eq_cons.mp last).1.symm enters.nonempty
    · simp at hrest

lemma open_end_of {other : Purpose} (start : List Text)
    (h : Leads fs purpose links place (start ++ rest) target)
    (notDirectory : other = .write → target.2 ≠ some .directory) :
    ¬(other = .write ∧ slashesOnly rest = true) := by
  rintro ⟨writes, slashes⟩
  obtain rfl | ⟨rest, last, rfl⟩ := List.eq_nil_or_concat' rest
  · simp [slashesOnly] at slashes
  · have blank : last = [] := by
      simp only [slashesOnly, List.all_append, Bool.and_eq_true] at slashes
      simpa using slashes.2.2
    rw [blank, ← List.append_assoc] at h
    exact notDirectory writes h.directory_of_slash

/-- A path leads to the same target for another purpose that follows links, unless the target is a
link, or a directory that would be written to. -/
lemma follow_for {other : Purpose} (h : Leads fs purpose links place names target)
    (follows : other ≠ .lookAtName) (notLink : ∀ text, target.2 ≠ some (.link text))
    (notDirectory : other = .write → target.2 ≠ some .directory) :
    Leads fs other links place names target := by
  induction h with
  | here => exact .here
  | stay blank _ ih => exact .stay blank (ih notLink notDirectory)
  | up _ ih => exact .up (ih notLink notDirectory)
  | enter enters node next ih =>
    have open_end := open_end_of [] next notDirectory
    exact .enter { enters with open_end } node (ih notLink notDirectory)
  | follow enters node _ next ih =>
    have open_end := open_end_of _ next notDirectory
    exact .follow { enters with open_end } node (by simp [follows]) (ih notLink notDirectory)
  | stop enters node final =>
    refine .stop { enters with open_end := by simp [slashesOnly] } node ⟨final.1, ?_⟩
    intro text isLink
    exact absurd isLink (notLink text)

/-- A path to something has something under its last name, a link at least. -/
lemma lookAtName_of_look (h : Leads fs .look links place names target) (there : target.2 ≠ none) :
    ∃ named : Target, named.2 ≠ none ∧ Leads fs .lookAtName links place names named := by
  induction h with
  | here => exact ⟨_, by simp, .here⟩
  | stay blank _ ih =>
    obtain ⟨named, some, next⟩ := ih there
    exact ⟨named, some, .stay blank next⟩
  | up _ ih =>
    obtain ⟨named, some, next⟩ := ih there
    exact ⟨named, some, .up next⟩
  | enter enters node _ ih =>
    obtain ⟨named, some, next⟩ := ih there
    exact ⟨named, some, .enter { enters with open_end := by simp } node next⟩
  | @follow _ _ rest _ _ _ enters node _ _ ih =>
    by_cases last : rest = []
    · subst last
      exact ⟨_, by simp, .stop { enters with open_end := by simp } node ⟨by simp, fun _ _ => rfl⟩⟩
    · obtain ⟨named, some, next⟩ := ih there
      exact ⟨named, some, .follow { enters with open_end := by simp } node (by simp [last]) next⟩
  | stop enters node final =>
    exact ⟨_, there, .stop { enters with open_end := by simp } node ⟨final.1, fun _ _ => rfl⟩⟩

end Leads

end TreeDump.FileSystem
