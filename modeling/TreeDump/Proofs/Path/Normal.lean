import Mathlib.Data.List.Basic
import Mathlib.Data.List.TakeWhile
import Mathlib.Tactic.Common
import TreeDump.Proofs.Path.Plain

/-!
# Normal paths

In a normal path each `..` stands before all other names, and below a root there is none. Names of
this kind are resolved already, so normalizing a normal path changes nothing. The normal form of a
path is that of its plain form; so a path and its respellings have the same normal form.
-/

namespace TreeDump

namespace Path

variable {rooted : Bool} {done names : List Text} {name component : Text}

/-! ### Reduced names -/

/-- `Reduced rooted done` says that nothing is left to cancel in the names `done`, which are listed
backwards: a `..` has nothing before it but others of its kind, and no root either. -/
inductive Reduced (rooted : Bool) : List Text → Prop
  | start : Reduced rooted []
  | ascend {done : List Text} (free : rooted = false) (ups : ∀ name ∈ done, name = up) :
      Reduced rooted (up :: done)
  | descend {name : Text} {done : List Text} (nonempty : name ≠ []) (notHere : name ≠ here)
      (notUp : name ≠ up) (reduced : Reduced rooted done) : Reduced rooted (name :: done)

lemma reduced_of_ups (free : rooted = false) (ups : ∀ name ∈ done, name = up) :
    Reduced rooted done := by
  cases done with
  | nil => exact .start
  | cons name done =>
    obtain ⟨rfl, others⟩ := List.forall_mem_cons.mp ups
    exact .ascend free others

lemma Reduced.of_cons (h : Reduced rooted (name :: done)) : Reduced rooted done := by
  cases h with
  | ascend free ups => exact reduced_of_ups free ups
  | descend _ _ _ reduced => exact reduced

/-- A component that is added leaves reduced names reduced. -/
lemma Reduced.push (h : Reduced rooted done) (component : Text) :
    Reduced rooted (push rooted done component) := by
  -- the cases are: a blank component; `..` at the root, at the start, behind another one and behind
  -- a name; a name
  fun_cases Path.push rooted done component with
  | case1 => exact h
  | case2 => exact .start
  | case3 _ _ free => exact .ascend (by simpa using free) (List.forall_mem_nil _)
  | case4 =>
    cases h with
    | ascend free ups => exact .ascend free (List.forall_mem_cons.mpr ⟨rfl, ups⟩)
    | descend _ _ notUp => exact absurd rfl notUp
  | case5 => exact h.of_cons
  | case6 _ proper notUp =>
    obtain ⟨nonempty, notHere⟩ := not_or.mp proper
    exact .descend nonempty notHere notUp h

lemma Reduced.foldl_push (h : Reduced rooted done) (names : List Text) :
    Reduced rooted (names.foldl (Path.push rooted) done) := by
  induction names generalizing done with
  | nil => exact h
  | cons name names ih => exact ih (h.push name)

/-- A name that is reduced behind the others stays there. -/
lemma Reduced.push_eq_cons (h : Reduced rooted (name :: done)) :
    Path.push rooted done name = name :: done := by
  cases h with
  | ascend free ups =>
    cases done with
    | nil => subst free; rfl
    | cons last done =>
      obtain rfl := ups last List.mem_cons_self
      rfl
  | descend nonempty notHere notUp => simp [Path.push, nonempty, notHere, notUp]

lemma Reduced.foldl_push_reverse (h : Reduced rooted done) :
    done.reverse.foldl (Path.push rooted) [] = done := by
  induction done with
  | nil => rfl
  | cons name done ih => rw [List.reverse_cons, List.foldl_concat, ih h.of_cons, h.push_eq_cons]

/-! ### Resolved names -/

lemma resolve_resolve (rooted : Bool) (names : List Text) :
    resolve rooted (resolve rooted names) = resolve rooted names := by
  have reduced : Reduced rooted (names.foldl (push rooted) []) := Reduced.start.foldl_push names
  rw [resolve, resolve, reduced.foldl_push_reverse]

lemma resolve_filter (rooted : Bool) (names : List Text) :
    resolve rooted (names.filter fun name => name != [] && name != here)
      = resolve rooted names := by
  rw [resolve, resolve, List.foldl_filter]
  congr 2
  funext done name
  split_ifs with proper
  · rfl
  · refine (if_pos ?_).symm
    simpa [imp_iff_not_or] using proper

lemma mem_of_mem_push : name ∈ push rooted done component → name ∈ done ∨ name = component := by
  fun_cases push rooted done component with
  | case1 => exact .inl
  | case2 => exact .inl
  | case3 _ isUp => exact fun h => .inr ((List.mem_singleton.mp h).trans isUp.symm)
  | case4 _ isUp =>
    intro h
    rcases List.mem_cons.mp h with rfl | earlier
    · exact .inr isUp.symm
    · exact .inl earlier
  | case5 => exact fun h => .inl (List.mem_cons_of_mem _ h)
  | case6 => exact fun h => (List.mem_cons.mp h).symm

lemma mem_of_mem_foldl_push (h : name ∈ names.foldl (push rooted) done) :
    name ∈ done ∨ name ∈ names := by
  induction names generalizing done with
  | nil => exact .inl h
  | cons component names ih =>
    rcases ih h with pushed | later
    · rcases mem_of_mem_push pushed with earlier | rfl
      · exact .inl earlier
      · exact .inr List.mem_cons_self
    · exact .inr (List.mem_cons_of_mem _ later)

lemma mem_of_mem_resolve (h : name ∈ resolve rooted names) : name ∈ names :=
  (mem_of_mem_foldl_push (List.mem_reverse.mp h)).resolve_left List.not_mem_nil

end Path

/-! ### Normal forms -/

namespace PlainPath

/-- The path with its names resolved. -/
def reduce (path : PlainPath) : PlainPath :=
  { path with
    names := Path.resolve (path.lead != []) path.names
    isPlain_of_mem := fun name h => path.isPlain_of_mem name (Path.mem_of_mem_resolve h) }

lemma reduce_reduce (path : PlainPath) : path.reduce.reduce = path.reduce := by
  ext1
  · rfl
  · exact Path.resolve_resolve _ path.names

end PlainPath

namespace Path

lemma isAbsolute_eq (path : Text) : isAbsolute path = (lead path != []) := by
  cases path with
  | nil => rfl
  | cons c path =>
    by_cases slash : c = '/'
    · subst slash
      have found : lead ('/' :: path) ≠ [] := by
        rw [lead, List.takeWhile_cons_of_pos (by decide), List.length_cons]
        split
        next none => exact absurd none (Nat.succ_ne_zero _)
        next => simp
        next => simp
      simpa [isAbsolute] using found
    · simp [isAbsolute, lead, slash]

/-- A path is normalized by resolving its plain form. -/
lemma normalize_eq (path : Text) : normalize path = (PlainPath.ofText path).reduce.text := by
  have names : resolve (isAbsolute path) (components path)
      = (PlainPath.ofText path).reduce.names := by
    rw [← resolve_filter, isAbsolute_eq]
    rfl
  rw [normalize, names]
  rfl

lemma normalize_normalize (path : Text) : normalize (normalize path) = normalize path := by
  rw [normalize_eq path, normalize_eq, PlainPath.ofText_text, PlainPath.reduce_reduce]

lemma normalize_ne_nil (path : Text) : normalize path ≠ [] := by
  rw [normalize, orHere]
  split_ifs with empty
  · decide
  · exact empty

/-- Nothing is written that is not in the path, but for points and slashes. -/
lemma mem_of_mem_normalize {path : Text} {c : Char} (notPoint : c ≠ '.') (notSlash : c ≠ '/')
    (h : c ∈ normalize path) : c ∈ path := by
  have inLead : c ∉ lead path := by
    rw [lead]
    split <;> simp [notSlash]
  rw [normalize, orHere] at h
  split_ifs at h
  · exact absurd (List.mem_singleton.mp h) notPoint
  · rcases List.mem_append.mp h with h | h
    · exact absurd h inLead
    · rcases Text.mem_of_mem_intercalate h with h | ⟨name, hname, h⟩
      · exact absurd (List.mem_singleton.mp h) notSlash
      · have joined : c ∈ ['/'].intercalate (components path) :=
          Text.mem_intercalate_of_mem (mem_of_mem_resolve hname) h
        rwa [components, List.intercalate_splitOn] at joined

/-! ### Respellings -/

lemma lead_append_slash {path : Text} {c : Char} (mem : c ∈ path) (notSlash : c ≠ '/') :
    lead (path ++ ['/']) = lead path := by
  have stops : (path.takeWhile (· == '/')).length ≠ path.length := by
    intro whole
    have slashes := List.takeWhile_eq_self_iff.mp ((List.takeWhile_prefix _).eq_of_length whole)
    exact notSlash (by simpa using slashes c mem)
  rw [lead, List.takeWhile_append, if_neg stops, ← lead]

lemma ofText_append_slash {path : Text} {c : Char} (mem : c ∈ path) (notSlash : c ≠ '/') :
    PlainPath.ofText (path ++ ['/']) = PlainPath.ofText path := by
  ext1
  · exact lead_append_slash mem notSlash
  · have last : components (path ++ ['/']) = components path ++ [[]] :=
      List.splitOn_append_cons_self path []
    rw [PlainPath.names_ofText, last, List.filter_append, ← PlainPath.names_ofText]
    exact List.append_nil _

/-- `Respells path path'` says that `path'` is the path, its normal form, or the path with a slash
at its end. The empty path has no other spelling, and slashes alone get no more of them. -/
inductive Respells : Text → Text → Prop
  | same (path : Text) : Respells path path
  | normal {path : Text} (nonempty : path ≠ []) : Respells path (normalize path)
  | slash {path : Text} {c : Char} (mem : c ∈ path) (notSlash : c ≠ '/') :
      Respells path (path ++ ['/'])

variable {path path' : Text}

lemma Respells.normalize_eq (h : Respells path path') : normalize path' = normalize path := by
  cases h with
  | same => rfl
  | normal => exact normalize_normalize path
  | slash mem notSlash =>
    rw [Path.normalize_eq, ofText_append_slash mem notSlash, ← Path.normalize_eq]

lemma Respells.eq_nil_iff (h : Respells path path') : path' = [] ↔ path = [] := by
  cases h with
  | same => rfl
  | normal nonempty => exact iff_of_false (normalize_ne_nil path) nonempty
  | slash mem => exact iff_of_false (by simp) (List.ne_nil_of_mem mem)

lemma Respells.mem_of_mem {c : Char} (h : Respells path path') (notPoint : c ≠ '.')
    (notSlash : c ≠ '/') (mem : c ∈ path') : c ∈ path := by
  cases h with
  | same => exact mem
  | normal => exact mem_of_mem_normalize notPoint notSlash mem
  | slash => simpa [notSlash] using mem

end Path

end TreeDump
