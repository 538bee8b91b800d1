import TreeDump.FileSystem.Basic
import TreeDump.Path.Basic

/-!
# Resolving paths

How a path leads to a node: name by name from the root or the working directory, links followed
where they are met, and `..` taken from the place that is really reached. Forty links are followed
in one path and no more; names of more than 255 bytes and paths of more than 4095 are refused. A
name with a slash after it is one of a directory, so that no file is written under it.
-/

namespace TreeDump

/-- The number of bytes of a text in UTF-8. -/
def Text.utf8Length : Text → Nat
  | [] => 0
  | c :: r => c.utf8Size + utf8Length r

namespace FileSystem

/-- The length in bytes from which on a path is too long. -/
def pathLimit : Nat := 4096

/-- The greatest length in bytes of a name. -/
def nameLimit : Nat := 255

/-- The number of links that are followed in one path. -/
def linkLimit : Nat := 40

/-- What a path is resolved for. -/
inductive Purpose
  /-- to look at what it leads to -/
  | look
  /-- to look at its last name itself, also when that is a link -/
  | lookAtName
  /-- to write the file that it leads to, which need not be there -/
  | write
  deriving DecidableEq, Repr

/-- What a path leads to: a place, and the node there. A place without a node lies in a directory
that is there. -/
abbrev Target := List Text × Option Node

/-- A way down from the root: the names on it, the last one first, each with all that lies under
it. -/
abbrev Trail := List (Text × Trie Node)

/-- The names on a trail, from the root on. -/
def Trail.names (trail : Trail) : List Text :=
  (trail.map Prod.fst).reverse

/-- All that lies under the end of a trail. -/
def Trail.below (fs : FileSystem) : Trail → Trie Node
  | [] => fs.nodes
  | (_, below) :: _ => below

/-- The trail one name longer. -/
def Trail.down (fs : FileSystem) (trail : Trail) (name : Text) : Trail :=
  (name, (trail.below fs).branch name) :: trail

/-- The trail to a path of names. -/
def trailTo (fs : FileSystem) (names : List Text) : Trail :=
  names.foldl (Trail.down fs) []

/-- The place where a path starts. -/
def start (fs : FileSystem) (path : Text) : List Text :=
  if Path.isAbsolute path then [] else fs.workingDirectory

/-- Does nothing but slashes come after a name, and one at least? -/
def slashesOnly (rest : List Text) : Bool :=
  !rest.isEmpty && rest.all List.isEmpty

/-- Go through components from the directory at the end of a trail. At a link, `onLink` takes over
with the components that are left. -/
def advance (fs : FileSystem) (purpose : Purpose)
    (onLink : Trail → List Text → Except SystemError Target) (trail : Trail) :
    List Text → Except SystemError Target
  | [] => .ok (trail.names, some .directory)
  | name :: rest =>
    if name = [] ∨ name = Path.here then advance fs purpose onLink trail rest
    else if name = Path.up then advance fs purpose onLink trail.tail rest
    else if purpose = .write ∧ slashesOnly rest then .error .isDirectory
    else if nameLimit < Text.utf8Length name then .error .nameTooLong
    else
      let next := trail.down fs name
      match (next.below fs).value with
      | none => if rest = [] then .ok (next.names, none) else .error .notFound
      | some .directory => advance fs purpose onLink next rest
      | some (.link target) =>
        if rest = [] ∧ purpose = .lookAtName then .ok (next.names, some (.link target))
        else onLink (if Path.isAbsolute target then [] else trail) (Path.components target ++ rest)
      | some node => if rest = [] then .ok (next.names, some node) else .error .notDirectory

/-- Go through components and follow at most the given number of links. -/
def follow (fs : FileSystem) (purpose : Purpose) :
    Nat → Trail → List Text → Except SystemError Target
  | 0 => fs.advance purpose fun _ _ => .error .tooManyLinks
  | links + 1 => fs.advance purpose (fs.follow purpose links)

/-- What a path leads to. -/
def resolve (fs : FileSystem) (purpose : Purpose) (path : Text) : Except FileError Target :=
  if '\x00' ∈ path then .error .nullByte
  else if path = [] then .error (.system .notFound path)
  else if pathLimit ≤ Text.utf8Length path then .error (.system .nameTooLong path)
  else if fs.node? (fs.start path) = some .directory then
    (fs.follow purpose linkLimit (fs.trailTo (fs.start path)) (Path.components path)).mapError
      (.system · path)
  else .error (.system .notFound path)

/-! ### Trails and paths of names -/

theorem names_down (fs : FileSystem) (trail : Trail) (name : Text) :
    (trail.down fs name).names = trail.names ++ [name] := by
  simp [Trail.down, Trail.names]

theorem trailTo_concat (fs : FileSystem) (names : List Text) (name : Text) :
    fs.trailTo (names ++ [name]) = (fs.trailTo names).down fs name := by
  simp [trailTo]

theorem below_foldl_down (fs : FileSystem) (names : List Text) (trail : Trail) :
    (names.foldl (Trail.down fs) trail).below fs = (trail.below fs).sub names := by
  induction names generalizing trail with
  | nil => rfl
  | cons name names ih => exact ih (trail.down fs name)

/-- What lies under the end of a trail lies under the path of its names. -/
theorem below_trailTo (fs : FileSystem) (names : List Text) :
    (fs.trailTo names).below fs = fs.nodes.sub names :=
  below_foldl_down fs names []

/-! ### Denial -/

/-- The absolute path in normal form, as it is compared with the paths that are denied. -/
def absolute (fs : FileSystem) (path : Text) : Text :=
  Path.absolute (absoluteText fs.workingDirectory) path

/-- Is the program denied this at a path? What may not be opened may be neither read nor written. -/
def isDenied (fs : FileSystem) (denial : Denial) (path : Text) : Bool :=
  fs.denied.contains (.opening, fs.absolute path) || fs.denied.contains (denial, fs.absolute path)

/-- Refuse what is denied at a path, and otherwise go on. -/
def unlessDenied {α : Type} (fs : FileSystem) (denial : Denial) (path : Text)
    (action : Except FileError α) : Except FileError α :=
  if fs.isDenied denial path then .error (.system .denied path) else action

end FileSystem

end TreeDump
