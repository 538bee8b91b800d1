import TreeDump.Text.Basic

/-!
# Paths

Paths are texts: names between slashes. `normalize` gives the shortest spelling that does not need
the file system: no empty component, no `.`, and `..` only where it cannot cancel a name. One
leading slash and two leading slashes are different; more of them count as one.
-/

namespace TreeDump.Path

/-- The component that names the directory itself. -/
def here : Text := ['.']

/-- The component that names the parent directory. -/
def up : Text := ['.', '.']

/-- The parts of a path between slashes, empty ones included. -/
def components (path : Text) : List Text :=
  path.splitOn '/'

theorem slash_not_mem_of_mem_components {path name : Text} (h : name ∈ components path) :
    '/' ∉ name :=
  Text.not_mem_of_mem_splitOn h

/-- Does the path start at the root? -/
def isAbsolute (path : Text) : Bool :=
  path.head? == some '/'

/-- The leading slashes that count: none, one, or exactly two. -/
def lead (path : Text) : Text :=
  match (path.takeWhile (· == '/')).length with
  | 0 => []
  | 2 => ['/', '/']
  | _ => ['/']

/-- Add a component to the components before it, which are listed backwards. In a rooted path
there is nothing above the start. -/
def push (rooted : Bool) (done : List Text) (component : Text) : List Text :=
  if component = [] ∨ component = here then done
  else if component = up then
    match done with
    | [] => if rooted then [] else [up]
    | last :: rest => if last = up then up :: last :: rest else rest
  else component :: done

/-- Components without the empty ones, without `.`, and with each `..` cancelled where it can
be. -/
def resolve (rooted : Bool) (names : List Text) : List Text :=
  (names.foldl (push rooted) []).reverse

/-- A text, or `.` in place of an empty one. -/
def orHere (path : Text) : Text :=
  if path = [] then here else path

/-- The shortest spelling of a path. -/
def normalize (path : Text) : Text :=
  orHere (lead path ++ ['/'].intercalate (resolve (isAbsolute path) (components path)))

/-- The path of `name` seen from `directory`. -/
def join (directory name : Text) : Text :=
  if isAbsolute name then name
  else if directory = [] ∨ directory.getLast? = some '/' then directory ++ name
  else directory ++ '/' :: name

/-- The normal form of a path seen from the working directory. -/
def absolute (workingDirectory path : Text) : Text :=
  normalize (join workingDirectory path)

/-- The part of a path after its last slash. -/
def baseName (path : Text) : Text :=
  (path.reverse.takeWhile (· != '/')).reverse

/-- The part of a path up to its last slash, without the slashes at its end unless it has nothing
else. -/
def parentOf (path : Text) : Text :=
  let head := Text.dropEndWhile (· != '/') path
  if head.all (· == '/') then head else Text.dropEndWhile (· == '/') head

end TreeDump.Path
