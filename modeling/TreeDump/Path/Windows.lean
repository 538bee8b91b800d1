import TreeDump.Path.Basic
import TreeDump.Text.LowerCase

/-!
# Windows paths

Paths with drives, written with backslashes, and the key under which two spellings of one
directory agree.
-/

namespace TreeDump.WindowsPath

/-- Write slashes as backslashes. -/
def withBackslashes (path : Text) : Text :=
  path.map fun c => if c = '/' then '\\' else c

/-- A backslash. -/
def isBackslash (c : Char) : Bool :=
  c == '\\'

/-- Split a text behind `n` characters and the two components that come next, without the
backslash that ends them. There may be fewer components. -/
def splitAfterTwo (n : Nat) (path : Text) : Text × Text :=
  let first := (path.drop n).takeWhile fun c => !isBackslash c
  match path.drop (n + first.length) with
  | [] => (path, [])
  | _ :: r =>
    let second := r.takeWhile fun c => !isBackslash c
    let length := n + first.length + 1 + second.length
    (path.take length, path.drop length)

/-- The device prefix under which network drives are reached. -/
def networkDevice : Text := "\\\\?\\UNC\\".toList

/-- Split a path into its drive and the rest. A drive is a letter and a colon, or a server and a
share behind two backslashes. -/
def splitDrive (path : Text) : Text × Text :=
  match path with
  | '\\' :: '\\' :: _ =>
    let start := if (path.take 8).map Char.toUpper = networkDevice then 8 else 2
    splitAfterTwo start path
  | drive :: ':' :: r => ([drive, ':'], r)
  | _ => ([], path)

/-- The shortest spelling of a path. -/
def normalize (path : Text) : Text :=
  let (drive, rest) := splitDrive (withBackslashes path)
  let lead := if rest.head? = some '\\' then drive ++ ['\\'] else drive
  let rooted := lead.getLast? == some '\\'
  let names := Path.resolve rooted ((rest.dropWhile isBackslash).splitOn '\\')
  if lead = [] ∧ names = [] then Path.here else lead ++ ['\\'].intercalate names

/-- The spelling without regard to case. -/
def key (path : Text) : Text :=
  Text.lower (withBackslashes (normalize path))

end TreeDump.WindowsPath
