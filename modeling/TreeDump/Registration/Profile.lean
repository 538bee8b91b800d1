import TreeDump.FileSystem.Access
import TreeDump.Registration.Basic

/-!
# Registration in a profile

On POSIX systems a directory is registered by a line at the end of the user's profile. A profile
that holds the line anywhere is left alone.
-/

namespace TreeDump

namespace Profile

/-- The profile in a home directory. Slashes at its end do not count, and what starts with a tilde
is no directory but stands for one. -/
def ofHome (home : Text) : Except Failure PlainPath :=
  match Text.dropEndWhile (· == '/') home with
  | '~' :: _ => .error .noHome
  | [] => .ok ((PlainPath.ofText ['/']).child ".profile".toList)
  | home => .ok ((PlainPath.ofText home).child ".profile".toList)

/-- What comes before the directory in a line that registers it. -/
def exportStart : Text := "export PATH=\"$PATH:".toList

/-- The line that registers a directory. -/
def exportLine (directory : Text) : Text :=
  exportStart ++ directory ++ ['"']

/-- The line before it. -/
def marker : Text := "# Added by codestruct --set-path".toList

/-- The line feed that comes before an entry, when the text there is not empty and does not end in
one. -/
def opening (existing : Text) : Text :=
  if existing ≠ [] ∧ existing.getLast? ≠ some '\n' then ['\n'] else []

/-- The two lines for a directory, which need not be text. -/
def entry (directory : RawText) : RawText :=
  .ofText (marker ++ '\n' :: exportStart) ++ directory ++ .ofText ['"', '\n']

/-- Does a profile register a directory already? It is a text, so that it has no line for what is
none. -/
def registers (existing : Text) (directory : RawText) : Bool :=
  directory.text?.any fun directory => Text.includes (exportLine directory) existing

end Profile

namespace FileSystem

/-- The text of a profile, which is empty when there is no profile. -/
def profileText (fs : FileSystem) (profile : PlainPath) : Except Failure Text := do
  if ← (fs.exists? profile.text).mapError .file then
    let bytes ← (fs.readAllowed profile.text).mapError .file
    let text ← (Utf8.decode bytes).mapError .decoding
    return text.unifyNewlines
  else return []

/-- Write an entry for a directory at the end of a profile with the given text. The line feed before
it goes out first, so that it is written even when the entry cannot be. -/
def appendEntry (fs : FileSystem) (profile : PlainPath) (existing : Text) (directory : RawText) :
    FileSystem × Except Failure Registration :=
  let (entry, outcome) :=
    match Utf8.encodeRaw (Profile.entry directory) with
    | .ok bytes => (bytes, .ok .added)
    | .error e => ([], .error (.encoding e))
  match fs.appendAllowed profile.text (Utf8.encode (Profile.opening existing) ++ entry) with
  | .ok fs' => (fs', outcome)
  | .error e => (fs, .error (.file e))

/-- Register a directory in a profile. -/
def addToProfile (fs : FileSystem) (profile : PlainPath) (directory : RawText) :
    FileSystem × Except Failure Registration :=
  match fs.profileText profile with
  | .error cause => (fs, .error cause)
  | .ok existing =>
    if Profile.registers existing directory then (fs, .ok .present)
    else fs.appendEntry profile existing directory

/-- Register a directory, unless the search path of the process has it. Only then is there a need
for a profile. What the system refuses is a failed registration; any other failure is an error. -/
def register (fs : FileSystem) (searchPath : RawText) (profile : Except Failure PlainPath)
    (directory : RawText) : FileSystem × Except Failure Registration :=
  if SearchList.posix.holdsRaw searchPath directory then (fs, .ok .present)
  else
    match profile with
    | .error cause => (fs, .error cause)
    | .ok profile =>
      match fs.addToProfile profile directory with
      | (fs', .error (.file (.system error path))) =>
        (fs', .ok (.failed (FileError.message (.system error path))))
      | result => result

end FileSystem

end TreeDump
