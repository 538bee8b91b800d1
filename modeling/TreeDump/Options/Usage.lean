import TreeDump.Options.Basic
import TreeDump.Text.Integer
import TreeDump.Text.Quoted

/-!
# Usage

The spellings of the flags, the summary of the command line, and the complaints about one. The
summary is set in lines that fit the columns of the screen.
-/

namespace TreeDump

namespace Flag

/-- The spellings of all flags, in the order in which they are offered. -/
def spellings : List (Text × Flag) :=
  [("-h", .switch .help), ("--help", .switch .help), ("-c", .switch .console),
   ("--console", .switch .console), ("--cl", .switch .cleanup), ("-s", .switch .outline),
   ("--structure", .switch .outline), ("-d", .switch .directories),
   ("--directories", .switch .directories), ("--set-path", .switch .setPath),
   ("--config", .setting .config), ("--progress", .switch .progress),
   ("--enable-logging", .switch .logging), ("--log-file", .setting .logFile)].map
    fun (spelling, flag) => (spelling.toList, flag)

/-- The flag with a spelling. -/
def ofSpelling? (spelling : Text) : Option Flag :=
  spellings.lookup spelling

/-- The spellings of a flag, between slashes. -/
def title (flag : Flag) : Text :=
  ['/'].intercalate ((spellings.filter fun entry => entry.2 = flag).map Prod.fst)

end Flag

namespace Usage

/-- The name of the program. -/
def programName : Text := "codestruct".toList

/-! ### Width -/

/-- The number of columns that the environment states, and eighty when it states none. -/
def columns (stated : Option Text) : Nat :=
  match stated.bind Text.toInt? with
  | some n => if 0 < n then n.toNat else 80
  | none => 80

/-- The greatest length of a line. -/
def lineWidth (columns : Nat) : Nat :=
  columns - 2

/-! ### Summary -/

/-- What the summary shows for the flags. -/
def flagParts : List Text :=
  ["[-h]", "[-c]", "[--cl]", "[-s]", "[-d]", "[--set-path]", "[--config CONFIG]", "[--progress]",
   "[--enable-logging]", "[--log-file LOG_FILE]"].map String.toList

/-- What the summary shows for the directory. -/
def directoryPart : Text := "[directory]".toList

/-- Go on from `line` with parts, one space apart. A line that is full is followed by an indented
one; a part that is too long for any line gets a line of its own. -/
def packFrom (width : Nat) (indent line : Text) : List Text → List Text
  | [] => [line]
  | part :: parts =>
    if width < line.length + 1 + part.length then
      line :: packFrom width indent (indent ++ part) parts
    else packFrom width indent (line ++ ' ' :: part) parts

/-- Set parts in indented lines of their own. -/
def pack (width : Nat) (indent : Text) : List Text → List Text
  | [] => []
  | part :: parts => packFrom width indent (indent ++ part) parts

/-- The word before the summary. -/
def summaryLabel : Text := "usage: ".toList

/-- The start of the summary. -/
def summaryStart : Text := summaryLabel ++ programName

/-- The lines of the summary. When it does not fit one line, the directory gets a line of its own,
and the flags stand beside the name of the program only if that leaves them a quarter of the
line. -/
def summaryLines (width : Nat) : List Text :=
  let line := [' '].intercalate (summaryStart :: flagParts ++ [directoryPart])
  if line.length ≤ width then [line]
  else if 4 * summaryStart.length ≤ 3 * width then
    let indent := List.replicate (summaryStart.length + 1) ' '
    packFrom width indent summaryStart flagParts ++ pack width indent [directoryPart]
  else
    let indent := List.replicate summaryLabel.length ' '
    summaryStart :: pack width indent flagParts ++ pack width indent [directoryPart]

/-- The summary of the command line. -/
def summary (width : Nat) : Text :=
  (summaryLines width).flatMap fun line => line ++ ['\n']

/-! ### Complaints -/

/-- What is wrong with a command line. -/
inductive Complaint
  | ambiguous (word : Text) (candidates : List Text)
  | missingValue (flag : Flag)
  | unwantedValue (flag : Flag) (value : Text)
  | unrecognized (words : List Text)
  deriving DecidableEq, Repr

/-- The wording of a complaint. -/
def Complaint.message : Complaint → Text
  | .ambiguous word candidates =>
    "ambiguous option: ".toList ++ word ++ " could match ".toList
      ++ ", ".toList.intercalate candidates
  | .missingValue flag => "argument ".toList ++ flag.title ++ ": expected one argument".toList
  | .unwantedValue flag value =>
    "argument ".toList ++ flag.title ++ ": ignored explicit argument ".toList ++ value.quoted
  | .unrecognized words => "unrecognized arguments: ".toList ++ [' '].intercalate words

/-- What is printed with a complaint. -/
def Complaint.output (width : Nat) (complaint : Complaint) : Text :=
  summary width ++ programName ++ ": error: ".toList ++ complaint.message ++ ['\n']

end Usage

end TreeDump
