import TreeDump.Options.Usage
import TreeDump.Text.Filled

/-!
# Help

The help text: the summary, what the program does, and an item for the directory and for each flag.
All of it is set in lines that fit the columns of the screen.
-/

namespace TreeDump.Usage

/-! ### Items -/

/-- The column in which explanations start. -/
def helpColumn (width : Nat) : Nat :=
  min 23 (max (width - 20) 4)

/-- The least length of a line of running text, however narrow the screen is. -/
def leastLength : Nat := 11

/-- An item of the help text: its name, and its explanation beside it, or below it when there is
no room beside it. -/
def helpItem (width : Nat) (name explanation : Text) : Text :=
  let column := helpColumn width
  let indent := List.replicate column ' '
  let heading :=
    if name.length ≤ column - 4 then
      ' ' :: ' ' :: name ++ List.replicate (column - 2 - name.length) ' '
    else ' ' :: ' ' :: name ++ '\n' :: indent
  heading ++ ('\n' :: indent).intercalate (explanation.fill (max (width - column) leastLength))
    ++ ['\n']

/-! ### The text -/

/-- The items of the options. -/
def optionItems (defaultConfig : Text) : List (Text × Text) :=
  [("-h, --help".toList, "show this help message and exit".toList),
   ("-c, --console".toList, "Output to console instead of clipboard".toList),
   ("--cl".toList, "Clean up file content (strip comments, collapse whitespace)".toList),
   ("-s, --structure".toList, "Generate file and directory structure".toList),
   ("-d, --directories".toList, "Generate only directory structure without files".toList),
   ("--set-path".toList, "Set CodeStruct path in system environment variables".toList),
   ("--config CONFIG".toList,
    "Configuration file (default: $CODESTRUCT_CONFIG or ".toList ++ defaultConfig ++ ")".toList),
   ("--progress".toList, "Show a progress bar while scanning".toList),
   ("--enable-logging".toList, "Enable detailed logging to file".toList),
   ("--log-file LOG_FILE".toList, "Log file path (default: codestruct.log)".toList)]

/-- What the program does. -/
def description : Text :=
  "Copy the source files of a directory tree as one text block".toList

/-- The help text, which names the default configuration file. -/
def help (width : Nat) (defaultConfig : Text) : Text :=
  summary width ++ '\n' :: ['\n'].intercalate (description.fill (max width leastLength))
    ++ "\n\npositional arguments:\n".toList
    ++ helpItem width "directory".toList
      "Directory to scan (default: current working directory)".toList
    ++ "\noptions:\n".toList
    ++ (optionItems defaultConfig).flatMap fun (name, explanation) =>
      helpItem width name explanation

end TreeDump.Usage
