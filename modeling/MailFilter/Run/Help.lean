import MailFilter.Run.Basic
import MailFilter.Run.CommandLine

/-!
# Help

Every command can show how it is used:

    usage: exim2sieve [-h] [--name NAME] [--output-dir OUTPUT_DIR] [--skip-verify]
                      [--config CONFIG] [-v]
                      filter_file

and after that what it does and what its argument and its options mean. The lines are filled as far
as the screen is wide.
-/
namespace MailFilter

namespace CommandLine

/-- An argument or an option as help shows it: its spellings, the name of its value if it has one,
and what it means. -/
structure Entry where
  spellings : List Text
  value : Option Text := none
  meaning : Text

/-- A command with all that its help says. -/
structure Command where
  known : Spellings
  purpose : Text
  argument : Entry
  options : List Entry

end CommandLine

/-! ## Layout -/

namespace Help

def blanks (n : Nat) : Text := List.replicate n ' '

/-- Goes on with a line and starts a new one, behind a margin, whenever the next part is too long
for it. Parts stay whole. -/
def fillFrom (width margin : Nat) (line : Text) : List Text → List Text
  | [] => [line]
  | part :: parts =>
    let longer := line ++ ' ' :: part
    if longer.length ≤ width then fillFrom width margin longer parts
    else line :: fillFrom width margin (blanks margin ++ part) parts

/-- The lines that some parts fill behind a margin. -/
def fill (width margin : Nat) : List Text → List Text
  | [] => []
  | part :: parts => fillFrom width margin (blanks margin ++ part) parts

/-- A word in pieces of one length, the last of which may be shorter. -/
def cut (length : Nat) : Text → List Text
  | [] => []
  | c :: s => (c :: s.take (length - 1)) :: cut length (s.drop (length - 1))
termination_by s => s.length
decreasing_by
  rw [List.length_drop, List.length_cons]
  omega

/-- A word at the start of a line. Where it is too long, it fills some lines before that one. -/
def startLine (width : Nat) (word : Text) : List Text × Text :=
  let pieces := cut width word
  (pieces.dropLast, pieces.getLastD [])

/-- Goes on with a line of words. A word that is longer than a whole line is cut, and its beginning
goes into what is left of the line. -/
def wrapFrom (width : Nat) (line : Text) : List Text → List Text
  | [] => [line]
  | word :: words =>
    if line.length + 1 + word.length ≤ width then wrapFrom width (line ++ ' ' :: word) words
    else if word.length ≤ width || line.length == width then
      let (full, next) := startLine width word
      line :: full ++ wrapFrom width next words
    else
      let room := width - (line.length + 1)
      let (full, next) := startLine width (word.drop room)
      (line ++ ' ' :: word.take room) :: full ++ wrapFrom width next words

/-- The lines of a text. They do not get shorter than 11 characters on any screen. -/
def wrap (width : Nat) (text : Text) : List Text :=
  let width := max width 11
  match Text.words text with
  | [] => []
  | word :: words =>
    let (full, next) := startLine width word
    full ++ wrapFrom width next words

/-- The column in which the meanings start, which is further left on a small screen. -/
def meaningColumn (width : Nat) : Nat := min 24 (max (width - 20) 4)

end Help

namespace CommandLine

namespace Entry

/-- A spelling with the value that it takes. -/
def withValue (e : Entry) (spelling : Text) : Text :=
  match e.value with
  | some v => spelling ++ ' ' :: v
  | none => spelling

/-- The option in the first line of the help. -/
def summary (e : Entry) : Text := '[' :: e.withValue (e.spellings.headD []) ++ [']']

/-- The spellings in front of the meaning. -/
def heading (e : Entry) : Text :=
  "  ".toList ++ Text.join ", ".toList (e.spellings.map e.withValue)

/-- The lines for an entry. The meaning starts on the line of the heading if that leaves two blanks
between them. -/
def lines (width : Nat) (e : Entry) : List Text :=
  let column := Help.meaningColumn width
  let meaning := (Help.wrap (width - column) e.meaning).map (Help.blanks column ++ ·)
  if e.heading.length + 2 ≤ column then
    match meaning with
    | l :: ls => (e.heading ++ l.drop e.heading.length) :: ls
    | [] => [e.heading]
  else e.heading :: meaning

end Entry

namespace Command

/-- How the command is called. If that takes more than one line, the argument has a line for itself,
and so does a long name of the program. -/
def usage (width : Nat) (c : Command) (program : Text) : List Text :=
  let start := "usage: ".toList
  let options := c.options.map (·.summary)
  let argument := c.argument.spellings
  let whole := start ++
    Text.join [' '] ((program :: options ++ argument).filter (! ·.isEmpty))
  let named := start ++ program
  if whole.length ≤ width then [whole]
  else if 4 * named.length ≤ 3 * width then
    let margin := named.length + 1
    Help.fillFrom width margin named options ++ Help.fill width margin argument
  else
    match Help.fill width start.length (options ++ argument) with
    | [line] => [named, line]
    | _ => named :: Help.fill width start.length options ++ Help.fill width start.length argument

/-- The help for a command under the name of the program. The last two columns of the screen stay
free. -/
def help (c : Command) (columns : Nat) (program : Text) : Text :=
  let width := columns - 2
  let lines := c.usage width program ++ [[]] ++ Help.wrap width c.purpose ++
    [[], "positional arguments:".toList] ++ c.argument.lines width ++
    [[], "options:".toList] ++ c.options.flatMap (·.lines width)
  Text.join ['\n'] lines ++ ['\n']

end Command

/-! ## The two commands -/

def helpEntry : Entry :=
  { spellings := ["-h".toList, "--help".toList]
    meaning := "show this help message and exit".toList }

def outputDirEntry (meaning : String) : Entry :=
  { spellings := ["--output-dir".toList]
    value := some "OUTPUT_DIR".toList
    meaning := meaning.toList }

def skipVerifyEntry (meaning : String) : Entry :=
  { spellings := ["--skip-verify".toList], meaning := meaning.toList }

def configEntry : Entry :=
  { spellings := ["--config".toList]
    value := some "CONFIG".toList
    meaning := "Path to exim2sieve.yaml".toList }

def verboseEntry : Entry :=
  { spellings := ["-v".toList, "--verbose".toList], meaning := "Debug logging".toList }

/-- The command for one file. -/
def convert : Command where
  known := convertSpellings
  purpose := "Convert a cPanel Exim filter (filter or filter.yaml) to Sieve.".toList
  argument :=
    { spellings := ["filter_file".toList], meaning := "Path to filter or filter.yaml".toList }
  options :=
    [helpEntry,
      { spellings := ["--name".toList]
        value := some "NAME".toList
        meaning := "Script name (default: mailbox directory or file name)".toList },
      outputDirEntry "Write <name>.sieve into this directory instead of printing",
      skipVerifyEntry "Skip the consistency check of the generated script",
      configEntry, verboseEntry]

/-- The command for a batch. -/
def batch : Command where
  known := batchSpellings
  purpose := "Batch convert cPanel Exim filters to Sieve.".toList
  argument :=
    { spellings := ["mappings".toList]
      meaning := "JSON list of \x7b\"mailbox\": ..., \"path\": ...\x7d".toList }
  options :=
    [helpEntry, outputDirEntry "Destination folder for sieve scripts",
      skipVerifyEntry "Skip the consistency check of generated scripts", configEntry, verboseEntry]

end CommandLine

namespace Run

/-- What the arguments of a command ask for. A command that is asked for help shows it and does
nothing else. -/
def request (command : CommandLine.Command) (args : List Text) : Run Request := do
  match CommandLine.read command.known args with
  | .ok request => return request
  | .error .help => do
    let setting ← read
    print (command.help setting.columns setting.program)
    throw (.exit 0)
  | .error .misuse => throw (.exit 2)

end Run

end MailFilter
