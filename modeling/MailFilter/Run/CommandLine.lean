import MailFilter.Disk.Path
import MailFilter.Text.Digit

/-!
# Command lines

A command line has one plain argument and options before, after and around it. A long option may
be cut short as long as no other one starts the same way, its value follows as the next argument
or after an equals sign, and single letters can be run together, with or without an equals sign
after the first. Everything after `--` is plain. An option for help ends the reading at once.
-/
namespace MailFilter

/-- The options of both commands. -/
inductive Switch where
  | help
  | name
  | outputDir
  | skipVerify
  | config
  | verbose
  deriving DecidableEq, Repr

namespace Switch

def takesValue : Switch → Bool
  | name => true
  | outputDir => true
  | config => true
  | _ => false

end Switch

/-- What a command line asks for. -/
structure Request where
  file : Text := []
  name : Option Text := none
  outputDir : Option Text := none
  skipVerify : Bool := false
  config : Option Text := none
  verbose : Bool := false
  deriving DecidableEq, Repr

namespace CommandLine

/-- The spellings of the options that a command knows. -/
abbrev Spellings := List (Text × Switch)

def common : Spellings :=
  [("-h".toList, .help), ("--help".toList, .help), ("--output-dir".toList, .outputDir),
    ("--skip-verify".toList, .skipVerify), ("--config".toList, .config), ("-v".toList, .verbose),
    ("--verbose".toList, .verbose)]

/-- The options for the conversion of one file. -/
def convertSpellings : Spellings := ("--name".toList, .name) :: common

/-- The options for a batch. -/
def batchSpellings : Spellings := common

/-- What an argument adds to the option that it names: nothing, a value after an equals sign, or
letters run together with a short option. -/
inductive Addition where
  | nothing
  | value (v : Text)
  | letters (cs : Text)
  deriving DecidableEq, Repr

/-- An argument as it is understood. -/
inductive Word where
  | plain (s : Text)
  | mark
  | option (switch : Switch) (addition : Addition)
  | unknown
  | ambiguous
  deriving DecidableEq, Repr

def isShort (spelling : Text) : Bool := !Text.startsWith spelling "--".toList

/-- An argument cut at its first equals sign. -/
def splitValue (arg : Text) : Text × Addition :=
  match Text.after? '=' arg with
  | some v => (Text.before '=' arg, .value v)
  | none => (arg, .nothing)

/-- A negative number is a plain argument. A line feed at its end does no harm. -/
def isNegativeNumber (arg : Text) : Bool :=
  match if Text.endsWith arg ['\n'] then arg.dropLast else arg with
  | '-' :: s =>
    let (whole, rest) := s.span Text.isAnyDigit
    match rest with
    | [] => !whole.isEmpty
    | '.' :: fraction => !fraction.isEmpty && fraction.all Text.isAnyDigit
    | _ => false
  | _ => false

/-- The options that an argument may be short for. -/
def candidates (known : Spellings) (arg : Text) : List Word :=
  if isShort arg then
    (known.filter fun p => p.1 == arg.take 2).map fun p => .option p.2 (.letters (arg.drop 2))
  else
    let (start, addition) := splitValue arg
    (known.filter fun p => Text.startsWith p.1 start).map fun p => .option p.2 addition

/-- How an argument before any `--` is understood. -/
def classify (known : Spellings) (arg : Text) : Word :=
  if !Text.startsWith arg ['-'] || arg == ['-'] then .plain arg
  else
    match known.lookup arg with
    | some s => .option s .nothing
    | none =>
      match splitValue arg, known.lookup (splitValue arg).1 with
      | (spelling, .value v), some s =>
        .option s (if isShort spelling && !s.takesValue && !v.isEmpty then .letters v else .value v)
      | _, _ =>
        match candidates known arg with
        | [w] => w
        | _ :: _ :: _ => .ambiguous
        | [] => if isNegativeNumber arg || arg.contains ' ' then .plain arg else .unknown

/-- The words of a command line. -/
def words (known : Spellings) : List Text → List Word
  | [] => []
  | arg :: args =>
    if arg == "--".toList then .mark :: args.map .plain
    else classify known arg :: words known args

/-- The request so far, the plain argument, and whether something was left over. -/
structure Reading where
  request : Request := {}
  file : Option Text := none
  leftOver : Bool := false

/-- Why a command line leads to no run: it asks for help, or it is wrong. -/
inductive Ending where
  | help
  | misuse
  deriving DecidableEq, Repr

/-- Carries out an option without a value. -/
def setSwitch (r : Reading) : Switch → Except Ending Reading
  | .help => .error .help
  | .skipVerify => .ok { r with request := { r.request with skipVerify := true } }
  | .verbose => .ok { r with request := { r.request with verbose := true } }
  | _ => .ok r

def setValue (r : Reading) (v : Option Text) : Switch → Reading
  | .name => { r with request := { r.request with name := v } }
  | .outputDir => { r with request := { r.request with outputDir := v } }
  | .config => { r with request := { r.request with config := v } }
  | _ => r

/-- The value after an equals sign. Two hyphens alone are no value. -/
def valueOf (v : Text) : Option Text := if v == "--".toList then none else some v

def setSwitches (r : Reading) : List Switch → Except Ending Reading
  | [] => .ok r
  | s :: ss =>
    match setSwitch r s with
    | .error e => .error e
    | .ok r' => setSwitches r' ss

/-- The options that letters stand for, all of which must be known. -/
def readLetters (known : Spellings) : Text → Except Ending (List Switch)
  | [] => .ok []
  | c :: cs =>
    match known.lookup ['-', c] with
    | none => .error .misuse
    | some s => (readLetters known cs).map (s :: ·)

/-- A short option with letters after it. -/
def setLetters (known : Spellings) (r : Reading) (s : Switch) (cs : Text) :
    Except Ending Reading :=
  match readLetters known cs with
  | .error e => .error e
  | .ok ss => setSwitches r (s :: ss)

/-- Takes the words in order. The first plain word is the argument, with a mark next to it. -/
def readWords (known : Spellings) (r : Reading) : List Word → Except Ending Reading
  | [] => .ok r
  | .plain s :: .mark :: ws =>
    match r.file with
    | none => readWords known { r with file := some s } ws
    | some _ => readWords known { r with leftOver := true } ws
  | .mark :: .plain s :: ws =>
    match r.file with
    | none => readWords known { r with file := some s } ws
    | some _ => readWords known { r with leftOver := true } ws
  | .plain s :: ws =>
    match r.file with
    | none => readWords known { r with file := some s } ws
    | some _ => readWords known { r with leftOver := true } ws
  | .mark :: ws => readWords known { r with leftOver := true } ws
  | .unknown :: ws => readWords known { r with leftOver := true } ws
  | .ambiguous :: _ => .error .misuse
  | .option s (.value v) :: ws =>
    if s.takesValue then readWords known (setValue r (valueOf v) s) ws else .error .misuse
  | .option s (.letters cs) :: ws =>
    match setLetters known r s cs with
    | .error e => .error e
    | .ok r' => readWords known r' ws
  | .option s .nothing :: ws =>
    if s.takesValue then
      match ws with
      | .plain v :: ws' => readWords known (setValue r (some v) s) ws'
      | _ => .error .misuse
    else
      match setSwitch r s with
      | .error e => .error e
      | .ok r' => readWords known r' ws

/-- Reads a command line. -/
def read (known : Spellings) (args : List Text) : Except Ending Request :=
  let ws := words known args
  if ws.contains .ambiguous then .error .misuse
  else
    match readWords known {} ws with
    | .error e => .error e
    | .ok r =>
      match r.file with
      | none => .error .misuse
      | some file => if r.leftOver then .error .misuse else .ok { r.request with file }

end CommandLine

end MailFilter
