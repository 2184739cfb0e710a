import MailFilter.Filter.Record
import MailFilter.Run.Basic
import MailFilter.Yaml.Document

/-!
# Configuration

The settings of a run come from a configuration file and from the environment, and the environment
wins. A file that is missing, broken or of the wrong form counts as an empty one.
-/
namespace MailFilter

structure Config where
  logLevel : Text := "INFO".toList
  outputDir : Text := "./backup".toList
  encoding : Text := "utf-8".toList
  verify : Bool := true
  deriving DecidableEq, Repr

namespace Config

variable [Platform]

/-- The words that mean yes. -/
def yesWords : List Text := ["1".toList, "true".toList, "yes".toList, "on".toList]

def isYesWord (t : Text) : Bool := yesWords.contains (Text.lower (Text.trim t))

def isYes : Value → Except Failure Bool
  | .bool b => .ok b
  | v => (Record.textOf v).map isYesWord

/-- A field of a file in the form that a setting has, or the setting as it is. -/
def fieldOr {α : Type} (setting : α) (read : Value → Except Failure α) (fs : Fields) (key : Text) :
    Except Failure α :=
  match Value.find? fs key with
  | some v => read v
  | none => .ok setting

/-- The settings that the fields of a file give. -/
def withFields (c : Config) (fs : Fields) : Except Failure Config := do
  let upper := fun v => (Record.textOf v).map Text.upper
  let logLevel ← fieldOr c.logLevel upper fs "log_level".toList
  let outputDir ← fieldOr c.outputDir Record.textOf fs "output_dir".toList
  let encoding ← fieldOr c.encoding Record.textOf fs "encoding".toList
  let verify ← fieldOr c.verify isYes fs "verify".toList
  return ⟨logLevel, outputDir, encoding, verify⟩

/-- The fields of a configuration file. -/
def readFields (path : Text) : Run Fields := do
  match ← Run.look path with
  | none => return []
  | some _ =>
    let bytes ←
      tryCatch (some <$> Run.readBytes path) fun failure =>
        match failure with
        | .disk _ _ => pure none
        | _ => throw failure
    match bytes.map Yaml.readBytes with
    | none | some (.error .invalid) =>
      Run.note .warning ("Failed to load config from ".toList ++ path)
      return []
    | some (.error f) => throw (.document f)
    | some (.ok v) =>
      match if v.isBlank then some [] else v.fields? with
      | some fs =>
        Run.note .info ("Loaded config from ".toList ++ path)
        return fs
      | none =>
        Run.note .warning
          ("Ignoring config ".toList ++ path ++ ": top level is not a mapping".toList)
        return []

/-- The home folder of a user; no name stands for the user of the run. -/
def homeFolder? (s : Setting) (user : Text) : Option Path :=
  (if user.isEmpty then some s.home else s.homeOf? user).map Path.parse

/-- A path whose first part is a tilde starts at the home folder of the user that follows it. -/
def expandHome (p : Path) : Run Path := do
  if p.root.isEmpty then
    match p.parts with
    | ('~' :: user) :: rest =>
      match homeFolder? (← read) user with
      | some home => return ⟨home.root, home.parts ++ rest⟩
      | none => throw .unknownHome
    | _ => return p
  else return p

/-- The first of the paths that leads somewhere. -/
def firstFound : List Path → Run (Option Path)
  | [] => return none
  | p :: ps => do
    match ← Run.look p.text with
    | some _ => return some p
    | none => firstFound ps

/-- The places where a configuration file is sought. -/
def defaultPaths : Run (List Path) := do
  let own ← expandHome (Path.parse "~/.config/exim2sieve/config.yaml".toList)
  return [Path.parse "exim2sieve.yaml".toList, own, Path.parse "/etc/exim2sieve.yaml".toList]

/-- The configuration file: the one that the environment names, or the first of the default ones. -/
def findFile : Run (Option Path) := do
  let named ←
    match ← Run.setting? "EXIM2SIEVE_CONFIG".toList with
    | some p => pure [← expandHome (Path.parse p)]
    | none => pure []
  firstFound (named ++ (← defaultPaths))

/-- The settings that the environment gives under a common start of their names. -/
def withVariables (c : Config) (start : Text) : Run Config := do
  let logLevel ← Run.setting? (start ++ "LOG_LEVEL".toList)
  let outputDir ← Run.setting? (start ++ "OUTPUT_DIR".toList)
  let encoding ← Run.setting? (start ++ "ENCODING".toList)
  let verify ← Run.setting? (start ++ "VERIFY".toList)
  return {
    logLevel := (logLevel.map Text.upper).getD c.logLevel
    outputDir := outputDir.getD c.outputDir
    encoding := encoding.getD c.encoding
    verify := (verify.map isYesWord).getD c.verify }

/-- The start of the names of the variables. -/
def variableStart : Text := "EXIM2SIEVE_".toList

/-- The configuration from a file, which is sought when none is given, and the environment. -/
def load (path : Option Path) (start : Text) : Run Config := do
  let path ←
    match path with
    | some p => pure (some p)
    | none => findFile
  let fields ←
    match path with
    | some p => readFields p.text
    | none => pure []
  let config ← MonadExcept.ofExcept (({} : Config).withFields fields)
  config.withVariables start

/-- The thresholds that a level name stands for. -/
def levelNames : List (Text × Nat) :=
  [("NOTSET".toList, 0), ("DEBUG".toList, 10), ("INFO".toList, 20), ("WARNING".toList, 30),
    ("WARN".toList, 30), ("ERROR".toList, 40), ("CRITICAL".toList, 50), ("FATAL".toList, 50)]

/-- The names that are taken by something other than a level, with the failure they lead to. -/
def takenNames : List (Text × Failure) :=
  [("BASIC_FORMAT".toList, .unknownLevel), ("_STYLES".toList, .wrongType)]

/-- The threshold for a level name; an unknown name means `INFO`. -/
def threshold (level : Text) : Except Failure Nat :=
  let name := Text.upper level
  match takenNames.lookup name with
  | some f => .error f
  | none => .ok ((levelNames.lookup name).getD 20)

end Config

end MailFilter
