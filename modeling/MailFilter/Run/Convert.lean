import MailFilter.Filter.Document
import MailFilter.Filter.Source
import MailFilter.Run.Config
import MailFilter.Run.Help
import MailFilter.Sieve.Check

/-!
# Conversion of one file

A filter file is loaded as a document or as filter text, by its suffix; its filters become one
script, which is checked and then written to a folder or to the output.
-/
namespace MailFilter

namespace Run

variable [Platform]

/-- Reads filter text. Nothing needs to be decoded in an empty file. -/
def loadSource (path encoding : Text) : Run FilterSet := do
  let bytes ← readBytes path
  refuse (charsetFault? encoding)
  let text ← if bytes.isEmpty then pure [] else decodeAs (·.decode?) encoding bytes
  report (FilterSet.parseJournal text)
  return FilterSet.parse text

/-- A document can be read in the character set of the system, which is UTF-8. -/
def documentCharset (encoding : Text) : Text :=
  if encoding == "locale".toList then "utf-8".toList else encoding

/-- Reads a filter document. -/
def loadDocument (path encoding : Text) : Run FilterSet := do
  refuse (charsetFault? encoding)
  let text ← decodeAs (·.decodeFile?) (documentCharset encoding) (← readBytes path)
  let text := Text.unifyLineEnds text
  report (FilterSet.documentJournal text)
  match FilterSet.parseDocument text with
  | .ok fs => return fs
  | .error f => throw f

/-- Loads the filters of a file. -/
def loadFilters (path encoding : Text) : Run FilterSet :=
  let p := Path.parse path
  if isDocumentPath p then loadDocument p.text encoding else loadSource p.text encoding

/-- The script of a filter set. -/
def convertSet (fs : FilterSet) (name : Text) : Run Sieve.Script := do
  report (Sieve.Script.filterSetJournal fs)
  return Sieve.Script.ofFilterSet name fs

/-- The given name, or the default one where none or an empty one is given. -/
def nameOr (given : Option Text) (path : Text) : Text :=
  match given with
  | some n => if n.isEmpty then defaultScriptName path else n
  | none => defaultScriptName path

def convertFile (path : Text) (name : Option Text) (encoding : Text) : Run Sieve.Script := do
  let fs ← loadFilters path encoding
  convertSet fs (nameOr name path)

/-- Checks a script against the filter set it was made from. -/
def verify (fs : FilterSet) (script : Sieve.Script) : Run Bool := do
  let verdict := Sieve.Verdict.of fs script
  report (verdict.journal script.name)
  return verdict.accepted

/-- Writes a text into a file. Opening the file empties it, and an empty file is all that is left of
a text that cannot be encoded. -/
def writeText (path text : Text) : Run Unit := do
  match Text.Utf8.encode? text with
  | some bytes => writeBytes path bytes
  | none => do
    writeBytes path []
    throw .unencodable

/-- Writes one script into a folder that exists. -/
def writeScript (dest : Path) (script : Sieve.Script) : Run Text := do
  let path := Path.text ⟨dest.root, dest.parts ++ [scriptFileName script.name]⟩
  writeText path script.content
  note .info ("Wrote ".toList ++ path)
  return path

/-- Writes scripts into a folder, which is made where it is missing, and gives their paths. -/
def writeScripts (scripts : List Sieve.Script) (dest : Path) : Run (List Text) := do
  ensureFolders dest.root dest.parts.reverse
  scripts.mapM (writeScript dest)

/-- An option that is given and not empty. -/
def given (o : Option Text) : Option Text :=
  match o with
  | some t => if t.isEmpty then none else some t
  | none => none

/-- The configuration that a command line asks for; from then on the journal keeps what its level
admits. -/
def configure (request : Request) : Run Config := do
  let config ← Config.load ((given request.config).map Path.parse) Config.variableStart
  let level := if request.verbose then "DEBUG".toList else config.logLevel
  setThreshold (← MonadExcept.ofExcept (Config.threshold level))
  return config

/-- Goes on with nothing after a failure that concerns one file only. -/
def orElseNote {α : Type} (run : Run α) (message : Text → Text) : Run (Option α) :=
  tryCatch (some <$> run) fun failure =>
    if failure.isTolerable then do
      note .error (message (failure.message?.getD []))
      return none
    else throw failure

/-- Converts the filters of one file and gives the status of the run. -/
def convertLoaded (request : Request) (config : Config) (fs : FilterSet) : Run Nat := do
  let script ← convertSet fs (nameOr request.name request.file)
  let accepted ←
    if config.verify && !request.skipVerify then do
      note .info "Performing consistency check...".toList
      verify fs script
    else pure true
  if accepted then
    match given request.outputDir with
    | some dir => let _ ← writeScripts [script] (Path.parse dir)
    | none => print script.content
    return 0
  else
    note .error "Output generation aborted due to verification failure.".toList
    return 1

/-- The command that converts one file. -/
def convert (args : List Text) : Run Nat := do
  let request ← request CommandLine.convert args
  let config ← configure request
  if ← reaches request.file then
    let loaded ← orElseNote (loadFilters request.file config.encoding) fun m =>
      "Cannot load ".toList ++ request.file ++ ": ".toList ++ m
    match loaded with
    | none => return 1
    | some fs =>
      if fs.entries.isEmpty then
        note .warning ("No usable filters in ".toList ++ request.file)
        return 0
      else convertLoaded request config fs
  else
    note .error ("File not found: ".toList ++ request.file)
    return 1

end Run

end MailFilter
