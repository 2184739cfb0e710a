import MailFilter.Json.Reader
import MailFilter.Run.Convert

/-!
# Batches

A batch converts one filter file for each mailbox of a list:

    [{"mailbox": "chris", "path": "home/chris/filter.yaml"}]

The script of a mailbox goes into a folder of its own. A file that is missing or holds no filters
is skipped; one that cannot be loaded, verified or written counts as failed, and the batch goes
on.
-/
namespace MailFilter

/-- How many mailboxes were converted and how many failed. -/
structure Tally where
  converted : Nat := 0
  failed : Nat := 0
  deriving DecidableEq, Repr

/-- What became of one mailbox. -/
inductive Outcome where
  | converted
  | failed
  | skipped
  deriving DecidableEq, Repr

def Tally.add (t : Tally) : Outcome → Tally
  | .converted => { t with converted := t.converted + 1 }
  | .failed => { t with failed := t.failed + 1 }
  | .skipped => t

namespace Run

variable [Platform]

/-- The value under a key that must be there. -/
def requireKey (fs : Fields) (key : Text) : Run Value :=
  match Value.find? fs key with
  | some v => pure v
  | none => throw (.missingKey key)

/-- The streams that are open from the start have the numbers zero to two. -/
def isOpenStream (n : Int) : Bool := 0 ≤ n && n ≤ 2

/-- Streams are numbered by signed words of 32 bits. -/
def isStreamNumber (n : Int) : Bool := -2147483648 ≤ n && n ≤ 2147483647

/-- The path of a mapping leads somewhere. A number stands for an open stream. -/
def mappedPathExists : Value → Run Bool
  | .text path => reaches path
  | .int n => if isStreamNumber n then pure (isOpenStream n) else throw .unusableStream
  | .bool _ => pure true
  | _ => throw .wrongType

def loadMapped (path : Value) (encoding : Text) : Run FilterSet :=
  match path with
  | .text p => loadFilters p encoding
  | _ => throw .wrongType

/-- The folder of a mailbox, whose name must be a text. -/
def mailboxFolder (outputDir : Text) : Value → Run Path
  | .text m => pure ((Path.parse outputDir).join (Path.parse m))
  | _ => throw .wrongType

/-- Converts the file of a mailbox that exists. -/
def convertMailbox (mailbox path : Value) (outputDir : Text) (skipVerify : Bool)
    (encoding : Text) : Run Outcome := do
  let name := mailbox.toText
  let fs ← loadMapped path encoding
  if fs.entries.isEmpty then
    note .warning ("[SKIP] No usable filters for ".toList ++ name)
    return .skipped
  else
    let script ← convertSet fs name
    let accepted ← if skipVerify then pure true else verify fs script
    if accepted then
      let _ ← writeScripts [script] (← mailboxFolder outputDir mailbox)
      return .converted
    else
      note .error ("[ERROR] Verification failed for ".toList ++ name ++ "; not writing".toList)
      return .failed

/-- Carries out one mapping. -/
def convertMapping (outputDir : Text) (skipVerify : Bool) (encoding : Text) :
    Value → Run Outcome
  | .map fs => do
    let mailbox ← requireKey fs "mailbox".toList
    let path ← requireKey fs "path".toList
    let name := mailbox.toText
    if ← mappedPathExists path then
      note .info ("[PROCESS] ".toList ++ name)
      let outcome ← orElseNote (convertMailbox mailbox path outputDir skipVerify encoding) fun m =>
        "[ERROR] Failed to convert ".toList ++ name ++ ": ".toList ++ m
      return outcome.getD .failed
    else
      note .warning
        ("[SKIP] Filter file not found for ".toList ++ name ++ ": ".toList ++ path.toText)
      return .skipped
  | _ => throw .wrongType

/-- Carries out the mappings in order. -/
def convertMappings (outputDir : Text) (skipVerify : Bool) (encoding : Text) (tally : Tally) :
    List Value → Run Tally
  | [] => return tally
  | m :: ms => do
    let outcome ← convertMapping outputDir skipVerify encoding m
    convertMappings outputDir skipVerify encoding (tally.add outcome) ms

/-- The mappings that a value lists. An empty text or mapping lists none. -/
def mappingList : Value → Run (List Value)
  | .list vs => pure vs
  | .map [] => pure []
  | .text [] => pure []
  | _ => throw .wrongType

/-- Converts every mailbox that a value lists. -/
def convertAll (mappings : Value) (outputDir : Text) (skipVerify : Bool) (encoding : Text) :
    Run Tally := do
  convertMappings outputDir skipVerify encoding {} (← mappingList mappings)

/-- The list of mappings in a file. -/
def readMappings (path : Text) : Run Value := do
  match Json.read (← readText path) with
  | .ok v => return v
  | .error .malformed => throw .invalidJson
  | .error .oversized => throw .oversizedNumber
  | .error .tooDeep => throw .deepJson

/-- The command that converts a batch. -/
def batch (args : List Text) : Run Nat := do
  let request ← request CommandLine.batch args
  let config ← configure request
  if ← reaches request.file then
    let mappings ← readMappings request.file
    let tally ← convertAll mappings ((given request.outputDir).getD config.outputDir)
      (request.skipVerify || !config.verify) config.encoding
    note .info
      ("Converted ".toList ++ Text.ofNat tally.converted ++ " mailboxes, ".toList ++
        Text.ofNat tally.failed ++ " failed".toList)
    return if tally.failed == 0 then 0 else 1
  else
    note .error ("Mapping file not found: ".toList ++ request.file)
    return 1

end Run

end MailFilter
