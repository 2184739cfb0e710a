import MailFilter.Disk.Basic
import MailFilter.Journal
import MailFilter.Text.Charset

/-!
# Runs

A run reads its setting, changes a disk, keeps a journal and writes output. When it fails, what it
had done by then stays done.
-/
namespace MailFilter

/-- What a run is given: the folder that relative paths start from, the home folder and those of
other users, the variables of the environment, the character sets, the texts that can be printed,
the width of the screen, and the name under which the program was started. -/
structure Setting where
  base : Location
  home : Text
  environment : List (Text × Text)
  homeOf? : Text → Option Text := fun _ => none
  charset : Text → Except Text.Charset.Fault Text.Charset := Text.Charset.standard
  isPrintable : Text → Bool := fun _ => true
  columns : Nat := 80
  program : Text := "exim2sieve".toList

/-- What a run leaves behind. -/
structure World where
  disk : Disk
  threshold : Nat
  journal : Journal := []
  output : Text := []

abbrev Run := ReaderT Setting (ExceptT Failure (StateM World))

namespace Run

/-- The outcome of a run and the world after it. -/
def start {α : Type} (run : Run α) (setting : Setting) (world : World) :
    Except Failure α × World :=
  (run.run setting).run.run world

/-- Keeps the notices that reach the threshold. -/
def report (j : Journal) : Run Unit :=
  modify fun w => { w with journal := w.journal ++ j.atLeast w.threshold }

def note (level : Level) (text : Text) : Run Unit := report [⟨level, text⟩]

def setThreshold (threshold : Nat) : Run Unit := modify fun w => { w with threshold }

/-- Prints a text as a whole or not at all. -/
def print (text : Text) : Run Unit := do
  if (← read).isPrintable text then modify fun w => { w with output := w.output ++ text }
  else throw .unencodable

/-- The value of a variable that is set and not empty. -/
def setting? (name : Text) : Run (Option Text) := do
  match (← read).environment.lookup name with
  | some v => return if v.isEmpty then none else some v
  | none => return none

/-- Fails where there is something to fail for. -/
def refuse (fault : Option Failure) : Run Unit :=
  match fault with
  | some e => throw e
  | none => pure ()

/-- What the character set under a name makes of some bytes. -/
def decodedAs (decode? : Text.Charset → List UInt8 → Option Text) (charset : Text)
    (bytes : List UInt8) (s : Setting) : Except Failure Text :=
  match s.charset charset with
  | .error .unknown => .error (.unknownCharset charset)
  | .error .notText => .error .notCharset
  | .ok c =>
    match decode? c bytes with
    | some t => .ok t
    | none => .error .undecodable

/-- Decodes the contents of a file under the name of a character set. -/
def decodeAs (decode? : Text.Charset → List UInt8 → Option Text) (charset : Text)
    (bytes : List UInt8) : Run Text := do
  MonadExcept.ofExcept (decodedAs decode? charset bytes (← read))

section

variable [Platform]

/-- Why a path cannot be given to the file system at all. -/
def pathFault? (path : Text) : Option Failure :=
  if path.any Text.isNameless then some .unencodable
  else if path.contains '\x00' then some .unusablePath
  else none

/-- Asks the disk about a path. -/
def ask {α : Type} (query : Disk → Location → Text → Except DiskFault α) (path : Text) : Run α := do
  refuse (pathFault? path)
  match query (← get).disk (← read).base path with
  | .ok a => return a
  | .error e => throw (.disk e path)

/-- The path leads somewhere. -/
def reaches (path : Text) : Run Bool := do
  if (pathFault? path).isSome then return false
  else
    match Disk.stat (← get).disk (← read).base path with
    | .ok _ => return true
    | .error _ => return false

/-- What a path leads to, if anything. A path that the disk cannot even look up is a failure. -/
def look (path : Text) : Run (Option Item) := do
  if (pathFault? path).isSome then return none
  else
    match Disk.stat (← get).disk (← read).base path with
    | .ok item => return some item
    | .error .notFound => return none
    | .error .notFolder => return none
    | .error e => throw (.disk e path)

def readBytes (path : Text) : Run (List UInt8) := ask Disk.read path

def makeFolder (path : Text) : Run Unit := do
  let disk ← ask Disk.makeFolder path
  modify fun w => { w with disk }

def writeBytes (path : Text) (bytes : List UInt8) : Run Unit := do
  let disk ← ask (fun d base p => Disk.write d base p bytes) path
  modify fun w => { w with disk }

/-- A folder that is already there is no failure. -/
def orFolder (path : Text) (failure : Failure) : Run Unit := do
  match failure with
  | .disk _ _ => if (← look path) == some .folder then pure () else throw failure
  | _ => throw failure

/-- Makes one folder unless it is there. -/
def ensureFolder (path : Text) : Run Unit :=
  tryCatch (makeFolder path) fun failure =>
    match failure with
    | .disk .notFound _ => throw failure
    | _ => orFolder path failure

/-- Makes a folder and the folders above it, where `parts` leads to it last name first. -/
def ensureFolders (root : Text) : List Text → Run Unit
  | [] => ensureFolder (Path.text ⟨root, []⟩)
  | part :: above =>
    let path := Path.text ⟨root, (part :: above).reverse⟩
    tryCatch (makeFolder path) fun failure =>
      match failure with
      | .disk .notFound _ => do
        ensureFolders root above
        ensureFolder path
      | _ => orFolder path failure

/-- Why a name cannot be that of a character set at all. -/
def charsetFault? (charset : Text) : Option Failure :=
  if charset.any Text.isHalf then some .unencodable
  else if charset.contains '\x00' then some .unusableCharset
  else none

/-- The text of a file that must be valid, with all line ends unified. -/
def readText (path : Text) : Run Text := do
  match Text.Utf8.decode? (← readBytes path) with
  | some t => return Text.unifyLineEnds t
  | none => throw .undecodable

end

end Run

end MailFilter
