import MailFilter.Run.Batch

/-!
# The program

`convert` converts one filter file and `sync` a batch of mailboxes. The runs themselves are pure:
this module takes a picture of the places that a run may ask about, carries the run out on the
picture and then makes the changes on the real disk.
-/
namespace MailFilter.Main

open scoped Platform

/-- What stands at a path of the real disk. -/
def itemAt (path : String) : IO (Option Item) := do
  try
    let _ ← IO.FS.realPath (path ++ "/.")
    return some .folder
  catch _ =>
    try
      let bytes ← IO.FS.readBinFile path
      return some (.file bytes.toList)
    catch _ => return none

def realPathOf (loc : Location) : String :=
  String.ofList ('/' :: Text.join ['/'] loc)

/-- Adds the places along a path to a picture. -/
def lookAlong : Disk → Location → List Disk.Step → IO Disk
  | d, _, [] => return d
  | d, loc, .stay :: ss => lookAlong d loc ss
  | d, loc, .up :: ss => lookAlong d loc.dropLast ss
  | d, loc, .into name :: ss => do
    let loc := loc ++ [name]
    match ← itemAt (realPathOf loc) with
    | some item => lookAlong (d.set loc item) loc ss
    | none => return d

def look (base : Location) (d : Disk) (path : Text) : IO Disk :=
  lookAlong d (if Disk.isAbsolute path then [] else base) (Disk.steps path)

/-- The variables that a run may read. -/
def variableNames : List Text :=
  ["CONFIG".toList, "LOG_LEVEL".toList, "OUTPUT_DIR".toList, "ENCODING".toList,
    "VERIFY".toList].map (Config.variableStart ++ ·)

def readVariables : IO (List (Text × Text)) :=
  variableNames.filterMapM fun name => do
    return (← IO.getEnv (String.ofList name)).map fun v => (name, v.toList)

/-- The home folders in the list of users, whose lines have seven fields between colons. -/
def readHomes : IO (List (Text × Text)) := do
  try
    let lines ← IO.FS.lines "/etc/passwd"
    return lines.toList.filterMap fun line =>
      match Text.splitOn ':' line.toList with
      | [name, _, _, _, _, home, _] => some (name, home)
      | _ => none
  catch _ => return []

/-- The places of configuration files. -/
def configPaths (setting : Setting) (disk : Disk) (request : Request) : List Text :=
  let named := (setting.environment.lookup (Config.variableStart ++ "CONFIG".toList)).toList
  let sought := (named.map Path.parse) ++ [Path.parse "~/.config/exim2sieve/config.yaml".toList]
  let expanded := sought.filterMap fun p =>
    ((Config.expandHome p).start setting ⟨disk, 30, [], []⟩).1.toOption
  request.config.toList ++ expanded.map (·.text) ++
    ["exim2sieve.yaml".toList, "/etc/exim2sieve.yaml".toList]

/-- The places where the script of a mailbox may be written. -/
def scriptPaths (outputDir name : Text) : List Text :=
  let own := Path.text ((Path.parse outputDir).join (Path.parse name))
  [outputDir, own, own ++ ['/'] ++ scriptFileName name, outputDir ++ ['/'] ++ scriptFileName name]

/-- The places that the mappings of a batch name. -/
def mappedPaths (outputDir : Text) : Value → List Text
  | .list vs =>
    vs.flatMap fun v =>
      match v with
      | .map fs =>
        (Value.get fs "path".toList).toText ::
          scriptPaths outputDir (Value.get fs "mailbox".toList).toText
      | _ => []
  | _ => []

def levelName : Level → String
  | .debug => "DEBUG"
  | .info => "INFO"
  | .warning => "WARNING"
  | .error => "ERROR"

/-- Makes the changes of a run on the real disk. -/
def apply (old new : Disk) : IO Unit := do
  for (loc, item) in new.changesSince old do
    match item with
    | .folder => IO.FS.createDir (realPathOf loc)
    | .file bytes => IO.FS.writeBinFile (realPathOf loc) ⟨bytes.toArray⟩

/-- Carries out a run and shows what it wrote and reported. -/
def perform (setting : Setting) (disk : Disk) (run : Run Nat) : IO UInt32 := do
  let (outcome, world) := run.start setting ⟨disk, 30, [], []⟩
  apply disk world.disk
  for n in world.journal do
    IO.eprintln s!"{levelName n.level} - {String.ofList n.text}"
  IO.print (String.ofList world.output)
  match outcome with
  | .ok status => return status.toUInt32
  | .error (.exit status) => return status.toUInt32
  | .error failure =>
    IO.eprintln (String.ofList (failure.message?.getD "the run failed".toList))
    return 1

/-- The picture of the disk that a run needs: first the configuration, then the file that the
command line names, then what follows from the two. -/
def picture (setting : Setting) (request : Request) (isBatch : Bool) : IO Disk := do
  let root ← look setting.base {} (realPathOf setting.base).toList
  let disk ← (configPaths setting root request).foldlM (look setting.base) root
  let disk ← look setting.base disk request.file
  let disk ← look setting.base disk (Path.parse request.file).text
  let (config, _) := (Run.configure request).start setting ⟨disk, 30, [], []⟩
  let fallback := match config with
    | .ok c => c.outputDir
    | .error _ => []
  let outputDir := (Run.given request.outputDir).getD fallback
  if isBatch then
    let (mappings, _) := (Run.readMappings request.file).start setting ⟨disk, 30, [], []⟩
    match mappings with
    | .ok v => (mappedPaths outputDir v).foldlM (look setting.base) disk
    | .error _ => return disk
  else
    let name := Run.nameOr request.name request.file
    (scriptPaths outputDir name).foldlM (look setting.base) disk

def runWith (isBatch : Bool) (args : List Text) : IO UInt32 := do
  let base := (Path.parse (← IO.currentDir).toString.toList).parts
  let home := ((← IO.getEnv "HOME").getD "/").toList
  let homes ← readHomes
  let setting : Setting :=
    { base, home
      environment := ← readVariables
      homeOf? := fun user => homes.lookup user
      isPrintable := fun text => (Text.Utf8.encode? text).isSome
      program := if isBatch then "exim2sieve-sync".toList else "exim2sieve".toList }
  let command := if isBatch then CommandLine.batch else CommandLine.convert
  let disk ←
    match CommandLine.read command.known args with
    | .ok request => picture setting request isBatch
    | .error _ => pure {}
  perform setting disk (if isBatch then Run.batch args else Run.convert args)

end MailFilter.Main

def main (args : List String) : IO UInt32 := do
  match args with
  | "convert" :: rest => MailFilter.Main.runWith false (rest.map String.toList)
  | "sync" :: rest => MailFilter.Main.runWith true (rest.map String.toList)
  | _ =>
    IO.eprintln "usage: mailfilter (convert | sync) ARGUMENTS"
    return 2
