import MailFilter.Text.Blank
import MailFilter.Text.Case

/-!
# Paths

A path is what stands between its slashes, without empty parts and without the parts `.` that
stay where they are; the parts `..` are kept. A path that starts with one slash is absolute, and
two slashes at the start, no more and no fewer, are kept apart from one.
-/
namespace MailFilter

structure Path where
  root : Text
  parts : List Text
  deriving DecidableEq, Repr

namespace Path

def rootOf (s : Text) : Text :=
  match s.takeWhile (· == '/') with
  | [] => []
  | ['/', '/'] => ['/', '/']
  | _ => ['/']

def parse (s : Text) : Path :=
  ⟨rootOf s, (Text.splitOn '/' s).filter fun p => !p.isEmpty && p != ['.']⟩

def text (p : Path) : Text :=
  if p.root.isEmpty && p.parts.isEmpty then ['.'] else p.root ++ Text.join ['/'] p.parts

/-- One path below another; an absolute path stands for itself. -/
def join (p q : Path) : Path := if q.root.isEmpty then ⟨p.root, p.parts ++ q.parts⟩ else q

/-- The path without its last part. -/
def parent (p : Path) : Path := ⟨p.root, p.parts.dropLast⟩

/-- The last part. -/
def name (p : Path) : Text := p.parts.getLast?.getD []

/-- A name divided before its last dot, unless the dot is the first or the last character. -/
def splitName (name : Text) : Text × Text :=
  let ending := Text.afterLast '.' name
  let stem := name.take (name.length - ending.length - 1)
  if name.contains '.' && !ending.isEmpty && !stem.isEmpty then (stem, '.' :: ending)
  else (name, [])

def stem (p : Path) : Text := (splitName p.name).1

def suffix (p : Path) : Text := (splitName p.name).2

end Path

/-- The file names that say nothing about the mailbox; its folder does. -/
def genericNames : List Text :=
  ["filter".toList, "filter.yaml".toList, "filter.yml".toList]

/-- The name of a script made from a file: its folder for a generic file name, else the file name
without its suffix. -/
def defaultScriptName (path : Text) : Text :=
  let p := Path.parse path
  if genericNames.contains (Text.lower p.name) && !p.parent.name.isEmpty then p.parent.name
  else p.stem

/-- The file has the suffix of a document. -/
def isDocumentPath (p : Path) : Bool :=
  [".yaml".toList, ".yml".toList].contains (Text.lower p.suffix)

/-- The file name for a script: slashes of both kinds become underscores. -/
def scriptFileName (name : Text) : Text :=
  let safe := Text.trim (name.map fun c => if c == '/' || c == '\\' then '_' else c)
  (if safe.isEmpty then "_unnamed".toList else safe) ++ ".sieve".toList

end MailFilter
