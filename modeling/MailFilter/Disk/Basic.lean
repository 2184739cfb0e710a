import MailFilter.Disk.Path
import MailFilter.Failure
import MailFilter.Text.Utf8

/-!
# The disk

A disk is a tree of folders and files, kept as a list of places. A place is the list of names that
leads to it from the root, and the root itself is always a folder. A path is followed step by step
from a folder; every step needs a folder to stand in.
-/
namespace MailFilter

/-- The names that lead to a place from the root. -/
abbrev Location := List Text

inductive Item where
  | file (bytes : List UInt8)
  | folder
  deriving DecidableEq, Repr

structure Disk where
  items : List (Location × Item) := []
  deriving Repr

namespace Disk

/-- What stands at a place. -/
def find? (d : Disk) (loc : Location) : Option Item :=
  if loc.isEmpty then some .folder else d.items.lookup loc

def setItem (loc : Location) (item : Item) : List (Location × Item) → List (Location × Item)
  | [] => [(loc, item)]
  | (l, i) :: rest => if l == loc then (l, item) :: rest else (l, i) :: setItem loc item rest

/-- Puts an item at a place. -/
def set (d : Disk) (loc : Location) (item : Item) : Disk := ⟨setItem loc item d.items⟩

/-- One step along a path. -/
inductive Step where
  | stay
  | up
  | into (name : Text)
  deriving DecidableEq, Repr

def stepOf (part : Text) : Step :=
  if part.isEmpty || part == ['.'] then .stay
  else if part == ['.', '.'] then .up
  else .into part

/-- The steps of a path. Empty parts count only at the end, where they ask for a folder. -/
def steps (path : Text) : List Step :=
  let parts := (Text.splitOn '/' path).filter (! ·.isEmpty)
  parts.map stepOf ++ if Text.endsWith path ['/'] then [.stay] else []

def isAbsolute (path : Text) : Bool := Text.startsWith path ['/']

/-- A name of more than 255 bytes. -/
def isLongName (name : Text) : Bool := 255 < (Text.Utf8.encode name).length

/-- A path of more than 4095 bytes. -/
def isLongPath (path : Text) : Bool := 4095 < (Text.Utf8.encode path).length

/-- The place that the steps lead to. -/
def walk (d : Disk) : Location → List Step → Except DiskFault Location
  | loc, [] => .ok loc
  | loc, s :: ss =>
    match d.find? loc with
    | none => .error .notFound
    | some (.file _) => .error .notFolder
    | some .folder =>
      match s with
      | .stay => walk d loc ss
      | .up => walk d loc.dropLast ss
      | .into name =>
        if isLongName name then .error .nameTooLong
        else if (d.find? (loc ++ [name])).isSome then walk d (loc ++ [name]) ss
        else .error .notFound

/-- Follows steps from the root for an absolute path and from the given folder for any other. -/
def follow (d : Disk) (base : Location) (path : Text) (ss : List Step) :
    Except DiskFault Location :=
  if path.isEmpty then .error .notFound
  else if isLongPath path then .error .nameTooLong
  else walk d (if isAbsolute path then [] else base) ss

/-- What a path leads to. -/
def stat (d : Disk) (base : Location) (path : Text) : Except DiskFault Item :=
  match follow d base path (steps path) with
  | .error e => .error e
  | .ok loc =>
    match d.find? loc with
    | some item => .ok item
    | none => .error .notFound

/-- The contents of a file. -/
def read (d : Disk) (base : Location) (path : Text) : Except DiskFault (List UInt8) :=
  match stat d base path with
  | .error e => .error e
  | .ok (.file bytes) => .ok bytes
  | .ok .folder => .error .isFolder

/-- The folder in which the last step of a path is taken. -/
def folderOf (d : Disk) (base : Location) (path : Text) : Except DiskFault Location :=
  follow d base path ((steps path).dropLast ++ [.stay])

/-- Makes one folder in a folder that exists. -/
def makeFolder (d : Disk) (base : Location) (path : Text) : Except DiskFault Disk :=
  match folderOf d base path with
  | .error e => .error e
  | .ok loc =>
    match (steps path).getLast? with
    | some (.into name) =>
      if isLongName name then .error .nameTooLong
      else if (d.find? (loc ++ [name])).isSome then .error .alreadyThere
      else .ok (d.set (loc ++ [name]) .folder)
    | _ => .error .alreadyThere

/-- Writes a file in a folder that exists, over a file that may be there. -/
def write (d : Disk) (base : Location) (path : Text) (bytes : List UInt8) :
    Except DiskFault Disk :=
  match folderOf d base path with
  | .error e => .error e
  | .ok loc =>
    match (steps path).getLast? with
    | some (.into name) =>
      if isLongName name then .error .nameTooLong
      else if d.find? (loc ++ [name]) = some .folder then .error .isFolder
      else .ok (d.set (loc ++ [name]) (.file bytes))
    | _ => .error .isFolder

/-- The places of a disk that an earlier disk did not have in the same form. -/
def changesSince (d old : Disk) : List (Location × Item) :=
  d.items.filter fun (loc, item) => old.find? loc != some item

end Disk

end MailFilter
