import MailFilter.Filter.Clause

/-!
# Actions in filter text

Each line names one action: `finish`, or `save` and `deliver` with a quoted destination. A
delivery to the mailbox owner's own address with a tag, `"$local_part+Box@$domain"`, means saving
into the mailbox of that tag.
-/
namespace MailFilter

namespace ActionLine

inductive Reading where
  | action (a : Action)
  | nothing
  | unsupported (line : Text)
  deriving DecidableEq, Repr

def ownerMarker : Text := "$local_part+".toList

/-- The tag of an address after the owner's name, up to the end of the name. -/
def tag (rest : Text) : Text :=
  Text.trim (rest.takeWhile fun c => c != '"' && c != '@')

def delivery (arg : Text) : Reading :=
  match Text.afterMarker? ownerMarker arg with
  | none => .action (.deliver arg)
  | some rest => if (tag rest).isEmpty then .nothing else .action (.save (tag rest))

/-- Reads a trimmed line that is not empty. -/
def readTrimmed (line : Text) : Reading :=
  let low := Text.lower line
  if Text.startsWith low "finish".toList then .action .finish
  else if Text.startsWith low "deliver ".toList then
    match Clause.firstQuoted line with
    | none => .nothing
    | some arg => if arg.isEmpty then .nothing else delivery arg
  else if Text.startsWith low "save ".toList then
    match Clause.firstQuoted line with
    | none => .nothing
    | some arg => if arg.isEmpty then .nothing else .action (.save arg)
  else .unsupported line

def read (line : Text) : Reading :=
  let line := Text.trim line
  if line.isEmpty then .nothing else readTrimmed line

def Reading.action? : Reading → Option Action
  | action a => some a
  | _ => none

def Reading.notice? : Reading → Option Notice
  | unsupported line => some ⟨.debug, "Ignoring unsupported action line: ".toList ++ line⟩
  | _ => none

end ActionLine

/-- The actions that a list of lines names. -/
def Action.parse (lines : List Text) : List Action :=
  lines.filterMap fun l => (ActionLine.read l).action?

/-- What reading a list of action lines reports. -/
def Action.parseJournal (lines : List Text) : Journal :=
  lines.filterMap fun l => (ActionLine.read l).notice?

end MailFilter
