import MailFilter.Sieve.Script

/-!
# One script for a mailbox

The scripts of a mailbox become one. The extensions that they declare line by line are collected
into a single declaration at the top, and the remaining lines follow script by script, each under
a comment with the script's name. A script with nothing left is skipped.
-/
namespace MailFilter.Sieve

/-- The names that a declaration line lists between its first brackets. -/
def requiredNames (line : Text) : List Text :=
  match Text.after? '[' line with
  | none => []
  | some inside =>
    if line.contains ']' && !(Text.before '[' line).contains ']' then
      ((Text.splitOn ',' (Text.before ']' inside)).map
        fun t => Text.trimChar '"' (Text.trim t)).filter (! ·.isEmpty)
    else []

/-- The line declares extensions. -/
def isRequireLine (line : Text) : Bool :=
  Text.startsWith (Text.trim line) "require [".toList

namespace Script

def lines (s : Script) : List Text := Text.splitOn '\n' s.content

/-- The extensions that the lines of a script declare. -/
def required (s : Script) : List Text :=
  (s.lines.filter isRequireLine).flatMap fun l => requiredNames (Text.trim l)

/-- The lines without blank ones at the two ends. -/
def trimLines (ls : List Text) : List Text :=
  ((ls.dropWhile Text.allBlank).reverse.dropWhile Text.allBlank).reverse

/-- The lines of a script that do not declare extensions. -/
def body (s : Script) : List Text := trimLines (s.lines.filter (! isRequireLine ·))

/-- The part of a combined script that comes from one script. -/
def portion (s : Script) : List Text :=
  if s.body.isEmpty then []
  else ("# Filter: ".toList ++ commentText s.name) :: s.body ++ [[]]

/-- One script with the commands of all. -/
def combine (name : Text) (scripts : List Script) : Script :=
  let extensions := Text.sortedSet (scripts.flatMap required)
  let header := if extensions.isEmpty then [] else requireLine extensions ++ "\n\n".toList
  ⟨name, header ++ Text.join ['\n'] (scripts.flatMap portion)⟩

/-- What combining scripts reports. -/
def combineJournal [Platform] (scripts : List Script) : Journal :=
  (scripts.filter (·.body.isEmpty)).map fun s =>
    ⟨.debug, "Skipping empty script ".toList ++ Text.quoted s.name⟩

/-- The script of a whole filter set. -/
def ofFilterSet (name : Text) (fs : FilterSet) : Script := combine name (fs.entries.map ofEntry)

def filterSetJournal [Platform] (fs : FilterSet) : Journal :=
  fs.entries.flatMap entryJournal ++ combineJournal (fs.entries.map ofEntry)

end Script

end MailFilter.Sieve
