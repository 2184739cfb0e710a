import MailFilter.Filter.Basic
import MailFilter.Journal
import MailFilter.Sieve.Quote
import MailFilter.Text.Case
import MailFilter.Text.Quoted

/-!
# Commands

The lines of a script that carry out the actions of a filter, and the extensions that those lines
need.
-/
namespace MailFilter.Sieve

/-- The actions that a script can express. -/
inductive Verb where
  | save
  | deliver
  | reject
  | finish
  deriving DecidableEq, Repr

namespace Verb

def names : List (Text × Verb) :=
  [("save".toList, save), ("deliver".toList, deliver), ("reject".toList, reject),
    ("finish".toList, finish)]

/-- The verb of an action, whatever its case and the blanks around it. -/
def ofAction? (a : Action) : Option Verb :=
  names.lookup (Text.lower (Text.trim (a.verb.getD [])))

def extension? : Verb → Option Text
  | save => some "fileinto".toList
  | deliver => some "fileinto".toList
  | reject => some "reject".toList
  | finish => none

end Verb

/-- The mailbox at the end of a folder path: its last component without a leading dot. -/
def mailboxOf (dest : Text) : Text :=
  if dest.isEmpty then "INBOX".toList
  else
    let base := Text.trim (Text.afterLast '/' dest)
    let name := if Text.startsWith base ['.'] then base.drop 1 else base
    if name.isEmpty then dest else name

/-- The extensions that a list of actions needs, in ascending order. -/
def extensionsOf (as : List Action) : List Text :=
  Text.sortedSet (as.filterMap fun a => (Verb.ofAction? a).bind (·.extension?))

/-- The lines for one action. -/
def commandLines (a : Action) : List Text :=
  let dest := a.dest.getD []
  match Verb.ofAction? a with
  | some .save =>
    ["fileinto ".toList ++ quote (mailboxOf dest) ++ [';'],
      "# original path: ".toList ++ commentText (quote dest)]
  | some .deliver => ["fileinto ".toList ++ quote dest ++ [';']]
  | some .reject => ["reject ".toList ++ quote dest ++ [';']]
  | some .finish => ["# finish: stop processing (handled by stop)".toList]
  | none =>
    ["# unsupported action ".toList ++ commentText (quote (a.verb.getD [])) ++ " dest=".toList ++
      commentText (quote dest)]

/-- The display of a text that may be absent. -/
def displayOptional [Platform] : Option Text → Text
  | none => "None".toList
  | some s => Text.quoted s

def commandJournal [Platform] (a : Action) : Journal :=
  match Verb.ofAction? a with
  | some _ => []
  | none =>
    [⟨.debug, "Unsupported action ".toList ++ displayOptional a.verb ++ " dest=".toList ++
      displayOptional a.dest⟩]

end MailFilter.Sieve
