import MailFilter.Sieve.Command
import MailFilter.Sieve.Test

/-!
# Scripts

Every filter becomes one script: the extensions it needs, then one `if` block that ends with
`stop`. A filter that is switched off is written as comments.
-/
namespace MailFilter.Sieve

structure Script where
  name : Text
  content : Text
  deriving DecidableEq, Repr

/-- The line that declares extensions. -/
def requireLine (extensions : List Text) : Text :=
  "require [".toList ++ Text.join ", ".toList ((Text.sort extensions).map quote) ++ "];".toList

def indent : Text := "    ".toList

/-- A line behind a comment mark; blank lines stay blank. -/
def commentLine (line : Text) : Text :=
  if Text.allBlank line then [] else "# ".toList ++ line

/-- A whole script as comments, under a note that gives the value of the switch. -/
def commentOut (content flag : Text) : Text :=
  Text.join ['\n']
    (("# NOTE: this filter was disabled in cPanel (enabled=".toList ++ flag ++ [')']) ::
      (Text.splitOn '\n' content).map commentLine)

namespace Script

/-- The extensions of a filter: those of its actions, and `body` when a test reads the body. -/
def entryExtensions (e : Entry) : List Text :=
  let needed := extensionsOf e.actions
  if (Condition.ofRules e.rules).usesBody then Text.sortedSet ("body".toList :: needed)
  else needed

def entryLines (e : Entry) : List Text :=
  let extensions := entryExtensions e
  let header := if extensions.isEmpty then [] else [requireLine extensions, []]
  let remark :=
    if e.actions.isEmpty then [indent ++ "# no actions defined in original filter".toList] else []
  header ++ ["if ".toList ++ (Condition.ofRules e.rules).text ++ " \x7b".toList] ++ remark ++
    (e.actions.flatMap commandLines).map (indent ++ ·) ++ [indent ++ "stop;".toList, "\x7d".toList]

/-- The text of a filter as if it were switched on. -/
def entryText (e : Entry) : Text :=
  if e.rules.isEmpty then "# Filter has no rules; nothing to match.\n".toList
  else Text.join ['\n'] (entryLines e) ++ ['\n']

/-- The script of one filter. -/
def ofEntry (e : Entry) : Script :=
  ⟨e.name, if e.enabled then entryText e else commentOut (entryText e) ['0']⟩

/-- What writing the script of a filter reports. -/
def entryJournal [Platform] (e : Entry) : Journal :=
  let body :=
    if e.rules.isEmpty then []
    else (Condition.ofRules e.rules).journal ++ e.actions.flatMap commandJournal
  let switch :=
    if e.enabled then []
    else
      [⟨.debug, "Filter ".toList ++ Text.quoted e.name ++
        " is disabled; emitting it commented out".toList⟩]
  body ++ switch

end Script

end MailFilter.Sieve
