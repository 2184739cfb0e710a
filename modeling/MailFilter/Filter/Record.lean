import MailFilter.Failure
import MailFilter.Filter.Basic
import MailFilter.Journal
import MailFilter.Text.Blank
import MailFilter.Value.Display

/-!
# Filter records

Filters also come as a data record: a mapping with a list `filter` of entries and a `version`.

    filter:
      - filtername: Nixpal
        enabled: 1
        rules:
          - {part: "$header_from:", match: contains, val: foo, opt: or}
        actions:
          - {action: save, dest: "$home/mail/example.com/chris/.Nixpal"}
    version: '2.2'

Whatever does not have the expected form inside the record is left out with a notice; only a
record that is no mapping at all is refused. A field that is read as text must be one that can be
shown, whereas a notice is taken to show whatever it is about.
-/
namespace MailFilter

/-- A mapping inside a record. -/
abbrev Fields := List (Value × Value)

/-- The failure of reading a value as text that cannot be shown. -/
def Value.Obstacle.failure : Value.Obstacle → Failure
  | oversized => .oversizedNumber
  | tooDeep => .deepValue

namespace Record

variable [Platform]

/-- The text of a field. -/
def textOf (v : Value) : Except Failure Text := v.toText?.mapError (·.failure)

/-- A field as text, with a default for an absent one. -/
def textOr (default : Text) : Value → Except Failure Text
  | .null => .ok default
  | v => textOf v

/-- The words that switch a filter off. -/
def offWords : List Text :=
  ["0".toList, "false".toList, "no".toList, "off".toList, []]

/-- A filter is switched on unless its field says otherwise. -/
def isEnabled : Value → Except Failure Bool
  | .null => .ok true
  | .bool b => .ok b
  | .int n => .ok (n != 0)
  | .double d => .ok !d.isZero
  | v => (textOf v).map fun t => !offWords.contains (Text.lower (Text.trim t))

def ruleOf (fs : Fields) : Except Failure Rule := do
  let part ← textOr [] (Value.get fs "part".toList)
  let operator ← textOr [] (Value.get fs "match".toList)
  let value ← textOr [] (Value.get fs "val".toList)
  let join ← textOr "or".toList (Value.get fs "opt".toList)
  return ⟨part, operator, value, if join.isEmpty then "or".toList else join⟩

/-- The destination of an action, which may be absent. -/
def destOf : Value → Except Failure (Option Text)
  | .null => .ok none
  | v => (textOf v).map some

def actionOf (fs : Fields) : Except Failure Action := do
  let verb ← textOr [] (Value.get fs "action".toList)
  let dest ← destOf (Value.get fs "dest".toList)
  return ⟨some verb, dest⟩

/-- The mappings among the items of a list. -/
def mappings (vs : List Value) : List Fields := vs.filterMap (·.fields?)

/-- The items of a list field; an absent or blank field has none. -/
def items (fs : Fields) (key : Text) : List Value := ((Value.get fs key).items?).getD []

/-- The mappings in a list field. -/
def records (fs : Fields) (key : Text) : List Fields := mappings (items fs key)

/-- The notice that an item is left out, unless it is a mapping. -/
def skippedNotice (key owner : Text) (v : Value) : Option Notice :=
  if v.fields?.isSome then none
  else
    some ⟨.warning, "Skipping malformed ".toList ++ key ++ " item in ".toList ++ owner ++
      ": ".toList ++ v.display⟩

/-- What taking the mappings of a list field reports. -/
def recordsJournal (fs : Fields) (key owner : Text) : Journal :=
  let v := Value.get fs key
  match v.items? with
  | some vs => vs.filterMap (skippedNotice key owner)
  | none =>
    if v.isBlank then []
    else
      [⟨.warning, "Ignoring ".toList ++ key ++ " of ".toList ++ owner ++
        ": expected a list, got ".toList ++ v.typeName⟩]

def nameOf (fs : Fields) : Except Failure Text := textOr [] (Value.get fs "filtername".toList)

def rulesOf (fs : Fields) : Except Failure (List Rule) := (records fs "rules".toList).mapM ruleOf

def actionsOf (fs : Fields) : Except Failure (List Action) :=
  (records fs "actions".toList).mapM actionOf

def entryOf (fs : Fields) : Except Failure Entry := do
  let name ← nameOf fs
  let enabled ← isEnabled (Value.get fs "enabled".toList)
  let rules ← rulesOf fs
  let actions ← actionsOf fs
  return ⟨name, enabled, rules, actions⟩

/-- What reading an entry reports, up to the field that cannot be read, if there is one. -/
def entryJournal (fs : Fields) : Journal :=
  match nameOf fs, isEnabled (Value.get fs "enabled".toList) with
  | .ok name, .ok _ =>
    recordsJournal fs "rules".toList (Text.quoted name) ++
      match rulesOf fs with
      | .ok _ => recordsJournal fs "actions".toList (Text.quoted name)
      | .error _ => []
  | _, _ => []

/-- What reading entries reports, up to the one that cannot be read, if there is one. -/
def entriesJournal : List Fields → Journal
  | [] => []
  | e :: es =>
    entryJournal e ++
      match entryOf e with
      | .ok _ => entriesJournal es
      | .error _ => []

end Record

namespace FilterSet

variable [Platform]

/-- The filter set of the fields of a record. -/
def ofFields (fs : Fields) : Except Failure FilterSet := do
  let entries ← (Record.records fs "filter".toList).mapM Record.entryOf
  let version ← Record.textOr [] (Value.get fs "version".toList)
  return ⟨entries, version⟩

/-- The filter set of a record; nothing at all is an empty set. -/
def ofValue (v : Value) : Except Failure FilterSet :=
  match v with
  | .null => .ok {}
  | v =>
    match v.fields? with
    | some fs => ofFields fs
    | none => .error (.load (.notMapping v.typeName))

/-- What reading a record reports. -/
def valueJournal (v : Value) : Journal :=
  match v.fields? with
  | some fs =>
    Record.recordsJournal fs "filter".toList "filter set".toList ++
      Record.entriesJournal (Record.records fs "filter".toList)
  | none => []

end FilterSet

end MailFilter
