import MailFilter.Filter.Record
import MailFilter.Yaml.Document

/-!
# Filter documents

A filter record written as a document.
-/
namespace MailFilter

variable [Platform]

/-- The value of a document. A document that breaks the format holds no filters; the other faults
are failures of their own. -/
def readRecord (s : Text) : Except Failure Value :=
  match Yaml.read s with
  | .ok v => .ok v
  | .error .invalid => .error (.load .invalidDocument)
  | .error f => .error (.document f)

/-- Reads a filter set from a document. -/
def FilterSet.parseDocument (s : Text) : Except Failure FilterSet := do
  FilterSet.ofValue (← readRecord s)

/-- What reading a filter set from a document reports. -/
def FilterSet.documentJournal (s : Text) : Journal :=
  match readRecord s with
  | .ok v => FilterSet.valueJournal v
  | .error _ => []

end MailFilter
