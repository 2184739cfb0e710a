import MailFilter.Yaml.Fault
import MailFilter.Yaml.Token.Cursor

/-!
# Tokens of documents

Block structure is made explicit: where the indentation of a document opens or closes a
collection, a token says so.
-/
namespace MailFilter.Yaml

inductive Directive where
  | version (major : Nat)
  | tag (handle start : Text)
  | reserved
  deriving DecidableEq, Repr

inductive Token where
  | directive (d : Directive)
  | documentStart
  | documentEnd
  | blockSequence
  | blockMapping
  | blockEnd
  | flowSequence
  | flowMapping
  | flowSequenceEnd
  | flowMappingEnd
  | key
  | value
  | blockEntry
  | flowEntry
  | reference (name : Text)
  | anchor (name : Text)
  | tag (handle : Option Text) (suffix : Text)
  | scalar (text : Text) (plain : Bool)
  | streamEnd
  deriving DecidableEq, Repr

/-- Fails unless the condition holds. -/
def require (condition : Bool) : Except Fault Unit :=
  if condition then .ok () else .error .invalid

end MailFilter.Yaml
