import MailFilter.Text.Basic

/-!
# Faults of documents

A document that breaks the rules of the format is invalid. Beyond that, a single scalar can be
well written and still have no value: a day that no month has, a number whose digits are missing,
a word that is no switch. A document can be too deep to be followed, and a file may hold bytes
that are no text.
-/
namespace MailFilter.Yaml

inductive Fault where
  | invalid
  | impossible
  | unknownWord (word : Text)
  | noTimestamp
  | noDigits
  | overflow
  | notText
  | tooDeep
  | undecodable
  deriving DecidableEq, Repr

end MailFilter.Yaml
