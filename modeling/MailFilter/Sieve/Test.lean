import MailFilter.Filter.Basic
import MailFilter.Journal
import MailFilter.Sieve.Field

/-!
# Tests

Each rule becomes one test of a script. A rule that a script cannot express becomes a constant
with a comment: regular expressions never hold, unknown operators and empty values always do.
Several tests are joined by one operator for the whole filter, conjunction only when every join
mark asks for it.
-/
namespace MailFilter.Sieve

/-- The relation between a field and a value that an operator phrase asks for. -/
inductive Relation where
  | contains
  | equals
  | begins
  | ends
  deriving DecidableEq, Repr

namespace Relation

def comparator : Relation → Comparator
  | contains => .contains
  | equals => .is
  | begins => .matching
  | ends => .matching

/-- The pattern that holds exactly when the relation to the value does. -/
def pattern : Relation → Text → Text
  | contains, v => v
  | equals, v => v
  | begins, v => globEscape v ++ ['*']
  | ends, v => '*' :: globEscape v

/-- The operator phrases, each with its relation and whether it is negated. -/
def phrases : List (Text × Relation × Bool) :=
  [("contains".toList, contains, false),
    ("does not contain".toList, contains, true),
    ("does not contains".toList, contains, true),
    ("equals".toList, equals, false),
    ("is".toList, equals, false),
    ("does not equal".toList, equals, true),
    ("is not".toList, equals, true),
    ("begins".toList, begins, false),
    ("begins with".toList, begins, false),
    ("does not begin".toList, begins, true),
    ("does not begin with".toList, begins, true),
    ("ends".toList, ends, false),
    ("ends with".toList, ends, false),
    ("does not end".toList, ends, true),
    ("does not end with".toList, ends, true)]

end Relation

/-- A comparison: comparator, negation and pattern. -/
structure Comparison where
  comparator : Comparator
  negated : Bool
  pattern : Text
  deriving DecidableEq, Repr

/-- The comparison that an operator phrase makes with a value that is not empty. -/
def Comparison.ofOperator? (operator value : Text) : Option Comparison :=
  if value.isEmpty then none
  else
    (Relation.phrases.lookup operator).map fun (r, negated) =>
      ⟨r.comparator, negated, r.pattern value⟩

/-- Why a rule has no test of its own. -/
inductive Obstacle where
  | regexOperator
  | regexPattern
  | unknownOperator
  deriving DecidableEq, Repr

inductive Test where
  | compare (field : Field) (comparison : Comparison)
  | placeholder (obstacle : Obstacle) (rule : Rule)
  deriving DecidableEq, Repr

/-- A rule on one line for comments and notices. -/
def describe (r : Rule) : Text :=
  commentText (r.part ++ [' '] ++ r.operator ++ [' '] ++ quote r.value)

namespace Obstacle

def constant : Obstacle → Text
  | regexOperator => "false".toList
  | regexPattern => "false".toList
  | unknownOperator => "true".toList

def remark : Obstacle → Text
  | regexOperator => "regex rule ignored".toList
  | regexPattern => "unsupported match".toList
  | unknownOperator => "unsupported match".toList

def report : Obstacle → Text
  | regexOperator => "Regex rule replaced by false".toList
  | regexPattern => "Unsupported matches pattern replaced by false".toList
  | unknownOperator => "Unsupported operator replaced by true".toList

end Obstacle

namespace Test

/-- Operators that only a regular expression engine could serve. -/
def regexOperators : List Text := ["matches_regex".toList, "does not match".toList]

/-- The test for one rule. -/
def ofRule (r : Rule) : Test :=
  let operator := Text.lower (Text.trim r.operator)
  if regexOperators.contains operator then placeholder .regexOperator r
  else if operator == "matches".toList then
    match literalGlob? r.value with
    | none => placeholder .regexPattern r
    | some glob => compare (.ofPart r.part) ⟨.matching, false, glob⟩
  else
    match Comparison.ofOperator? operator r.value with
    | none => placeholder .unknownOperator r
    | some c => compare (.ofPart r.part) c

def usesBody : Test → Bool
  | compare f _ => f.isBody
  | placeholder _ _ => false

/-- A comparison without its negation. -/
def plainText (f : Field) (c : Comparison) : Text :=
  if f.isBody then "body ".toList ++ c.comparator.text ++ [' '] ++ quote c.pattern
  else
    f.testName c.comparator ++ [' '] ++ c.comparator.text ++ [' '] ++ f.namesText ++ [' '] ++
      quote c.pattern

def text : Test → Text
  | compare f c =>
    if c.negated then "not (".toList ++ plainText f c ++ [')'] else plainText f c
  | placeholder o r =>
    o.constant ++ " /* ".toList ++ o.remark ++ ": ".toList ++ describe r ++ " */".toList

def journal : Test → Journal
  | compare _ _ => []
  | placeholder o r => [⟨.debug, o.report ++ ": ".toList ++ describe r⟩]

end Test

/-- How the tests of a filter are joined. -/
inductive Junction where
  | allOf
  | anyOf
  deriving DecidableEq, Repr

namespace Junction

def text : Junction → Text
  | allOf => "allof".toList
  | anyOf => "anyof".toList

def mark (r : Rule) : Text := Text.lower (Text.trim r.join)

/-- All of the tests when some mark is `and` and none is `or` or empty; any of them otherwise. -/
def ofRules (rs : List Rule) : Junction :=
  if rs.any (mark · == "and".toList)
      && !rs.any (fun r => mark r == "or".toList || mark r == []) then allOf
  else anyOf

end Junction

/-- The condition of a filter. -/
inductive Condition where
  | never
  | single (t : Test)
  | joined (j : Junction) (ts : List Test)
  deriving DecidableEq, Repr

namespace Condition

def ofRules : List Rule → Condition
  | [] => never
  | [r] => single (.ofRule r)
  | rs => joined (.ofRules rs) (rs.map .ofRule)

def tests : Condition → List Test
  | never => []
  | single t => [t]
  | joined _ ts => ts

def usesBody (c : Condition) : Bool := c.tests.any (·.usesBody)

def text : Condition → Text
  | never => "false".toList
  | single t => t.text
  | joined j ts =>
    j.text ++ " (\n    ".toList ++ Text.join ",\n    ".toList (ts.map (·.text)) ++ "\n)".toList

def journal (c : Condition) : Journal := c.tests.flatMap (·.journal)

end Condition

end MailFilter.Sieve
