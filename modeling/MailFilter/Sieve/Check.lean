import MailFilter.Sieve.Combine
import MailFilter.Sieve.Token

/-!
# Checking scripts

A script is sound when it can be read, its brackets are balanced and every declaration of
extensions comes before the first other command. A sound script belongs to a filter set when it
has one `if` command for each filter that is switched on and has rules.
-/
namespace MailFilter.Sieve

inductive Problem where
  | unreadable (fault : Token.Unterminated) (length : Nat)
  | unbalanced (closer : Char)
  | unclosed (opener : Char)
  | lateRequire
  deriving DecidableEq, Repr

def Problem.message : Problem → Text
  | unreadable u n => u.message n
  | unbalanced c => "unbalanced \x27".toList ++ [c, '\x27']
  | unclosed c => "unclosed \x27".toList ++ [c, '\x27']
  | lateRequire => "require after the first command".toList

namespace Token

def isOpener (c : Char) : Bool := c == '(' || c == '\x7b' || c == '['

/-- The bracket that a closing bracket belongs to. -/
def openerOf? (c : Char) : Option Char :=
  if c == ')' then some '(' else if c == '\x7d' then some '\x7b' else if c == ']' then some '['
  else none

/-- The first bracket that does not fit, where `stack` holds the open brackets, innermost first. -/
def nestingProblem? : List Char → List Token → Option Problem
  | [], [] => none
  | c :: _, [] => some (.unclosed c)
  | stack, punctuation c :: ts =>
    if isOpener c then nestingProblem? (c :: stack) ts
    else
      match openerOf? c with
      | none => nestingProblem? stack ts
      | some o =>
        match stack with
        | [] => some (.unbalanced c)
        | top :: below => if top == o then nestingProblem? below ts else some (.unbalanced c)
  | stack, _ :: ts => nestingProblem? stack ts

/-- The tokens with which a command of the top level starts: the first one and those that follow
a semicolon or a closing brace at that level. -/
def commandStartsFrom (depth : Int) (expected : Bool) : List Token → List Token
  | [] => []
  | t :: ts =>
    let found := if expected && depth == 0 then [t] else []
    let rest :=
      match t with
      | punctuation c =>
        if c == '\x7b' then commandStartsFrom (depth + 1) false ts
        else if c == '\x7d' then commandStartsFrom (depth - 1) (depth - 1 == 0) ts
        else if c == ';' && depth == 0 then commandStartsFrom depth true ts
        else commandStartsFrom depth false ts
      | _ => commandStartsFrom depth false ts
    found ++ rest

def commandStarts (ts : List Token) : List Token := commandStartsFrom 0 true ts

/-- The name of a command, whatever its case. -/
def commandName (t : Token) : Text := Text.lower t.text

def isRequire (t : Token) : Bool := t.commandName == "require".toList

def isIf (t : Token) : Bool := t.commandName == "if".toList

/-- One problem for each declaration after the first other command. -/
def lateRequires (starts : List Token) : List Problem :=
  ((starts.dropWhile isRequire).filter isRequire).map fun _ => .lateRequire

/-- The problems of a list of tokens; wrong nesting hides the others. -/
def problems (ts : List Token) : List Problem :=
  match nestingProblem? [] ts with
  | some p => [p]
  | none => lateRequires (commandStarts ts)

def countIfs (ts : List Token) : Nat := ((commandStarts ts).filter isIf).length

end Token

/-- The problems of a script; a sound script has none. -/
def problems (content : Text) : List Problem :=
  match Token.scan content with
  | .error u => [.unreadable u content.length]
  | .ok ts => Token.problems ts

/-- The number of `if` commands at the top level of a readable script. -/
def countIfs (content : Text) : Except Token.Unterminated Nat :=
  (Token.scan content).map Token.countIfs

/-- The result of checking a script against a filter set. -/
inductive Verdict where
  | unsound (ps : List Problem)
  | miscounted (actual expected : Nat)
  | sound (count : Nat)
  deriving DecidableEq, Repr

namespace Verdict

/-- Checks a script against the filter set that it was made from. -/
def of (fs : FilterSet) (script : Script) : Verdict :=
  match Token.scan script.content with
  | .error u => unsound [.unreadable u script.content.length]
  | .ok ts =>
    match Token.problems ts with
    | p :: ps => unsound (p :: ps)
    | [] =>
      let expected := (fs.entries.filter (·.isActive)).length
      if expected == Token.countIfs ts then sound expected
      else miscounted (Token.countIfs ts) expected

def accepted : Verdict → Bool
  | sound _ => true
  | _ => false

def journal (name : Text) : Verdict → Journal
  | unsound ps =>
    ps.map fun p => ⟨.error, "Verification failed for ".toList ++ name ++ ": ".toList ++ p.message⟩
  | miscounted actual expected =>
    [⟨.error, "Verification failed for ".toList ++ name ++ ": ".toList ++ Text.ofNat actual ++
      " if blocks, expected ".toList ++ Text.ofNat expected⟩]
  | sound count =>
    [⟨.debug, "Verification passed for ".toList ++ name ++ " (".toList ++ Text.ofNat count ++
      " filters)".toList⟩]

end Verdict

/-- The script is sound and fits the filter set. -/
def verify (fs : FilterSet) (script : Script) : Bool := (Verdict.of fs script).accepted

end MailFilter.Sieve
