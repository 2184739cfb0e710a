import MailFilter.Sieve.Token

/-!
# Scripts as programs

The meaning of a script. Its tokens are parsed into commands, and the commands are executed in
order until one of them stops. Which tests of single headers, addresses and bodies hold is up to
the message, so execution takes a truth assignment to these primitive tests and nothing else.
-/
namespace MailFilter.Sieve

open Token

/-- A test of headers, addresses or the body. The body has no header names. -/
structure Primitive where
  name : Text
  comparator : Text
  headers : List Text
  pattern : Text
  deriving DecidableEq, Repr

inductive Expr where
  | constant (b : Bool)
  | primitive (p : Primitive)
  | negation (e : Expr)
  | all (es : List Expr)
  | any (es : List Expr)

inductive Statement where
  | require (names : List Text)
  | fileinto (mailbox : Text)
  | reject (reason : Text)
  | stop
  | branch (test : Expr) (body : List Statement)

/-! Parsing. Every parser returns what it has read and the tokens after it. -/

/-- The text that the body of a string stands for. -/
def unescape : Text → Text
  | [] => []
  | '\\' :: c :: s => c :: unescape s
  | c :: s => c :: unescape s

/-- A function of what has been read. -/
def readAs {α β : Type} (f : α → β) (x : Option (α × List Token)) : Option (β × List Token) :=
  x.map (Prod.map f id)

@[simp] theorem readAs_some {α β : Type} (f : α → β) (a : α) (ts : List Token) :
    readAs f (some (a, ts)) = some (f a, ts) := rfl

/-- What has been read, when the tokens go on with the given mark. -/
def before? {α : Type} (mark : Char) : Option (α × List Token) → Option (α × List Token)
  | some (a, punctuation c :: r) => if c = mark then some (a, r) else none
  | _ => none

@[simp] theorem before?_some {α : Type} (mark : Char) (a : α) (ts : List Token) :
    before? mark (some (a, punctuation mark :: ts)) = some (a, ts) := if_pos rfl

def parseString : List Token → Option (Text × List Token)
  | string b :: ts => some (unescape b, ts)
  | _ => none

/-- The strings of a list, from behind its opening bracket. -/
def parseStrings : List Token → Option (List Text × List Token)
  | string b :: punctuation ']' :: ts => some ([unescape b], ts)
  | string b :: punctuation ',' :: ts => readAs (unescape b :: ·) (parseStrings ts)
  | _ => none

/-- A list of strings; a single string needs no brackets. -/
def parseStringList : List Token → Option (List Text × List Token)
  | punctuation '[' :: ts => parseStrings ts
  | ts => readAs ([·]) (parseString ts)

/-- A primitive test from behind its name. The comparator is a word with a colon in front. -/
def parsePrimitive (name : Text) : List Token → Option (Primitive × List Token)
  | word comparator :: ts =>
    if comparator.head? ≠ some ':' then none
    else if name = "body".toList then readAs (Primitive.mk name comparator []) (parseString ts)
    else if name = "header".toList ∨ name = "address".toList then
      match parseStringList ts with
      | some (headers, r) => readAs (Primitive.mk name comparator headers) (parseString r)
      | none => none
    else none
  | _ => none

/-- Tests with commas between them, from behind the opening parenthesis. There are at most as many
as there are tokens. -/
def parseTests (test : List Token → Option (Expr × List Token)) :
    Nat → List Token → Option (List Expr × List Token)
  | 0, _ => none
  | n + 1, ts =>
    match test ts with
    | some (e, punctuation ',' :: r) => readAs (e :: ·) (parseTests test n r)
    | some (e, punctuation ')' :: r) => some ([e], r)
    | _ => none

/-- A test that is nested to at most the given depth. -/
def parseTest : Nat → List Token → Option (Expr × List Token)
  | depth + 1, punctuation '(' :: ts => before? ')' (parseTest depth ts)
  | depth + 1, word w :: ts =>
    if w = "true".toList then some (.constant true, ts)
    else if w = "false".toList then some (.constant false, ts)
    else if w = "not".toList then readAs .negation (parseTest depth ts)
    else if w = "anyof".toList ∨ w = "allof".toList then
      match ts with
      | punctuation '(' :: r =>
        readAs (if w = "anyof".toList then .any else .all)
          (parseTests (parseTest depth) r.length r)
      | _ => none
    else readAs .primitive (parsePrimitive w ts)
  | _, _ => none

/-- One command, where `block` reads the commands of an inner block. -/
def parseCommand (block : List Token → Option (List Statement × List Token)) :
    List Token → Option (Statement × List Token)
  | word w :: ts =>
    if w = "require".toList then readAs .require (before? ';' (parseStringList ts))
    else if w = "fileinto".toList then readAs .fileinto (before? ';' (parseString ts))
    else if w = "reject".toList then readAs .reject (before? ';' (parseString ts))
    else if w = "stop".toList then before? ';' (some (.stop, ts))
    else if w = "if".toList then
      (before? '\x7b' (parseTest ts.length ts)).bind fun test =>
        readAs (.branch test.1) (before? '\x7d' (block test.2))
    else none
  | _ => none

/-- Commands up to the end of the tokens or of the block they stand in. There are at most as many
as the number says. -/
def parseCommands : Nat → List Token → Option (List Statement × List Token)
  | 0, _ => none
  | _ + 1, [] => some ([], [])
  | _ + 1, punctuation c :: ts => some ([], punctuation c :: ts)
  | n + 1, ts =>
    (parseCommand (parseCommands n) ts).bind fun command =>
      readAs (command.1 :: ·) (parseCommands n command.2)

/-- The commands of a whole script. -/
def parseProgram (ts : List Token) : Option (List Statement) :=
  match parseCommands (ts.length + 1) ts with
  | some (cs, []) => some cs
  | _ => none

/-! Execution. -/

mutual

def Expr.eval (v : Primitive → Bool) : Expr → Bool
  | .constant b => b
  | .primitive p => v p
  | .negation e => !e.eval v
  | .all es => evalAll v es
  | .any es => evalAny v es

def evalAll (v : Primitive → Bool) : List Expr → Bool
  | [] => true
  | e :: es => e.eval v && evalAll v es

def evalAny (v : Primitive → Bool) : List Expr → Bool
  | [] => false
  | e :: es => e.eval v || evalAny v es

end

@[simp] theorem evalAll_eq (v : Primitive → Bool) (es : List Expr) :
    evalAll v es = es.all (·.eval v) := by
  induction es with
  | nil => rfl
  | cons e es ih => rw [evalAll, ih, List.all_cons]

@[simp] theorem evalAny_eq (v : Primitive → Bool) (es : List Expr) :
    evalAny v es = es.any (·.eval v) := by
  induction es with
  | nil => rfl
  | cons e es ih => rw [evalAny, ih, List.any_cons]

/-- What a script does to a message. -/
inductive Effect where
  | fileinto (mailbox : Text)
  | reject (reason : Text)
  deriving DecidableEq, Repr

/-- The effects of commands in order, and whether they stop the script. -/
structure Outcome where
  effects : List Effect
  stopped : Bool
  deriving DecidableEq, Repr

/-- The outcome of two parts of a script in turn. -/
def Outcome.andThen (a b : Outcome) : Outcome :=
  if a.stopped then a else ⟨a.effects ++ b.effects, b.stopped⟩

mutual

def Statement.run (v : Primitive → Bool) : Statement → Outcome
  | .require _ => ⟨[], false⟩
  | .fileinto m => ⟨[.fileinto m], false⟩
  | .reject t => ⟨[.reject t], false⟩
  | .stop => ⟨[], true⟩
  | .branch t b => if t.eval v then runAll v b else ⟨[], false⟩

def runAll (v : Primitive → Bool) : List Statement → Outcome
  | [] => ⟨[], false⟩
  | c :: cs => (c.run v).andThen (runAll v cs)

end

/-- Reads and executes the text of a script; nothing when it is not a script. -/
def runText (v : Primitive → Bool) (content : Text) : Option Outcome :=
  match scan content with
  | .ok ts => (parseProgram ts).map (runAll v)
  | .error _ => none

end MailFilter.Sieve
