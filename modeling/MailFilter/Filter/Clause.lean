import MailFilter.Filter.Basic
import MailFilter.Journal
import MailFilter.Text.Blank
import MailFilter.Text.LowerCase

/-!
# Conditions in filter text

The conditions of a filter are clauses joined by `or` and `and`. A clause is a part that ends at
its first colon, an operator phrase and a quoted value:

    $header_from: contains "foo" or not $header_subject: begins "WHMCS"

Joining words count only outside quotes. A clause that cannot be read is left out, with a notice.
-/
namespace MailFilter

namespace Clause

/-- The contents of a quoted string, read from just after its opening quote. A backslash stands
for the character after it. Nothing is read when the string is never closed. -/
def quotedBody : Text → Option Text
  | [] => none
  | '"' :: _ => some []
  | '\\' :: c :: s => (quotedBody s).map (c :: ·)
  | c :: s => (quotedBody s).map (c :: ·)

/-- The contents of the first quoted string. -/
def firstQuoted (s : Text) : Option Text :=
  match Text.after? '"' s with
  | none => none
  | some r => quotedBody r

/-- A joining word between blanks starts the text. -/
def startsJoin (low : Text) : Bool :=
  Text.startsWith low " or ".toList || Text.startsWith low " and ".toList

/-- The number of characters before the first joining word outside quotes, or all of them. The
second text is the lower-case form of the first, read in step with it; `quoted` says whether the
walk is inside a string. -/
def joinFrom (quoted : Bool) : Text → Text → Nat
  | [], _ => 0
  | c :: s, low =>
    if quoted then
      if c == '\\' then
        match s with
        | [] => 1
        | _ :: r => joinFrom true r (low.drop 2) + 2
      else joinFrom (c != '"') s (low.drop 1) + 1
    else if c == '"' then joinFrom true s (low.drop 1) + 1
    else if startsJoin low then 0
    else joinFrom false s (low.drop 1) + 1

/-- Where the first joining word outside quotes starts, or the length of the text. -/
def joinIndex (s : Text) : Nat := joinFrom false s (Text.lower s)

@[simp] theorem startsJoin_lowerAfter (before s : Text) :
    startsJoin (Text.lowerAfter before s) = startsJoin (s.map Char.toLower) := by
  rw [startsJoin, Text.startsWith_lowerAfter (by decide), Text.startsWith_lowerAfter (by decide),
    startsJoin]

/-- A trimmed text does not start with a joining word, so the first clause takes something. -/
theorem joinIndex_pos {s : Text} (h : Text.trim s ≠ []) : 0 < joinIndex (Text.trim s) := by
  cases hs : Text.trim s with
  | nil => exact absurd hs h
  | cons c t =>
    have hspace : (' ' == c.toLower) = false := by
      refine beq_eq_false_iff_ne.2 (Ne.symm (Text.toLower_ne_space ?_))
      rintro rfl
      exact absurd (Text.isBlank_of_trim hs) (by decide)
    have hnone : startsJoin (Text.lower (c :: t)) = false := by
      rw [Text.lower, startsJoin_lowerAfter]
      simp [startsJoin, Text.startsWith, List.isPrefixOf_cons_cons, hspace]
    rw [joinIndex, joinFrom.eq_def]
    simp only [Bool.false_eq_true, if_false, hnone]
    split <;> exact Nat.succ_pos _

/-- Operator phrases that have a negated form of their own. -/
def negatedOperators : List (Text × Text) :=
  [("contains".toList, "does not contain".toList),
    ("is".toList, "is not".toList),
    ("begins".toList, "does not begin".toList),
    ("ends".toList, "does not end".toList),
    ("matches".toList, "does not match".toList)]

/-- The negated form of an operator phrase. -/
def negate (operator : Text) : Text :=
  (negatedOperators.lookup operator).getD ("not ".toList ++ operator)

/-- A clause without its leading `not`, and whether it had one. -/
def splitNot (expr : Text) : Bool × Text :=
  if Text.startsWith (Text.lower expr) "not ".toList then (true, Text.trim (expr.drop 4))
  else (false, expr)

/-- Blanks at the ends removed and runs of blanks inside made one space. -/
def phrase (s : Text) : Text := Text.join [' '] (Text.words s)

/-- Reads one clause. -/
def read (expr join : Text) : Option Rule :=
  let (negated, body) := splitNot expr
  let head := Text.before '"' body
  if head.contains ':' then
    let part := Text.before ':' head
    let rest := Text.trim (body.drop (part.length + 1))
    match firstQuoted rest with
    | none => none
    | some value =>
      let operator := phrase (Text.lower (Text.before '"' rest))
      some ⟨Text.trim (part ++ [':']), if negated then negate operator else operator, value, join⟩
  else none

/-- A clause that was read, or the text of one that could not be. -/
inductive Reading where
  | rule (r : Rule)
  | unreadable (expr : Text)
  deriving DecidableEq, Repr

def reading (expr join : Text) : Reading :=
  match read expr join with
  | some r => .rule r
  | none => .unreadable expr

/-- Takes the joining word off the front. -/
def splitJoin (s : Text) : Text × Text :=
  let low := Text.lower s
  if Text.startsWith low "or ".toList then ("or".toList, Text.trim (s.drop 3))
  else if Text.startsWith low "and ".toList then ("and".toList, Text.trim (s.drop 4))
  else ("or".toList, s)

theorem splitJoin_cases (s : Text) :
    (∃ word n, splitJoin s = (word, Text.trim (s.drop n))) ∨ splitJoin s = ("or".toList, s) := by
  simp only [splitJoin]
  split
  · exact .inl ⟨_, 3, rfl⟩
  · split
    · exact .inl ⟨_, 4, rfl⟩
    · exact .inr rfl

/-- The joining word of a clause and the text from the clause on. Only a clause after the first can
have a joining word. -/
def clauseStart (first : Bool) (s : Text) : Text × Text :=
  if first then ("or".toList, Text.trim s) else splitJoin (Text.trim s)

@[simp] theorem clauseStart_true {s : Text} (h : Text.trim s = s) :
    clauseStart true s = ("or".toList, s) := by
  rw [clauseStart, if_pos rfl, h]

theorem clauseStart_eq_trim (first : Bool) (s : Text) :
    ∃ t, t.length ≤ s.length ∧ (clauseStart first s).2 = Text.trim t := by
  unfold clauseStart
  split
  · exact ⟨s, Nat.le_refl _, rfl⟩
  · rcases splitJoin_cases (Text.trim s) with ⟨word, n, h⟩ | h
    · refine ⟨(Text.trim s).drop n, ?_, by rw [h]⟩
      rw [List.length_drop]
      exact Nat.le_trans (Nat.sub_le _ _) (Text.length_trim_le s)
    · exact ⟨s, Nat.le_refl _, by rw [h]⟩

/-- Every clause leaves less text behind. -/
theorem length_rest_lt {first : Bool} {s : Text} (h : (clauseStart first s).2 ≠ []) :
    (clauseStart first s).2.length - joinIndex (clauseStart first s).2 < s.length := by
  obtain ⟨t, hle, ht⟩ := clauseStart_eq_trim first s
  rw [ht] at h ⊢
  have hcut := joinIndex_pos h
  have htrim := Text.length_trim_le t
  have hne := List.length_pos_iff.2 h
  omega

/-- Reads the clauses of a text. -/
def readFrom (first : Bool) (s : Text) : List Reading :=
  let start := clauseStart first s
  if h : start.2 = [] then []
  else
    have := length_rest_lt h
    let cut := joinIndex start.2
    reading (Text.trim (start.2.take cut)) start.1 :: readFrom false (start.2.drop cut)
termination_by s.length

/-- Reading a text is reading its first clause and then what the clause leaves. -/
theorem readFrom_eq (first : Bool) (s : Text) :
    readFrom first s =
      if (clauseStart first s).2 = [] then []
      else
        reading (Text.trim ((clauseStart first s).2.take (joinIndex (clauseStart first s).2)))
            (clauseStart first s).1 ::
          readFrom false ((clauseStart first s).2.drop (joinIndex (clauseStart first s).2)) := by
  rw [readFrom]
  rfl

def readAll (s : Text) : List Reading := readFrom true s

def Reading.rule? : Reading → Option Rule
  | rule r => some r
  | unreadable _ => none

def Reading.notice? : Reading → Option Notice
  | rule _ => none
  | unreadable expr => some ⟨.debug, "Skipping unparseable condition: ".toList ++ expr⟩

end Clause

/-- The rules of a condition text. -/
def Rule.parse (s : Text) : List Rule := (Clause.readAll s).filterMap (·.rule?)

/-- What reading a condition text reports. -/
def Rule.parseJournal (s : Text) : Journal := (Clause.readAll s).filterMap (·.notice?)

end MailFilter
