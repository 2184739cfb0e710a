import MailFilter.Text.Blank

/-!
# Tokens of scripts

A script is read as punctuation, quoted strings and words. Blanks and both kinds of comments
separate tokens and are dropped. Reading fails only where a comment or a string has no end.
-/
namespace MailFilter.Sieve

/-- A token. The body of a string is what stands between its quotes, escapes included. -/
inductive Token where
  | punctuation (c : Char)
  | string (body : Text)
  | word (w : Text)
  deriving DecidableEq, Repr

namespace Token

def isPunctuation (c : Char) : Bool := ",;()\x7b\x7d[]".toList.contains c

/-- The token as it stands in the script. -/
def text : Token → Text
  | punctuation c => [c]
  | string body => '"' :: body ++ ['"']
  | word w => w

/-- What was left open. -/
inductive Open where
  | comment
  | string
  deriving DecidableEq, Repr

/-- Something without an end, with the number of characters from its start to the end of the
script. -/
structure Unterminated where
  kind : Open
  remaining : Nat
  deriving DecidableEq, Repr

/-- The text after the mark that ends a bracket comment. -/
def afterComment? : Text → Option Text
  | [] => none
  | '*' :: '/' :: s => some s
  | _ :: s => afterComment? s

/-- The body of a string and the text after its closing quote, read from just after the opening
quote. -/
def stringBody? : Text → Option (Text × Text)
  | [] => none
  | '"' :: s => some ([], s)
  | ['\\'] => none
  | '\\' :: c :: s => (stringBody? s).map fun (b, r) => ('\\' :: c :: b, r)
  | c :: s => (stringBody? s).map fun (b, r) => (c :: b, r)

/-- A character that no word contains. -/
def endsWord (c : Char) : Bool :=
  Text.isBlank c || isPunctuation c || c == '"' || c == '#'

/-- The rest of a word and the text after it. A word also ends where a bracket comment starts. -/
def wordRest : Text → Text × Text
  | [] => ([], [])
  | c :: s =>
    if endsWord c || (c == '/' && s.head? == some '*') then ([], c :: s)
    else (c :: (wordRest s).1, (wordRest s).2)

theorem length_afterComment? {s r : Text} (h : afterComment? s = some r) :
    r.length < s.length := by
  fun_induction afterComment? s with
  | case1 => simp at h
  | case2 s => simp at h; subst h; simp only [List.length_cons]; omega
  | case3 c s _ ih => have := ih h; simp only [List.length_cons]; omega

theorem length_stringBody? {s b r : Text} (h : stringBody? s = some (b, r)) :
    r.length < s.length := by
  fun_induction stringBody? s generalizing b with
  | case1 => simp at h
  | case2 s => simp at h; simp [h.2]
  | case3 => simp at h
  | case4 c s ih =>
    obtain ⟨⟨b', r'⟩, hb, he⟩ := Option.map_eq_some_iff.1 h
    simp at he
    have := ih (he.2 ▸ hb)
    simp only [List.length_cons]; omega
  | case5 c s _ _ _ ih =>
    obtain ⟨⟨b', r'⟩, hb, he⟩ := Option.map_eq_some_iff.1 h
    simp at he
    have := ih (he.2 ▸ hb)
    simp only [List.length_cons]; omega

theorem length_wordRest (s : Text) : (wordRest s).2.length ≤ s.length := by
  induction s with
  | nil => simp [wordRest]
  | cons c s ih =>
    unfold wordRest
    split
    · exact Nat.le_refl _
    · exact Nat.le_succ_of_le ih

theorem length_dropWhile_le (p : Char → Bool) (s : Text) : (s.dropWhile p).length ≤ s.length :=
  (List.dropWhile_sublist p).length_le

/-- The tokens of a script. -/
def scan : Text → Except Unterminated (List Token)
  | [] => .ok []
  | c :: s =>
    if Text.isBlank c then scan s
    else if c == '#' then scan (s.dropWhile (· != '\n'))
    else if c == '/' && s.head? == some '*' then
      match h : afterComment? (s.drop 1) with
      | none => .error ⟨.comment, s.length + 1⟩
      | some r => scan r
    else if c == '"' then
      match h : stringBody? s with
      | none => .error ⟨.string, s.length + 1⟩
      | some (body, r) => (scan r).map (string body :: ·)
    else if isPunctuation c then (scan s).map (punctuation c :: ·)
    else (scan (wordRest s).2).map (word (c :: (wordRest s).1) :: ·)
termination_by s => s.length
decreasing_by
  · simp only [List.length_cons]; omega
  · have := length_dropWhile_le (· != '\n') s; simp only [List.length_cons]; omega
  · have := length_afterComment? h; simp only [List.length_drop, List.length_cons] at this ⊢; omega
  · have := length_stringBody? h; simp only [List.length_cons]; omega
  · simp only [List.length_cons]; omega
  · have := length_wordRest s; simp only [List.length_cons]; omega

/-- Where in a script of the given length the open comment or string starts. -/
def Unterminated.offset (u : Unterminated) (length : Nat) : Nat := length - u.remaining

def Open.name : Open → Text
  | comment => "comment".toList
  | string => "string".toList

def Unterminated.message (u : Unterminated) (length : Nat) : Text :=
  "unterminated ".toList ++ u.kind.name ++ " at offset ".toList ++ Text.ofNat (u.offset length)

end Token

end MailFilter.Sieve
