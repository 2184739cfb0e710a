import MailFilter.Proofs.Execution
import Mathlib.Data.List.Infix

/-!
# What a compiled comparison asks of a subject

A test compares a subject with the last of its strings, in the way that its comparator says. The
value of a rule reaches that string through two layers of escapes and, for some operators, with a
star at one end. Read back and compared with any subject, it asks for exactly what the operator
of the rule asks for: the value is all of the subject, a part of it, its start or its end, and
none of its characters has a special meaning left.

Subjects are compared character by character; folding of letter case is not considered.
-/
namespace MailFilter.Sieve

open Token

/-! Wildcard patterns. -/

/-- The pattern describes the whole subject. A star stands for any run of characters, a question
mark for one character, and a backslash takes the special meaning from the character behind it. -/
def covers : Text → Text → Bool
  | [], t => t.isEmpty
  | '*' :: p, t => t.tails.any fun u => covers p u
  | '?' :: p, t => !t.isEmpty && covers p t.tail
  | '\\' :: c :: p, t => t.head? == some c && covers p t.tail
  | c :: p, t => t.head? == some c && covers p t.tail

theorem covers_star {p t : Text} :
    covers ('*' :: p) t = true ↔ ∃ u, u <:+ t ∧ covers p u = true := by
  simp only [covers, List.any_eq_true, List.mem_tails]

@[simp] theorem covers_star_nil (t : Text) : covers ['*'] t = true := by
  rw [covers_star]
  exact ⟨[], List.nil_suffix, rfl⟩

theorem head_tail_iff {c : Char} {f : Text → Bool} {t : Text} :
    (t.head? == some c && f t.tail) = true ↔ ∃ u, t = c :: u ∧ f u = true := by
  rw [Bool.and_eq_true, beq_iff_eq]
  constructor
  · rintro ⟨hhead, hrest⟩
    obtain ⟨u, rfl⟩ := List.head?_eq_some_iff.1 hhead
    exact ⟨u, rfl, hrest⟩
  · rintro ⟨u, rfl, hu⟩
    exact ⟨rfl, hu⟩

theorem covers_quoted {c : Char} {p t : Text} :
    covers ('\\' :: c :: p) t = true ↔ ∃ u, t = c :: u ∧ covers p u = true := by
  rw [covers, head_tail_iff]

/-- A character without a special meaning stands for itself. -/
theorem covers_plain {c : Char} (hc : globChar c = [c]) {p t : Text} :
    covers (c :: p) t = true ↔ ∃ u, t = c :: u ∧ covers p u = true := by
  have hspecial : c ≠ '*' ∧ c ≠ '?' ∧ c ≠ '\\' := by
    refine ⟨?_, ?_, ?_⟩ <;>
    · rintro rfl
      exact absurd hc (by decide)
  rw [covers, head_tail_iff]
  · exact hspecial.1
  · exact hspecial.2.1
  · rintro d q rfl
    exact absurd rfl hspecial.2.2

/-- An escaped text in front of a pattern takes itself off the front of the subject. -/
theorem covers_globEscape_append {v p t : Text} :
    covers (globEscape v ++ p) t = true ↔ ∃ u, t = v ++ u ∧ covers p u = true := by
  induction v generalizing t with
  | nil => simp [globEscape]
  | cons c v ih =>
    have hstep (u : Text) : covers (globEscape v ++ p) u = true ↔
        ∃ w, u = v ++ w ∧ covers p w = true := ih
    have hhead : covers (globEscape (c :: v) ++ p) t = true ↔
        ∃ u, t = c :: u ∧ covers (globEscape v ++ p) u = true := by
      have hcons : globEscape (c :: v) ++ p = globChar c ++ (globEscape v ++ p) := by
        simp [globEscape]
      rw [hcons]
      rcases globChar_cases c with hc | hc
      · rw [hc]
        exact covers_quoted
      · rw [hc]
        exact covers_plain hc
    rw [hhead]
    constructor
    · rintro ⟨u, rfl, hu⟩
      obtain ⟨w, rfl, hw⟩ := (hstep u).1 hu
      exact ⟨w, rfl, hw⟩
    · rintro ⟨w, rfl, hw⟩
      exact ⟨v ++ w, rfl, (hstep _).2 ⟨w, rfl, hw⟩⟩

@[simp] theorem covers_globEscape {v t : Text} : covers (globEscape v) t = true ↔ t = v := by
  have h := covers_globEscape_append (v := v) (p := []) (t := t)
  simpa [covers] using h

@[simp] theorem covers_globEscape_star {v t : Text} :
    covers (globEscape v ++ ['*']) t = true ↔ v <+: t := by
  rw [covers_globEscape_append]
  constructor
  · rintro ⟨u, rfl, -⟩
    exact List.prefix_append v u
  · rintro ⟨u, rfl⟩
    exact ⟨u, rfl, covers_star_nil u⟩

@[simp] theorem covers_star_globEscape {v t : Text} :
    covers ('*' :: globEscape v) t = true ↔ v <:+ t := by
  rw [covers_star]
  constructor
  · rintro ⟨u, hu, hcovers⟩
    rwa [covers_globEscape.1 hcovers] at hu
  · intro h
    exact ⟨v, h, covers_globEscape.2 rfl⟩

/-! Comparators and relations. -/

/-- The comparator accepts the subject for the pattern. -/
def Comparator.accepts : Comparator → Text → Text → Bool
  | is, p, t => t == p
  | contains, p, t => t.tails.any (Text.startsWith · p)
  | matching, p, t => covers p t

/-- The subject stands in the relation to the value. -/
def Relation.Holds : Relation → Text → Text → Prop
  | contains, v, t => v <:+: t
  | equals, v, t => t = v
  | begins, v, t => v <+: t
  | ends, v, t => v <:+ t

/-- The phrases that ask for the relation, and those that ask for its opposite. -/
def Relation.wordings : Relation → Bool → List Text
  | contains, false => ["contains".toList]
  | contains, true => ["does not contain".toList, "does not contains".toList]
  | equals, false => ["equals".toList, "is".toList]
  | equals, true => ["does not equal".toList, "is not".toList]
  | begins, false => ["begins".toList, "begins with".toList]
  | begins, true => ["does not begin".toList, "does not begin with".toList]
  | ends, false => ["ends".toList, "ends with".toList]
  | ends, true => ["does not end".toList, "does not end with".toList]

@[simp] theorem accepts_contains {p t : Text} :
    Comparator.contains.accepts p t = true ↔ p <:+: t := by
  simp only [Comparator.accepts, Text.startsWith, List.any_eq_true, List.mem_tails,
    List.isPrefixOf_iff_prefix, List.infix_iff_prefix_suffix]
  exact exists_congr fun u => And.comm

/-- The pattern of a relation is accepted exactly where the relation holds. -/
theorem accepts_pattern (r : Relation) (v t : Text) :
    r.comparator.accepts (r.pattern v) t = true ↔ r.Holds v t := by
  cases r with
  | contains => exact accepts_contains
  | equals => exact beq_iff_eq
  | begins => exact covers_globEscape_star
  | ends => exact covers_star_globEscape

/-! Anchored literals. -/

/-- The ends of a subject at which a literal is held. -/
inductive Anchor where
  | front
  | back
  | both
  deriving DecidableEq, Repr

namespace Anchor

def pattern : Anchor → Text → Text
  | front, c => '^' :: c
  | back, c => c ++ ['$']
  | both, c => '^' :: c ++ ['$']

/-- No further anchor could be taken off the text between the anchors. -/
def Fits : Anchor → Text → Prop
  | front, c => c.getLast? ≠ some '$'
  | back, c => c.head? ≠ some '^'
  | both, _ => True

def glob : Anchor → Text → Text
  | front, c => c ++ ['*']
  | back, c => '*' :: c
  | both, c => c

/-- The subject has the literal at the ends in question. -/
def Holds : Anchor → Text → Text → Prop
  | front, c, t => c <+: t
  | back, c, t => c <:+ t
  | both, c, t => t = c

theorem mem_pattern {a : Anchor} {c : Text} {d : Char} (h : d ∈ c) : d ∈ a.pattern c := by
  cases a <;> simp [pattern, h]

end Anchor

@[simp] theorem startsWith_caret (s : Text) :
    Text.startsWith s ['^'] = true ↔ s.head? = some '^' := by
  rw [Text.startsWith, List.isPrefixOf_iff_prefix, List.head?_eq_some_iff]
  exact exists_congr fun u => eq_comm

@[simp] theorem endsWith_dollar (s : Text) :
    Text.endsWith s ['$'] = true ↔ s.getLast? = some '$' := by
  rw [Text.endsWith, List.isSuffixOf_iff_suffix, List.getLast?_eq_some_iff]
  exact exists_congr fun u => eq_comm

theorem literalGlob?_pattern (a : Anchor) {c : Text} (hc : c ≠ []) (hfits : a.Fits c) :
    literalGlob? (a.pattern c) =
      if (a.pattern c).any isRegexMeta then none else some (a.glob c) := by
  have hempty : c.isEmpty = false := List.isEmpty_eq_false_iff.2 hc
  cases a with
  | front =>
    have hstarts : Text.startsWith ('^' :: c) ['^'] = true := rfl
    have hends : Text.endsWith ('^' :: c) ['$'] = false := by
      rw [Bool.eq_false_iff, Ne, endsWith_dollar, List.getLast?_cons_of_ne_nil hc]
      exact hfits
    simp only [literalGlob?, Anchor.pattern, Anchor.glob, hstarts, hends]
    simp [hempty]
  | back =>
    have hstarts : Text.startsWith (c ++ ['$']) ['^'] = false := by
      rw [Bool.eq_false_iff, Ne, startsWith_caret, List.head?_append_of_ne_nil c hc]
      exact hfits
    have hends : Text.endsWith (c ++ ['$']) ['$'] = true := by
      rw [endsWith_dollar, List.getLast?_concat]
    simp only [literalGlob?, Anchor.pattern, Anchor.glob, hstarts, hends]
    simp [hempty]
  | both =>
    have hstarts : Text.startsWith ('^' :: c ++ ['$']) ['^'] = true := rfl
    have hends : Text.endsWith ('^' :: c ++ ['$']) ['$'] = true := by
      rw [endsWith_dollar, List.getLast?_concat]
    simp only [literalGlob?, Anchor.pattern, Anchor.glob, hstarts, hends]
    simp [hempty]

/-- The patterns that are nothing but anchors. -/
def bareAnchors : List Text := [['^'], ['$'], ['^', '$']]

/-- A pattern that has an anchor and something beside it can be cut at its anchors. -/
theorem exists_pattern {s : Text} (hanchor : s.head? = some '^' ∨ s.getLast? = some '$')
    (hbare : s ∉ bareAnchors) : ∃ a c, c ≠ [] ∧ Anchor.Fits a c ∧ s = a.pattern c := by
  by_cases hstart : s.head? = some '^'
  · obtain ⟨u, rfl⟩ := List.head?_eq_some_iff.1 hstart
    by_cases hend : u.getLast? = some '$'
    · obtain ⟨c, rfl⟩ := List.getLast?_eq_some_iff.1 hend
      refine ⟨.both, c, ?_, trivial, rfl⟩
      rintro rfl
      exact hbare (by decide)
    · refine ⟨.front, u, ?_, hend, rfl⟩
      rintro rfl
      exact hbare (by decide)
  · obtain ⟨c, rfl⟩ := List.getLast?_eq_some_iff.1 (hanchor.resolve_left hstart)
    have hc : c ≠ [] := by
      rintro rfl
      exact hbare (by decide)
    exact ⟨.back, c, hc, by rwa [List.head?_append_of_ne_nil c hc] at hstart, rfl⟩

/-- A pattern has no wildcard form exactly when it holds a metacharacter that the conversion knows,
has no anchor, or has nothing beside its anchors. -/
theorem literalGlob?_eq_none_iff {s : Text} :
    literalGlob? s = none ↔ (∃ c ∈ s, isRegexMeta c = true) ∨
      (s.head? ≠ some '^' ∧ s.getLast? ≠ some '$') ∨ s ∈ bareAnchors := by
  constructor
  · intro h
    by_contra hnone
    simp only [not_or, not_and_or, not_not, Ne] at hnone
    obtain ⟨hmeta, hanchor, hbare⟩ := hnone
    obtain ⟨a, c, hc, hfits, rfl⟩ := exists_pattern hanchor hbare
    rw [literalGlob?_pattern a hc hfits, if_neg (by rwa [List.any_eq_true])] at h
    cases h
  · rintro (hmeta | ⟨hstart, hend⟩ | hbare)
    · rw [literalGlob?, if_pos (List.any_eq_true.2 hmeta)]
    · have hstarts : Text.startsWith s ['^'] = false := by
        rwa [Bool.eq_false_iff, Ne, startsWith_caret]
      have hends : Text.endsWith s ['$'] = false := by
        rwa [Bool.eq_false_iff, Ne, endsWith_dollar]
      simp [literalGlob?, hstarts, hends]
    · have hall : ∀ b ∈ bareAnchors, literalGlob? b = none := by decide
      exact hall s hbare

/-- A pattern has a wildcard form exactly when it is a literal behind an anchor, in front of one or
between two, and none of its characters is a metacharacter that the conversion knows. -/
theorem literalGlob?_eq_some_iff {s g : Text} :
    literalGlob? s = some g ↔ (∀ c ∈ s, isRegexMeta c = false) ∧
      ∃ a c, c ≠ [] ∧ Anchor.Fits a c ∧ s = a.pattern c ∧ g = a.glob c := by
  constructor
  · intro h
    have hnone : ¬literalGlob? s = none := by simp [h]
    simp only [literalGlob?_eq_none_iff, not_or, not_and_or, not_not, Ne] at hnone
    obtain ⟨hmeta, hanchor, hbare⟩ := hnone
    obtain ⟨a, c, hc, hfits, rfl⟩ := exists_pattern hanchor hbare
    rw [literalGlob?_pattern a hc hfits, if_neg (by rwa [List.any_eq_true])] at h
    refine ⟨fun d hd => ?_, a, c, hc, hfits, rfl, (Option.some.inj h).symm⟩
    exact Bool.eq_false_iff.2 fun hd' => hmeta ⟨d, hd, hd'⟩
  · rintro ⟨hmeta, a, c, hc, hfits, rfl, rfl⟩
    rw [literalGlob?_pattern a hc hfits, if_neg]
    rw [List.any_eq_true]
    rintro ⟨d, hd, hd'⟩
    rw [hmeta d hd] at hd'
    cases hd'

theorem globEscape_eq_self {s : Text} (h : ∀ c ∈ s, isRegexMeta c = false) : globEscape s = s := by
  have hplain : ∀ c ∈ s, globChar c = [c] := by
    intro c hc
    have hmeta := h c hc
    unfold globChar
    split
    next hspecial =>
      have hmem : c ∈ ".*+?[]()|\\".toList := by
        simp only [Bool.or_eq_true, beq_iff_eq] at hspecial
        rcases hspecial with (rfl | rfl) | rfl <;> decide
      rw [isRegexMeta, List.contains_iff_mem.2 hmem] at hmeta
      cases hmeta
    next => rfl
  rw [globEscape, List.flatMap_congr hplain, List.flatMap_singleton']

/-- The wildcard form of an anchored literal describes the subjects that have the literal at the
ends in question. -/
theorem covers_glob (a : Anchor) {c : Text} (h : ∀ d ∈ c, isRegexMeta d = false) (t : Text) :
    covers (a.glob c) t = true ↔ a.Holds c t := by
  have hescape := globEscape_eq_self h
  cases a with
  | front =>
    rw [Anchor.glob, ← hescape, covers_globEscape_star, hescape]
    rfl
  | back =>
    rw [Anchor.glob, ← hescape, covers_star_globEscape, hescape]
    rfl
  | both =>
    rw [Anchor.glob, ← hescape, covers_globEscape, hescape]
    rfl

/-! The tokens of a test. -/

def Comparator.ofText? (w : Text) : Option Comparator :=
  [Comparator.is, .contains, .matching].find? (·.text == w)

/-- The comparator that a test names. -/
def comparatorOf? (ts : List Token) : Option Comparator :=
  ts.findSome? fun t =>
    match t with
    | word w => Comparator.ofText? w
    | _ => none

/-- The text that the last string of a test stands for. -/
def lastString? (ts : List Token) : Option Text := (stringBodies ts).getLast?.map unescape

/-- What a test says of a subject, its negation aside. -/
def verdictOf? (ts : List Token) (subject : Text) : Option Bool :=
  (comparatorOf? ts).bind fun c => (lastString? ts).map fun p => c.accepts p subject

/-- The test stands inside `not ( )`. -/
def IsNegated (ts : List Token) : Prop :=
  ∃ us, ts = word "not".toList :: punctuation '(' :: us ++ [punctuation ')']

namespace Test

/-- A comparison starts with one of three names, and its comparator comes next. -/
theorem plainTokens_start (f : Field) (c : Comparison) :
    ∃ name ts, name ∈ ["body".toList, "header".toList, "address".toList] ∧
      plainTokens f c = word name :: word c.comparator.text :: ts := by
  unfold plainTokens
  split
  · exact ⟨_, _, by simp, rfl⟩
  · refine ⟨_, _, ?_, rfl⟩
    unfold Field.testName
    split <;> simp

@[simp] theorem comparatorOf?_tokens (f : Field) (c : Comparison) :
    comparatorOf? (compare f c).tokens = some c.comparator := by
  have hnames : ∀ w ∈ ["body".toList, "header".toList, "address".toList, "not".toList],
      Comparator.ofText? w = none := by decide
  have hcomparator : Comparator.ofText? c.comparator.text = some c.comparator := by
    cases c.comparator <;> decide
  obtain ⟨name, ts, hname, hplain⟩ := plainTokens_start f c
  have hnone := hnames name (List.mem_append_left ["not".toList] hname)
  have hnot := hnames "not".toList (by simp)
  rw [tokens, hplain]
  split
  · simp only [comparatorOf?, List.cons_append, List.findSome?_cons, hnot, hnone, hcomparator]
  · simp only [comparatorOf?, List.findSome?_cons, hnone, hcomparator]

@[simp] theorem lastString?_tokens (f : Field) (c : Comparison) :
    lastString? (compare f c).tokens = some c.pattern := by
  simp [lastString?, texts]

@[simp] theorem isNegated_tokens (f : Field) (c : Comparison) :
    IsNegated (compare f c).tokens ↔ c.negated = true := by
  obtain ⟨name, ts, hname, hplain⟩ := plainTokens_start f c
  rw [tokens]
  cases hnegated : c.negated with
  | true => exact ⟨fun _ => rfl, fun _ => ⟨plainTokens f c, if_pos rfl⟩⟩
  | false =>
    rw [if_neg Bool.false_ne_true, hplain]
    refine ⟨?_, fun h => absurd h Bool.false_ne_true⟩
    rintro ⟨us, hus⟩
    have hnot : name = "not".toList := Token.word.inj (List.cons.inj hus).1
    rw [hnot] at hname
    exact absurd hname (by decide)

/-- The text of a comparison is read as a test that accepts what its comparator accepts for its
pattern. -/
theorem verdictOf?_compare (f : Field) (c : Comparison) (t : Text) :
    ∃ ts, scan (compare f c).text = .ok ts ∧
      verdictOf? ts t = some (c.comparator.accepts c.pattern t) ∧
      (IsNegated ts ↔ c.negated = true) := by
  refine ⟨_, (writes_text (compare f c)).scan_eq_ok, ?_, isNegated_tokens f c⟩
  simp [verdictOf?]

end Test

/-- Every operator phrase is a wording of its relation. -/
example : ∀ p ∈ Relation.phrases, p.1 ∈ p.2.1.wordings p.2.2 := by decide

theorem lookup_phrases {r : Relation} {negated : Bool} {w : Text} (h : w ∈ r.wordings negated) :
    Relation.phrases.lookup w = some (r, negated) ∧ w ∉ Test.regexOperators ∧
      w ≠ "matches".toList := by
  have hall : ∀ negated, ∀ w ∈ r.wordings negated, Relation.phrases.lookup w = some (r, negated) ∧
      w ∉ Test.regexOperators ∧ w ≠ "matches".toList := by
    cases r <;> decide
  exact hall negated w h

namespace Test

theorem ofRule_of_mem_wordings {r : Rule} {rel : Relation} {negated : Bool} (hvalue : r.value ≠ [])
    (h : Text.lower (Text.trim r.operator) ∈ rel.wordings negated) :
    ofRule r =
      compare (.ofPart r.part) ⟨rel.comparator, negated, rel.pattern r.value⟩ := by
  obtain ⟨hlookup, hregex, hmatches⟩ := lookup_phrases h
  have hcomparison : Comparison.ofOperator? (Text.lower (Text.trim r.operator)) r.value =
      some ⟨rel.comparator, negated, rel.pattern r.value⟩ := by
    rw [Comparison.ofOperator?, if_neg (by simpa using hvalue), hlookup]
    rfl
  simp only [ofRule]
  rw [if_neg (by simpa using hregex), if_neg (by simpa using hmatches), hcomparison]

theorem ofRule_of_matches {r : Rule} {g : Text}
    (h : Text.lower (Text.trim r.operator) = "matches".toList)
    (hg : literalGlob? r.value = some g) :
    ofRule r = compare (.ofPart r.part) ⟨.matching, false, g⟩ := by
  simp only [ofRule]
  rw [h, if_neg (by decide), if_pos (by decide), hg]

/-- Whatever the characters of the value, the test of a rule accepts the subjects that its operator
asks for. Each operator phrase asks for one of four relations between value and subject; an
anchored literal asks for the text between its anchors at the ends where they stand. The test is
negated for the phrases that deny their relation and for no others. -/
theorem verdictOf?_ofRule (r : Rule) (t : Text) :
    (∀ (rel : Relation) (negated : Bool), r.value ≠ [] →
        Text.lower (Text.trim r.operator) ∈ rel.wordings negated →
        ∃ ts b, scan (ofRule r).text = .ok ts ∧ verdictOf? ts t = some b ∧
          (b = true ↔ rel.Holds r.value t) ∧ (IsNegated ts ↔ negated = true)) ∧
      ∀ g : Text, Text.lower (Text.trim r.operator) = "matches".toList →
        literalGlob? r.value = some g →
        ∃ (a : Anchor) (c : Text), a.Fits c ∧ r.value = a.pattern c ∧
          ∃ ts b, scan (ofRule r).text = .ok ts ∧ verdictOf? ts t = some b ∧
            (b = true ↔ a.Holds c t) ∧ ¬IsNegated ts := by
  constructor
  · intro rel negated hvalue hoperator
    rw [ofRule_of_mem_wordings hvalue hoperator]
    obtain ⟨ts, hscan, hverdict, hnegated⟩ := verdictOf?_compare (.ofPart r.part)
      ⟨rel.comparator, negated, rel.pattern r.value⟩ t
    exact ⟨ts, _, hscan, hverdict, accepts_pattern rel r.value t, hnegated⟩
  · intro g hoperator hg
    obtain ⟨hmeta, a, c, -, hfits, hvalue, rfl⟩ := literalGlob?_eq_some_iff.1 hg
    have hcore : ∀ d ∈ c, isRegexMeta d = false := by
      intro d hd
      apply hmeta
      rw [hvalue]
      exact Anchor.mem_pattern hd
    rw [ofRule_of_matches hoperator hg]
    obtain ⟨ts, hscan, hverdict, hnegated⟩ :=
      verdictOf?_compare (.ofPart r.part) ⟨.matching, false, a.glob c⟩ t
    refine ⟨a, c, hfits, hvalue, ts, _, hscan, hverdict, covers_glob a hcore t, ?_⟩
    rw [hnegated]
    exact Bool.false_ne_true

/-- A value of nothing but special characters. -/
def specialRule : Rule :=
  ⟨"subject".toList, " Does Not Begin ".toList, "*\\?\"\x7b\x7d".toList, []⟩

/-- A literal between two anchors that holds braces. -/
def bracedRule : Rule :=
  ⟨"subject".toList, "Matches".toList, ['^', 'a', '\x7b', 'b', '\x7d', '$'], []⟩

/-- A subject that starts with the special characters, and one that is the braced literal. -/
theorem verdictOf?_specialCharacters :
    (∃ ts, scan (ofRule specialRule).text = .ok ts ∧
        verdictOf? ts "*\\?\"\x7b\x7d and more".toList = some true ∧ IsNegated ts) ∧
      ∃ ts, scan (ofRule bracedRule).text = .ok ts ∧
        verdictOf? ts "a\x7bb\x7d".toList = some true ∧ ¬IsNegated ts := by
  have hwords : Text.lower (Text.trim specialRule.operator) ∈ Relation.begins.wordings true := by
    decide +kernel
  obtain ⟨ts, b, hscan, hverdict, hholds, hnegated⟩ :=
    (verdictOf?_ofRule specialRule "*\\?\"\x7b\x7d and more".toList).1 .begins true (by decide)
      hwords
  have hb : b = true := hholds.2 (by decide : _ <+: _)
  refine ⟨⟨ts, hscan, hb ▸ hverdict, hnegated.2 rfl⟩, ?_⟩
  have hglob : literalGlob? bracedRule.value = some "a\x7bb\x7d".toList := by decide
  obtain ⟨a, c, hfits, hvalue, ts, b, hscan, hverdict, hholds, hnegated⟩ :=
    (verdictOf?_ofRule bracedRule "a\x7bb\x7d".toList).2 _ (by decide +kernel) hglob
  have hb : b = true := by
    rw [hholds]
    cases a with
    | front =>
      obtain rfl := (List.cons.inj hvalue).2
      exact absurd rfl hfits
    | back =>
      have hback : c ++ ['$'] = ['^', 'a', '\x7b', 'b', '\x7d'] ++ ['$'] := hvalue.symm
      obtain rfl := List.append_cancel_right hback
      exact absurd rfl hfits
    | both =>
      have hboth : c ++ ['$'] = ['a', '\x7b', 'b', '\x7d'] ++ ['$'] := (List.cons.inj hvalue).2.symm
      exact (List.append_cancel_right hboth).symm
  exact ⟨ts, hscan, hb ▸ hverdict, hnegated⟩

end Test

end MailFilter.Sieve
