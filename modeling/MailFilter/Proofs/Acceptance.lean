import MailFilter.Proofs.Nesting

/-!
# Accepted scripts

The check reads the tokens of a script with a stack of open brackets and with a depth of braces.
Neither shows in what it accepts: the brackets of the script form a word of the usual grammar, and
no command of the top level declares extensions below one that does something else. Where the
brackets fail, the one problem that is reported is the first closing bracket without its partner
or, when there is none, the innermost bracket that is left open.
-/
namespace MailFilter.Sieve

open Token

/-! Words of brackets. -/

def isBracket (c : Char) : Bool := brackets.any fun p => c == p.1 || c == p.2

/-- The brackets among the tokens, in order. -/
def bracketWord (ts : List Token) : List Char :=
  ts.filterMap fun
    | punctuation c => if isBracket c then some c else none
    | _ => none

/-- The words in which every bracket is closed by its partner. -/
inductive Matched : List Char → Prop
  | empty : Matched []
  | pair {o c b b'} : (o, c) ∈ brackets → Matched b → Matched b' → Matched (o :: b ++ c :: b')

/-- The words that close brackets correctly as far as they go and leave the brackets of the stack
open, innermost first. -/
inductive Leaves : List Char → List Char → Prop
  | matched {b} : Matched b → Leaves b []
  | opened {w b stack o c} : Leaves w stack → (o, c) ∈ brackets → Matched b →
      Leaves (w ++ o :: b) (o :: stack)

/-- What is wrong with the brackets of the tokens: the first closing bracket whose partner is not
the innermost open one or, where all closing brackets fit, the innermost bracket left open. -/
inductive Misnested : List Token → Problem → Prop
  | unbalanced {pre post stack o c} : Leaves (bracketWord pre) stack → (o, c) ∈ brackets →
      stack.head? ≠ some o → Misnested (pre ++ punctuation c :: post) (.unbalanced c)
  | unclosed {ts stack o} : Leaves (bracketWord ts) (o :: stack) → Misnested ts (.unclosed o)

theorem isBracket_opener {o c : Char} (h : (o, c) ∈ brackets) : isBracket o = true :=
  List.any_eq_true.2 ⟨_, h, by simp⟩

theorem isBracket_closer {o c : Char} (h : (o, c) ∈ brackets) : isBracket c = true :=
  List.any_eq_true.2 ⟨_, h, by simp⟩

@[simp] theorem bracketWord_nil : bracketWord [] = [] := rfl

@[simp] theorem bracketWord_append (ts us : List Token) :
    bracketWord (ts ++ us) = bracketWord ts ++ bracketWord us := List.filterMap_append

@[simp] theorem bracketWord_cons_bracket {c : Char} (h : isBracket c = true) (ts : List Token) :
    bracketWord (punctuation c :: ts) = c :: bracketWord ts := by
  simp [bracketWord, h]

@[simp] theorem bracketWord_cons_plain {t : Token} (h : IsPlain t) (ts : List Token) :
    bracketWord (t :: ts) = bracketWord ts := by
  cases t with
  | punctuation c =>
    have hc : isBracket c = false := by
      rw [isBracket, List.any_eq_false]
      intro p hp
      simpa using h p hp
    simp [bracketWord, hc]
  | string b => rfl
  | word w => rfl

/-- The check of brackets sees nothing but the brackets. -/
theorem nestingProblem?_bracketWord (stack : List Char) (ts r : List Token) :
    nestingProblem? stack (ts ++ r) =
      nestingProblem? stack ((bracketWord ts).map punctuation ++ r) := by
  induction ts generalizing stack with
  | nil => rfl
  | cons t ts ih =>
    by_cases ht : IsPlain t
    · simp [ht, ih]
    · obtain ⟨⟨o, c⟩, hpair, rfl | rfl⟩ := exists_bracket_of_not_isPlain ht
      · rw [bracketWord_cons_bracket (isBracket_opener hpair)]
        simp only [List.map_cons, List.cons_append, nestingProblem?, ih]
      · rw [bracketWord_cons_bracket (isBracket_closer hpair)]
        cases stack <;> simp only [List.map_cons, List.cons_append, nestingProblem?, ih]

theorem Nested.matched {ts : List Token} (h : Nested ts) : Matched (bracketWord ts) := by
  induction h with
  | nil => exact .empty
  | plain ht _ ih => simpa [ht] using ih
  | pair hpair _ _ ihts ihus =>
    simpa [isBracket_opener hpair, isBracket_closer hpair] using Matched.pair hpair ihts ihus

theorem Matched.nested {w : List Char} (h : Matched w) : Nested (w.map punctuation) := by
  induction h with
  | empty => exact .nil
  | pair hpair _ _ ihb ihb' =>
    rw [List.map_append, List.map_cons, List.map_cons]
    exact .pair hpair ihb ihb'

/-- The check of brackets accepts exactly the tokens whose brackets match. -/
theorem nestingProblem?_eq_none_iff_matched {ts : List Token} :
    nestingProblem? [] ts = none ↔ Matched (bracketWord ts) := by
  constructor
  · exact fun h => (nestingProblem?_eq_none_iff.1 h).matched
  · intro h
    have hword := nestingProblem?_bracketWord [] ts []
    rw [List.append_nil, List.append_nil] at hword
    rw [hword]
    exact nestingProblem?_eq_none_iff.2 h.nested

theorem Matched.append {b b' : List Char} (h : Matched b) (h' : Matched b') :
    Matched (b ++ b') := by
  induction h with
  | empty => exact h'
  | pair hpair hb _ _ ih =>
    rw [List.append_assoc, List.cons_append]
    exact .pair hpair hb ih

theorem Leaves.append {w b stack : List Char} (h : Leaves w stack) (hb : Matched b) :
    Leaves (w ++ b) stack := by
  cases h with
  | matched hw => exact .matched (hw.append hb)
  | opened hw hpair hb' =>
    rw [List.append_assoc, List.cons_append]
    exact .opened hw hpair (hb'.append hb)

/-- The partner of the innermost open bracket closes it. -/
theorem Leaves.close {w stack : List Char} {o c : Char} (h : Leaves w (o :: stack))
    (hpair : (o, c) ∈ brackets) : Leaves (w ++ [c]) stack := by
  cases h with
  | @opened w b _ _ _ hw _ hb =>
    have hgroup : Matched (o :: b ++ [c]) := .pair hpair hb .empty
    rw [List.append_assoc]
    exact hw.append hgroup

/-- Behind tokens that leave brackets open, the check goes on with these brackets. -/
theorem Leaves.nestingProblem?_append {pre : List Token} {stack : List Char}
    (h : Leaves (bracketWord pre) stack) (r : List Token) :
    nestingProblem? [] (pre ++ r) = nestingProblem? stack r := by
  rw [nestingProblem?_bracketWord]
  generalize bracketWord pre = w at h
  induction h generalizing r with
  | matched hb => exact hb.nested.balanced [] r
  | opened _ hpair hb ih =>
    rw [List.map_append, List.map_cons, List.append_assoc, ih, List.cons_append,
      nestingProblem?_opener (isOpener_iff.2 ⟨_, hpair, rfl⟩), hb.nested.balanced]

/-- The invariant of the run: the tokens that were read leave the brackets of the stack open. -/
theorem misnested_of_nestingProblem? {pre ts : List Token} {stack : List Char} {p : Problem}
    (hpre : Leaves (bracketWord pre) stack) (h : nestingProblem? stack ts = some p) :
    Misnested (pre ++ ts) p := by
  induction ts generalizing pre stack with
  | nil =>
    cases stack with
    | nil => cases h
    | cons o stack =>
      obtain rfl := Option.some.inj h
      rw [List.append_nil]
      exact .unclosed hpre
  | cons t ts ih =>
    rw [List.append_cons]
    by_cases ht : IsPlain t
    · rw [nestingProblem?_plain ht] at h
      exact ih (by simpa [ht] using hpre) h
    · obtain ⟨⟨o, c⟩, hpair, rfl | rfl⟩ := exists_bracket_of_not_isPlain ht
      · rw [nestingProblem?_opener (isOpener_iff.2 ⟨_, hpair, rfl⟩)] at h
        refine ih ?_ h
        rw [bracketWord_append, bracketWord_cons_bracket (isBracket_opener hpair)]
        exact .opened hpre hpair .empty
      · by_cases hhead : stack.head? = some o
        · obtain ⟨below, rfl⟩ := List.head?_eq_some_iff.1 hhead
          rw [nestingProblem?_closer (isOpener_closer hpair) (openerOf?_eq_some_iff.2 hpair)] at h
          refine ih ?_ h
          rw [bracketWord_append, bracketWord_cons_bracket (isBracket_closer hpair)]
          exact hpre.close hpair
        · rw [nestingProblem?_mismatch hpair hhead] at h
          obtain rfl := Option.some.inj h
          rw [← List.append_cons]
          exact .unbalanced hpre hpair hhead

/-- The check of brackets reports exactly what is wrong with them. -/
theorem nestingProblem?_eq_some_iff {ts : List Token} {p : Problem} :
    nestingProblem? [] ts = some p ↔ Misnested ts p := by
  constructor
  · have hstart : Leaves (bracketWord []) [] := .matched .empty
    exact misnested_of_nestingProblem? hstart
  · intro h
    cases h with
    | unbalanced hpre hpair hhead =>
      rw [hpre.nestingProblem?_append, nestingProblem?_mismatch hpair hhead]
    | @unclosed _ stack o hts =>
      have hrun := hts.nestingProblem?_append []
      rwa [List.append_nil] at hrun

/-! Commands of the top level. -/

/-- The number of braces that the tokens open and do not close. -/
def braceDepth (ts : List Token) : Int :=
  (ts.count (punctuation '\x7b') : Int) - ts.count (punctuation '\x7d')

/-- Behind the tokens a command of the top level starts: no brace is open, and the last token, if
there is one, is a semicolon or a closing brace. -/
def StartsCommand (pre : List Token) : Prop :=
  braceDepth pre = 0 ∧
    ∀ t ∈ pre.getLast?, t = punctuation ';' ∨ t = punctuation '\x7d'

/-- No command of the top level declares extensions below one that does not. -/
def DeclaresFirst (ts : List Token) : Prop :=
  ∀ pre t mid u post, ts = pre ++ t :: mid ++ u :: post → StartsCommand pre →
    StartsCommand (pre ++ t :: mid) → isRequire u = true → isRequire t = true

instance (pre : List Token) : Decidable (StartsCommand pre) := inferInstanceAs (Decidable (_ ∧ _))

/-- The commands that start in `ts` when the tokens of `pre` have been read. -/
def commandStartsBehind (pre ts : List Token) : List Token :=
  commandStartsFrom (braceDepth pre) (decide (StartsCommand pre)) ts

theorem braceDepth_concat (pre : List Token) (t : Token) :
    braceDepth (pre ++ [t]) = braceDepth pre + braceDepth [t] := by
  simp only [braceDepth, List.count_append]
  omega

theorem startsCommand_concat {pre : List Token} {t : Token} :
    StartsCommand (pre ++ [t]) ↔
      braceDepth (pre ++ [t]) = 0 ∧ (t = punctuation ';' ∨ t = punctuation '\x7d') := by
  simp only [StartsCommand, List.getLast?_concat, Option.mem_def, Option.some.injEq, forall_eq']

theorem commandStarts_eq (ts : List Token) : commandStarts ts = commandStartsBehind [] ts := rfl

theorem commandStartsFrom_cons (d : Int) (e : Bool) (t : Token) (ts : List Token) :
    commandStartsFrom d e (t :: ts) =
      (if e && d == 0 then [t] else []) ++
        commandStartsFrom (d + braceDepth [t])
          (decide
            (d + braceDepth [t] = 0 ∧ (t = punctuation ';' ∨ t = punctuation '\x7d'))) ts := by
  cases t with
  | punctuation c =>
    by_cases hopen : c = '\x7b'
    · subst hopen
      simp [commandStartsFrom, braceDepth]
    by_cases hclose : c = '\x7d'
    · subst hclose
      simp [commandStartsFrom, braceDepth, Int.sub_eq_add_neg, beq_eq_decide]
    · have hdepth : braceDepth [punctuation c] = 0 := by
        simp [braceDepth, hopen, hclose]
      rw [hdepth, Int.add_zero]
      by_cases hend : c = ';' ∧ d = 0
      · simp [commandStartsFrom, hend]
      · simp [commandStartsFrom, hopen, hclose, hend, and_comm]
  | string b => simp [commandStartsFrom, braceDepth]
  | word w => simp [commandStartsFrom, braceDepth]

/-- One token: it starts a command if one starts behind the tokens before it, and what was read
tells how the rest goes on. -/
theorem commandStartsBehind_cons (pre : List Token) (t : Token) (ts : List Token) :
    commandStartsBehind pre (t :: ts) =
      (if StartsCommand pre then [t] else []) ++ commandStartsBehind (pre ++ [t]) ts := by
  have hfound : (if decide (StartsCommand pre) && braceDepth pre == 0 then [t] else []) =
      if StartsCommand pre then [t] else [] := by
    by_cases h : StartsCommand pre
    · simp [h, h.1]
    · simp [h]
  unfold commandStartsBehind
  simp only [startsCommand_concat, braceDepth_concat]
  rw [commandStartsFrom_cons, hfound]

theorem mem_commandStartsBehind {pre ts : List Token} {u : Token} :
    u ∈ commandStartsBehind pre ts ↔
      ∃ mid post, ts = mid ++ u :: post ∧ StartsCommand (pre ++ mid) := by
  induction ts generalizing pre with
  | nil => simp [commandStartsBehind, commandStartsFrom]
  | cons t ts ih =>
    rw [commandStartsBehind_cons, List.mem_append, ih]
    constructor
    · rintro (hfirst | ⟨mid, post, rfl, hstart⟩)
      · by_cases hstart : StartsCommand pre
        · rw [if_pos hstart, List.mem_singleton] at hfirst
          exact ⟨[], ts, by rw [hfirst, List.nil_append], by rwa [List.append_nil]⟩
        · simp [hstart] at hfirst
      · exact ⟨t :: mid, post, rfl, by rwa [List.append_cons]⟩
    · rintro ⟨mid, post, hts, hstart⟩
      cases mid with
      | nil =>
        obtain ⟨rfl, rfl⟩ := List.cons.inj hts
        rw [List.append_nil] at hstart
        exact .inl (by simp [hstart])
      | cons v mid =>
        obtain ⟨rfl, rfl⟩ := List.cons.inj hts
        exact .inr ⟨mid, post, rfl, by rwa [← List.append_cons]⟩

theorem pairwise_commandStartsBehind {R : Token → Token → Prop} {before ts : List Token} :
    (commandStartsBehind before ts).Pairwise R ↔
      ∀ pre t mid u post, ts = pre ++ t :: mid ++ u :: post → StartsCommand (before ++ pre) →
        StartsCommand (before ++ (pre ++ t :: mid)) → R t u := by
  induction ts generalizing before with
  | nil => simp [commandStartsBehind, commandStartsFrom]
  | cons a ts ih =>
    rw [commandStartsBehind_cons, List.pairwise_append, ih]
    constructor
    · rintro ⟨-, hrest, hfirst⟩ pre t mid u post hts hpre hmid
      cases pre with
      | nil =>
        obtain ⟨rfl, rfl⟩ := List.cons.inj hts
        rw [List.append_nil] at hpre
        refine hfirst a (by simp [hpre]) u (mem_commandStartsBehind.2 ⟨mid, post, rfl, ?_⟩)
        rwa [← List.append_cons]
      | cons v pre =>
        obtain ⟨rfl, rfl⟩ := List.cons.inj hts
        refine hrest pre t mid u post rfl ?_ ?_
        · rwa [← List.append_cons]
        · rwa [← List.append_cons]
    · intro h
      refine ⟨by split <;> simp, ?_, ?_⟩
      · rintro pre t mid u post rfl hpre hmid
        refine h (a :: pre) t mid u post rfl ?_ ?_
        · rwa [List.append_cons]
        · rwa [List.cons_append, List.append_cons]
      · intro t ht u hu
        by_cases hbefore : StartsCommand before
        · rw [if_pos hbefore, List.mem_singleton] at ht
          obtain ⟨mid, post, rfl, hmid⟩ := mem_commandStartsBehind.1 hu
          refine h [] t mid u post (by rw [ht]; rfl) (by rwa [List.append_nil]) ?_
          rwa [List.nil_append, ht, List.append_cons]
        · simp [hbefore] at ht

/-- There is no late declaration exactly when every command before a declaration is one. -/
theorem lateRequires_eq_nil_iff {starts : List Token} :
    lateRequires starts = [] ↔
      starts.Pairwise fun t u => isRequire u = true → isRequire t = true := by
  rw [lateRequires, List.map_eq_nil_iff, List.filter_eq_nil_iff]
  induction starts with
  | nil => simp
  | cons t starts ih =>
    rw [List.pairwise_cons]
    cases ht : isRequire t with
    | true =>
      rw [List.dropWhile_cons_of_pos ht, ih]
      exact ⟨fun h => ⟨fun _ _ _ => rfl, h⟩, fun h => h.2⟩
    | false =>
      rw [List.dropWhile_cons_of_neg (by simp [ht]), List.forall_mem_cons]
      constructor
      · rintro ⟨-, hnone⟩
        refine ⟨fun u hu hreq => absurd hreq (hnone u hu), ?_⟩
        exact List.pairwise_of_forall_mem_list fun a _ b hb hreq => absurd hreq (hnone b hb)
      · rintro ⟨hfirst, -⟩
        exact ⟨by simp [ht], fun u hu hreq => by simpa using hfirst u hu hreq⟩

theorem lateRequires_commandStarts {ts : List Token} :
    lateRequires (commandStarts ts) = [] ↔ DeclaresFirst ts := by
  rw [lateRequires_eq_nil_iff, commandStarts_eq, pairwise_commandStartsBehind]
  rfl

/-- A script is accepted exactly when it can be read, its brackets match and its declarations come
first. A script that cannot be read has its fault as the only problem, and one whose brackets do
not match has the first thing wrong with them as the only problem. -/
theorem problems_eq_nil_iff_matched (content : Text) :
    (problems content = [] ↔
      ∃ ts, scan content = .ok ts ∧ Matched (bracketWord ts) ∧ DeclaresFirst ts) ∧
    (∀ u, scan content = .error u →
      (problems content).map Problem.message = [u.message content.length]) ∧
    (∀ ts, scan content = .ok ts → ¬Matched (bracketWord ts) →
      ∃ p, problems content = [p] ∧ ∀ q, Misnested ts q ↔ q = p) := by
  cases hscan : scan content with
  | error u =>
    have hproblems : problems content = [.unreadable u content.length] := by
      rw [problems, hscan]
    refine ⟨by simp [hproblems], fun v hv => ?_, fun ts hts => (by cases hts)⟩
    rw [hproblems, ← Except.error.inj hv]
    rfl
  | ok ts =>
    have hproblems : problems content = Token.problems ts := by rw [problems, hscan]
    refine ⟨?_, fun u hu => (by cases hu), fun us hus hunmatched => ?_⟩
    · rw [hproblems, Token.problems]
      simp only [Except.ok.injEq, exists_eq_left', ← nestingProblem?_eq_none_iff_matched,
        ← lateRequires_commandStarts]
      cases nestingProblem? [] ts <;> simp
    · obtain rfl := Except.ok.inj hus
      rw [← nestingProblem?_eq_none_iff_matched] at hunmatched
      obtain ⟨p, hp⟩ := Option.ne_none_iff_exists'.1 hunmatched
      refine ⟨p, by rw [hproblems, Token.problems, hp], fun q => ?_⟩
      rw [← nestingProblem?_eq_some_iff, hp, Option.some.injEq, eq_comm]

end MailFilter.Sieve
