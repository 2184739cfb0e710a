import MailFilter.Proofs.Program
import MailFilter.Proofs.Strings

/-!
# What converted filters do

Executing the combined script of a filter set carries out the actions of the first active filter
whose condition holds, and stops; when there is none, it does nothing. The proof goes by way of
the program that a filter set calls for: the tokens of the combined script parse into it, part by
part, and its execution finds the first filter that fires.
-/
namespace MailFilter.Sieve

open Token

/-! The meaning of filters. -/

/-- The primitive test of a comparison. -/
def primitiveOf (f : Field) (c : Comparison) : Primitive :=
  if f.isBody then ⟨"body".toList, c.comparator.text, [], c.pattern⟩
  else ⟨f.testName c.comparator, c.comparator.text, f.names, c.pattern⟩

/-- A comparison asks for its primitive test or for the opposite; an unknown operator always holds
and a regular expression never does. -/
def Test.holds (v : Primitive → Bool) : Test → Bool
  | compare f c => v (primitiveOf f c) != c.negated
  | placeholder o _ => o == .unknownOperator

/-- All or any of the rules, as their join marks ask for. -/
def conditionHolds (v : Primitive → Bool) (rs : List Rule) : Bool :=
  match Junction.ofRules rs with
  | .allOf => rs.all fun r => (Test.ofRule r).holds v
  | .anyOf => rs.any fun r => (Test.ofRule r).holds v

/-- What an action does to a message, if anything. -/
def effectOf? (a : Action) : Option Effect :=
  match Verb.ofAction? a with
  | some .save => some (.fileinto (mailboxOf (a.dest.getD [])))
  | some .deliver => some (.fileinto (a.dest.getD []))
  | some .reject => some (.reject (a.dest.getD []))
  | _ => none

/-- The first active filter whose condition holds. -/
def firing? (v : Primitive → Bool) (fs : FilterSet) : Option Entry :=
  fs.entries.find? fun e => e.isActive && conditionHolds v e.rules

/-- What a filter set does to a message: the actions of the filter that fires, and no more. -/
def outcomeOf (v : Primitive → Bool) (fs : FilterSet) : Outcome :=
  match firing? v fs with
  | some e => ⟨e.actions.filterMap effectOf?, true⟩
  | none => ⟨[], false⟩

/-! The program of a filter set. -/

def Test.expr : Test → Expr
  | compare f c =>
    if c.negated then .negation (.primitive (primitiveOf f c)) else .primitive (primitiveOf f c)
  | placeholder o _ => .constant (o == .unknownOperator)

def Condition.expr : Condition → Expr
  | never => .constant false
  | single t => t.expr
  | joined .allOf ts => .all (ts.map Test.expr)
  | joined .anyOf ts => .any (ts.map Test.expr)

def Effect.statement : Effect → Statement
  | fileinto m => .fileinto m
  | reject t => .reject t

def blockStatement (e : Entry) : Statement :=
  .branch (Condition.ofRules e.rules).expr
    ((e.actions.filterMap effectOf?).map Effect.statement ++ [Statement.stop])

/-! Parsing the tokens of filters. -/

@[simp] theorem unescape_escaped (s : Text) : unescape (s.flatMap quoteChar) = s := by
  induction s with
  | nil => rfl
  | cons c s ih =>
    rw [List.flatMap_cons]
    rcases quoteChar_cases c with hquote | ⟨hquote, hslash, -⟩
    · rw [hquote, List.cons_append, List.singleton_append, unescape, ih]
    · rw [hquote, List.singleton_append, unescape, ih]
      rintro d t rfl
      exact absurd rfl hslash

@[simp] theorem parseString_quoted (s : Text) (r : List Token) :
    parseString (quoted s :: r) = some (s, r) := by
  simp [quoted, parseString]

theorem parseStrings_names {ns : List Text} (h : ns ≠ []) (r : List Token) :
    parseStrings (commaSeparated (ns.map fun n => [quoted n]) ++ punctuation ']' :: r) =
      some (ns, r) := by
  unfold commaSeparated
  induction ns with
  | nil => exact absurd rfl h
  | cons n ns ih =>
    cases ns with
    | nil =>
      rw [List.map_cons, List.map_nil, List.intercalate_singleton, List.singleton_append, quoted,
        parseStrings, unescape_escaped]
    | cons m ms =>
      have hrest := ih (List.cons_ne_nil m ms)
      simp only [List.map_cons, List.intercalate_cons_cons] at hrest ⊢
      rw [List.append_assoc, List.append_assoc, List.singleton_append, List.singleton_append,
        quoted, parseStrings, hrest, unescape_escaped]
      rfl

theorem parseStringList_nameList {ns : List Text} (h : ns ≠ []) (r : List Token) :
    parseStringList (punctuation '[' :: commaSeparated (ns.map fun n => [quoted n]) ++
      [punctuation ']'] ++ r) = some (ns, r) := by
  rw [List.append_assoc, List.cons_append, List.singleton_append, parseStringList,
    parseStrings_names h]

@[simp] theorem parseStringList_quoted (s : Text) (r : List Token) :
    parseStringList (quoted s :: r) = some ([s], r) := by
  have hlist : parseStringList (quoted s :: r) = readAs ([·]) (parseString (quoted s :: r)) := rfl
  simp [hlist]

@[simp] theorem parseStringList_nameTokens {f : Field} (h : f.names ≠ []) (r : List Token) :
    parseStringList (f.nameTokens ++ r) = some (f.names, r) := by
  unfold Field.nameTokens
  split
  next n hn => simp [hn]
  next => exact parseStringList_nameList h r

/-- The field is the body or has header names. -/
def Field.Named (f : Field) : Prop := f.isBody = false → f.names ≠ []

theorem named_ofPart (part : Text) : (Field.ofPart part).Named := by
  have hknown : ∀ p ∈ Field.known, p.2.isBody = false → p.2.names ≠ [] := by decide
  rcases ofPart_cases part with ⟨k, hk⟩ | heq | heq
  · generalize Field.ofPart part = f at hk ⊢
    exact hknown (k, f) hk
  · rw [heq]
    exact fun _ => List.cons_ne_nil _ _
  · rw [heq]
    exact fun _ => List.cons_ne_nil _ _

theorem parseTest_plainTokens {f : Field} (hf : f.Named) (c : Comparison) (d : Nat)
    (r : List Token) :
    parseTest (d + 1) (Test.plainTokens f c ++ r) = some (.primitive (primitiveOf f c), r) := by
  have hcolon : c.comparator.text.head? = some ':' := by cases c.comparator <;> rfl
  have hprimitive (name : Text) (hname : name = "body".toList ∨ name = "header".toList ∨
      name = "address".toList) (ts : List Token) :
      parseTest (d + 1) (word name :: ts) = readAs .primitive (parsePrimitive name ts) := by
    rcases hname with rfl | rfl | rfl <;> rfl
  unfold Test.plainTokens primitiveOf
  cases hbody : f.isBody with
  | true =>
    simp only [if_true, List.cons_append, List.nil_append]
    rw [hprimitive _ (.inl rfl), parsePrimitive, if_neg (by simp [hcolon]), if_pos rfl,
      parseString_quoted]
    rfl
  | false =>
    have hname : f.testName c.comparator = "header".toList ∨
        f.testName c.comparator = "address".toList := by
      unfold Field.testName
      split
      · exact .inr rfl
      · exact .inl rfl
    have hne : f.testName c.comparator ≠ "body".toList := by
      rcases hname with h | h <;> rw [h] <;> decide
    simp only [Bool.false_eq_true, if_false, List.cons_append, List.append_assoc]
    rw [hprimitive _ (.inr hname), parsePrimitive, if_neg (by simp [hcolon]), if_neg hne,
      if_pos hname, parseStringList_nameTokens (hf hbody), List.nil_append]
    simp only [parseString_quoted]
    rfl

/-- The field of the test is the body or has header names. -/
def Test.Named : Test → Prop
  | compare f _ => f.Named
  | placeholder _ _ => True

theorem named_ofRule (r : Rule) : (Test.ofRule r).Named := by
  rcases ofRule_cases r with ⟨o, heq⟩ | ⟨c, heq, -⟩
  · rw [heq]
    trivial
  · rw [heq]
    exact named_ofPart r.part

/-- The tokens of a test are parsed as the test. -/
theorem parseTest_testTokens {t : Test} (ht : t.Named) (d : Nat) (r : List Token) :
    parseTest (d + 3) (t.tokens ++ r) = some (t.expr, r) := by
  cases t with
  | compare f c =>
    rw [Test.tokens, Test.expr]
    cases c.negated with
    | false => exact parseTest_plainTokens ht c (d + 2) r
    | true =>
      have hplain := parseTest_plainTokens ht c d (punctuation ')' :: r)
      have hnot (ts : List Token) : parseTest (d + 3) (word "not".toList :: ts) =
          readAs .negation (parseTest (d + 2) ts) := rfl
      rw [if_pos rfl, if_pos rfl, List.append_assoc, List.cons_append, List.cons_append, hnot,
        List.singleton_append, parseTest, hplain, before?_some, readAs_some]
  | placeholder o rule => cases o <;> rfl

theorem parseTests_commaSeparated {test : List Token → Option (Expr × List Token)} {ts : List Test}
    (hne : ts ≠ []) (htest : ∀ t ∈ ts, ∀ r, test (t.tokens ++ r) = some (t.expr, r)) {n : Nat}
    (hn : ts.length ≤ n) (r : List Token) :
    parseTests test n (commaSeparated (ts.map Test.tokens) ++ punctuation ')' :: r) =
      some (ts.map Test.expr, r) := by
  unfold commaSeparated
  induction ts generalizing n with
  | nil => exact absurd rfl hne
  | cons t ts ih =>
    obtain ⟨n, rfl⟩ : ∃ m, n = m + 1 := ⟨n - 1, by simp at hn; omega⟩
    have ht := htest t (by simp)
    cases ts with
    | nil =>
      rw [List.map_cons, List.map_nil, List.intercalate_singleton, parseTests, ht]
      rfl
    | cons u us =>
      have hrest := ih (List.cons_ne_nil u us) (fun w hw => htest w (by simp [hw])) (n := n)
        (by simp at hn ⊢; omega)
      simp only [List.map_cons, List.intercalate_cons_cons] at hrest ⊢
      rw [List.append_assoc, List.append_assoc, List.singleton_append, parseTests, ht]
      simp only [hrest]
      rfl

@[simp] theorem tokens_ne_nil (t : Test) : t.tokens ≠ [] := by
  cases t with
  | compare f c =>
    rw [Test.tokens, Test.plainTokens]
    split <;> split <;> exact List.cons_ne_nil _ _
  | placeholder o r => exact List.cons_ne_nil _ _

theorem length_le_commaSeparated {tss : List (List Token)} (h : ∀ ts ∈ tss, ts ≠ []) :
    tss.length ≤ (commaSeparated tss).length := by
  unfold commaSeparated
  induction tss with
  | nil => exact Nat.le_refl _
  | cons ts tss ih =>
    have hts := List.length_pos_iff.2 (h ts (by simp))
    have hrest := ih fun us hus => h us (by simp [hus])
    cases tss with
    | nil =>
      rw [List.intercalate_singleton]
      exact hts
    | cons us uss =>
      rw [List.intercalate_cons_cons]
      simp only [List.length_append, List.length_cons] at hrest ⊢
      omega

theorem parseTest_joined {ts : List Test} (hne : ts ≠ []) (hnamed : ∀ t ∈ ts, t.Named)
    (j : Junction) (d : Nat) (r : List Token) :
    parseTest (d + 4) ((Condition.joined j ts).tokens ++ r) =
      some ((Condition.joined j ts).expr, r) := by
  have htests : ∀ t ∈ ts, ∀ r, parseTest (d + 3) (t.tokens ++ r) = some (t.expr, r) :=
    fun t ht r => parseTest_testTokens (hnamed t ht) d r
  have hlength : ts.length ≤
      (commaSeparated (ts.map Test.tokens) ++ punctuation ')' :: r).length := by
    have htokens : ∀ us ∈ ts.map Test.tokens, us ≠ [] := by
      intro us hus
      obtain ⟨t, -, rfl⟩ := List.mem_map.1 hus
      exact tokens_ne_nil t
    have hle := length_le_commaSeparated htokens
    rw [List.length_map] at hle
    rw [List.length_append]
    omega
  have hparse := parseTests_commaSeparated hne htests hlength r
  have hshape : (Condition.joined j ts).tokens ++ r = word j.text :: punctuation '(' ::
      (commaSeparated (ts.map Test.tokens) ++ punctuation ')' :: r) := by
    simp [Condition.tokens]
  rw [hshape]
  cases j with
  | allOf =>
    have hall (us : List Token) :
        parseTest (d + 4) (word Junction.allOf.text :: punctuation '(' :: us) =
          readAs .all (parseTests (parseTest (d + 3)) us.length us) := rfl
    rw [hall, hparse, readAs_some]
    rfl
  | anyOf =>
    have hany (us : List Token) :
        parseTest (d + 4) (word Junction.anyOf.text :: punctuation '(' :: us) =
          readAs .any (parseTests (parseTest (d + 3)) us.length us) := rfl
    rw [hany, hparse, readAs_some]
    rfl

/-- The tokens of a condition are parsed as the condition. -/
theorem parseTest_conditionTokens (rs : List Rule) (d : Nat) (r : List Token) :
    parseTest (d + 4) ((Condition.ofRules rs).tokens ++ r) =
      some ((Condition.ofRules rs).expr, r) := by
  match rs with
  | [] => rfl
  | [q] => exact parseTest_testTokens (named_ofRule q) (d + 1) r
  | q :: p :: rs =>
    have hnamed : ∀ t ∈ (q :: p :: rs).map Test.ofRule, t.Named := by
      intro t ht
      obtain ⟨rule, -, rfl⟩ := List.mem_map.1 ht
      exact named_ofRule rule
    exact parseTest_joined (List.cons_ne_nil _ _) hnamed _ d r

/-! Parsing commands. -/

/-- A command is read before the commands that follow it. -/
theorem parseCommands_cons {n : Nat} {ts r : List Token} {c : Statement}
    (h : parseCommand (parseCommands n) ts = some (c, r)) :
    parseCommands (n + 1) ts = readAs (c :: ·) (parseCommands n r) := by
  match ts with
  | [] => cases h
  | punctuation d :: ts => cases h
  | string b :: ts => cases h
  | word w :: ts =>
    rw [parseCommands, h, Option.bind_some]
    · intro hnil
      cases hnil
    · intro d us hmark
      cases hmark

/-- The command that has an effect. -/
def Effect.tokens : Effect → List Token
  | fileinto m => [word "fileinto".toList, quoted m, punctuation ';']
  | reject t => [word "reject".toList, quoted t, punctuation ';']

theorem commandTokens_eq (a : Action) :
    commandTokens a = (effectOf? a).elim [] Effect.tokens := by
  unfold effectOf? commandTokens
  cases Verb.ofAction? a with
  | none => rfl
  | some v => cases v <;> rfl

@[simp] theorem parseCommand_effect (m : Effect)
    (block : List Token → Option (List Statement × List Token)) (r : List Token) :
    parseCommand block (m.tokens ++ r) = some (m.statement, r) := by
  cases m with
  | fileinto s =>
    have hcommand (ts : List Token) : parseCommand block (word "fileinto".toList :: ts) =
        readAs .fileinto (before? ';' (parseString ts)) := rfl
    rw [Effect.tokens, List.cons_append, List.cons_append, List.singleton_append, hcommand,
      parseString_quoted, before?_some, readAs_some]
    rfl
  | reject s =>
    have hcommand (ts : List Token) : parseCommand block (word "reject".toList :: ts) =
        readAs .reject (before? ';' (parseString ts)) := rfl
    rw [Effect.tokens, List.cons_append, List.cons_append, List.singleton_append, hcommand,
      parseString_quoted, before?_some, readAs_some]
    rfl

/-- The commands inside a block. -/
theorem parseCommands_actions (as : List Action) {n : Nat}
    (hn : (as.flatMap commandTokens).length + 2 ≤ n) (r : List Token) :
    parseCommands n (as.flatMap commandTokens ++
        word "stop".toList :: punctuation ';' :: punctuation '\x7d' :: r) =
      some ((as.filterMap effectOf?).map Effect.statement ++ [Statement.stop],
        punctuation '\x7d' :: r) := by
  induction as generalizing n with
  | nil =>
    obtain ⟨n, rfl⟩ := Nat.exists_eq_add_of_le hn
    rw [Nat.add_comm]
    rfl
  | cons a as ih =>
    rw [List.flatMap_cons, List.length_append, commandTokens_eq] at hn
    rw [List.flatMap_cons, List.append_assoc, commandTokens_eq]
    cases heffect : effectOf? a with
    | none =>
      rw [heffect, Option.elim_none, List.length_nil] at hn
      rw [Option.elim_none, List.nil_append, List.filterMap_cons_none heffect]
      exact ih (by omega)
    | some m =>
      -- the command takes a token at least, so the bound still suffices for the others
      have hpos : 0 < m.tokens.length := by cases m <;> exact Nat.succ_pos _
      rw [heffect, Option.elim_some] at hn
      obtain ⟨n, rfl⟩ : ∃ k, n = k + 1 := ⟨n - 1, by omega⟩
      rw [Option.elim_some, parseCommands_cons (parseCommand_effect m _ _), ih (by omega),
        List.filterMap_cons_some heffect]
      rfl

/-- The tokens of a block are parsed as the block. -/
theorem parseCommand_blockTokens (e : Entry) {n : Nat} (hn : (blockTokens e).length ≤ n)
    (r : List Token) :
    parseCommand (parseCommands n) (blockTokens e ++ r) = some (blockStatement e, r) := by
  have hshape : blockTokens e ++ r = word "if".toList :: ((Condition.ofRules e.rules).tokens ++
      punctuation '\x7b' :: (e.actions.flatMap commandTokens ++
        word "stop".toList :: punctuation ';' :: punctuation '\x7d' :: r)) := by
    simp only [blockTokens, List.append_assoc, List.cons_append, List.nil_append]
  have hinside : (e.actions.flatMap commandTokens).length + 2 ≤ n := by
    simp only [blockTokens, List.length_append, List.length_cons] at hn
    omega
  have hif (ts : List Token) : parseCommand (parseCommands n) (word "if".toList :: ts) =
      (before? '\x7b' (parseTest ts.length ts)).bind fun test =>
        readAs (.branch test.1) (before? '\x7d' (parseCommands n test.2)) := rfl
  rw [hshape, hif]
  generalize htail : punctuation '\x7b' :: (e.actions.flatMap commandTokens ++
    word "stop".toList :: punctuation ';' :: punctuation '\x7d' :: r) = tail
  -- a condition nests four deep at most, and four tokens follow it in any case
  have hdepth : 4 ≤ ((Condition.ofRules e.rules).tokens ++ tail).length := by
    rw [← htail]
    simp only [List.length_append, List.length_cons]
    omega
  obtain ⟨d, hd⟩ := Nat.exists_eq_add_of_le hdepth
  have hbody := parseCommands_actions e.actions hinside r
  rw [hd, Nat.add_comm, parseTest_conditionTokens, ← htail, before?_some, Option.bind_some, hbody,
    before?_some, readAs_some]
  rfl

theorem parseCommands_blocks (es : List Entry) {n : Nat}
    (hn : (es.flatMap activeTokens).length < n) :
    parseCommands n (es.flatMap activeTokens) =
      some ((es.filter (·.isActive)).map blockStatement, []) := by
  induction es generalizing n with
  | nil =>
    obtain ⟨n, rfl⟩ := Nat.exists_eq_add_of_lt hn
    rfl
  | cons e es ih =>
    rw [List.flatMap_cons, List.length_append] at hn
    rw [List.flatMap_cons]
    cases hactive : e.isActive with
    | false =>
      rw [activeTokens_of_inactive hactive, List.nil_append,
        List.filter_cons_of_neg (by simp [hactive])]
      exact ih (by omega)
    | true =>
      obtain ⟨n, rfl⟩ : ∃ k, n = k + 1 := ⟨n - 1, by omega⟩
      rw [activeTokens_of_active hactive] at hn ⊢
      have hpos : 0 < (blockTokens e).length := by simp [blockTokens]
      rw [parseCommands_cons (parseCommand_blockTokens e (by omega) _), ih (by omega),
        List.filter_cons_of_pos hactive]
      rfl

/-- The program of a filter set: one declaration, if there are extensions, and the blocks of the
active filters in order. -/
theorem parseProgram_combined (names : List Text) (es : List Entry) :
    parseProgram (requireTokens names ++ es.flatMap activeTokens) =
      some ((if names.isEmpty then [] else [Statement.require names]) ++
        (es.filter (·.isActive)).map blockStatement) := by
  by_cases hnone : names = []
  · rw [hnone, parseProgram]
    simp only [requireTokens, List.isEmpty_nil, if_true, List.nil_append]
    rw [parseCommands_blocks es (Nat.lt_succ_self _)]
  · have hrequire (block) (ts : List Token) : parseCommand block (word "require".toList :: ts) =
        readAs .require (before? ';' (parseStringList ts)) := rfl
    have hcommand (block) : parseCommand block (requireTokens names ++ es.flatMap activeTokens) =
        some (.require names, es.flatMap activeTokens) := by
      rw [requireTokens_append hnone, hrequire, parseStringList_nameList hnone, before?_some,
        readAs_some]
    have hlength : (es.flatMap activeTokens).length <
        (requireTokens names ++ es.flatMap activeTokens).length := by
      rw [requireTokens_append hnone]
      simp only [List.length_cons, List.length_append]
      omega
    rw [parseProgram, parseCommands_cons (hcommand _), parseCommands_blocks es hlength,
      if_neg (by simpa using hnone)]
    rfl

/-! Executing the program. -/

@[simp] theorem eval_testExpr (v : Primitive → Bool) (t : Test) : t.expr.eval v = t.holds v := by
  cases t with
  | compare f c =>
    rw [Test.expr, Test.holds]
    cases c.negated with
    | false => simp [Expr.eval]
    | true => simp [Expr.eval]
  | placeholder o r => rfl

/-- For a single rule it makes no difference how it would be joined. -/
@[simp] theorem conditionHolds_singleton (v : Primitive → Bool) (r : Rule) :
    conditionHolds v [r] = (Test.ofRule r).holds v := by
  rw [conditionHolds]
  cases Junction.ofRules [r] with
  | allOf => simp
  | anyOf => simp

theorem eval_conditionExpr (v : Primitive → Bool) {rs : List Rule} (h : rs ≠ []) :
    (Condition.ofRules rs).expr.eval v = conditionHolds v rs := by
  match rs with
  | [] => exact absurd rfl h
  | [r] => rw [conditionHolds_singleton, ← eval_testExpr]; rfl
  | r :: q :: rs =>
    have hjoined : Condition.ofRules (r :: q :: rs) =
        .joined (.ofRules (r :: q :: rs)) ((r :: q :: rs).map Test.ofRule) := rfl
    have htests : (fun p => (Test.ofRule p).expr.eval v) = fun p => (Test.ofRule p).holds v :=
      funext fun p => eval_testExpr v (Test.ofRule p)
    rw [hjoined, conditionHolds]
    cases Junction.ofRules (r :: q :: rs) with
    | allOf =>
      rw [Condition.expr, Expr.eval, evalAll_eq, List.map_map, List.all_map, ← htests]
      rfl
    | anyOf =>
      rw [Condition.expr, Expr.eval, evalAny_eq, List.map_map, List.any_map, ← htests]
      rfl

/-- A list of effects and a final stop. -/
@[simp] theorem runAll_effects (v : Primitive → Bool) (ms : List Effect) :
    runAll v (ms.map Effect.statement ++ [Statement.stop]) = ⟨ms, true⟩ := by
  induction ms with
  | nil => rfl
  | cons m ms ih =>
    rw [List.map_cons, List.cons_append, runAll, ih]
    cases m with
    | fileinto s => rfl
    | reject s => rfl

@[simp] theorem run_blockStatement (v : Primitive → Bool) {e : Entry} (h : e.isActive = true) :
    (blockStatement e).run v =
      if conditionHolds v e.rules then ⟨e.actions.filterMap effectOf?, true⟩ else ⟨[], false⟩ := by
  have hrules : e.rules ≠ [] := by
    simp only [Entry.isActive, Bool.and_eq_true, Bool.not_eq_true', List.isEmpty_eq_false_iff] at h
    exact h.2
  rw [blockStatement, Statement.run, eval_conditionExpr v hrules, runAll_effects]

/-- The blocks in order do what the first filter that fires does. -/
theorem runAll_blocks (v : Primitive → Bool) (es : List Entry) :
    runAll v ((es.filter (·.isActive)).map blockStatement) =
      match es.find? fun e => e.isActive && conditionHolds v e.rules with
      | some e => ⟨e.actions.filterMap effectOf?, true⟩
      | none => ⟨[], false⟩ := by
  induction es with
  | nil => rfl
  | cons e es ih =>
    cases hactive : e.isActive with
    | false =>
      rw [List.filter_cons_of_neg (by simp [hactive]), List.find?_cons_of_neg (by simp [hactive])]
      exact ih
    | true =>
      rw [List.filter_cons_of_pos hactive, List.map_cons, runAll, run_blockStatement v hactive]
      cases hholds : conditionHolds v e.rules with
      | false =>
        rw [List.find?_cons_of_neg (by simp [hholds]), ih]
        rfl
      | true =>
        rw [List.find?_cons_of_pos (by simp [hactive, hholds])]
        rfl

theorem runAll_program (v : Primitive → Bool) (names : List Text) (fs : FilterSet) :
    runAll v ((if names.isEmpty then [] else [Statement.require names]) ++
      (fs.entries.filter (·.isActive)).map blockStatement) = outcomeOf v fs := by
  have hblocks := runAll_blocks v fs.entries
  cases names.isEmpty with
  | true => exact hblocks
  | false =>
    have hrequire (cs : List Statement) : runAll v (.require names :: cs) = runAll v cs := rfl
    rw [if_neg (by simp), List.singleton_append, hrequire]
    exact hblocks

/-- The combined script of filters without line feeds does what the filters do: whatever the
message, it carries out the actions of the first active filter whose condition holds. -/
theorem runText_ofFilterSet (v : Primitive → Bool) (name : Text) (fs : FilterSet)
    (h : ∀ e ∈ fs.entries, SingleLine e) :
    runText v (Script.ofFilterSet name fs).content = some (outcomeOf v fs) := by
  have hwrites := writes_ofFilterSet name fun e he => (h e he).transparent
  rw [runText, hwrites.scan_eq_ok]
  simp only [parseProgram_combined, Option.map_some, runAll_program]

/-- A filter that is switched off, a conjunction that fails on its second rule and a filter with a
negated rule and two actions. -/
def threeFilters : FilterSet :=
  { entries :=
      [{ name := "off".toList
         enabled := false
         rules := [{ part := "from".toList, operator := "contains".toList, value := "x".toList }]
         actions := [.deliver "lost".toList] },
        { name := "both".toList
          rules :=
            [{ part := "from".toList, operator := "is".toList, value := "x".toList
               join := "and".toList },
              { part := "body".toList, operator := "contains".toList, value := "y".toList
                join := "and".toList }]
          actions := [.deliver "both".toList] },
        { name := "other".toList
          rules :=
            [{ part := "subject".toList, operator := "does not contain".toList
               value := "y".toList }]
          actions :=
            [.save "/home/.Say \"hi\"".toList, ⟨some "reject".toList, some "no".toList⟩] }] }

/-- On a message for which exactly the tests with pattern `x` hold, the third filter fires. -/
theorem runText_threeFilters :
    (∀ e ∈ threeFilters.entries, SingleLine e) ∧
      runText (fun p => p.pattern == "x".toList)
          (Script.ofFilterSet "m".toList threeFilters).content =
        some ⟨[.fileinto "Say \"hi\"".toList, .reject "no".toList], true⟩ := by
  have hlines : ∀ e ∈ threeFilters.entries, SingleLine e := by decide
  have houtcome : outcomeOf (fun p => p.pattern == "x".toList) threeFilters =
      ⟨[.fileinto "Say \"hi\"".toList, .reject "no".toList], true⟩ := by decide +kernel
  refine ⟨hlines, ?_⟩
  rw [runText_ofFilterSet _ _ _ hlines, houtcome]

end MailFilter.Sieve
