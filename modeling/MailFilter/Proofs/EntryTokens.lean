import MailFilter.Proofs.Ordering
import MailFilter.Proofs.Reading
import MailFilter.Sieve.Script

/-!
# The tokens of one filter

The text of a filter enters its script as quoted strings, inside both kinds of comments and on
lines that are commented out. None of these ways lets it out again: whatever characters the parts,
operators, values, actions and destinations consist of, the scanner reads the script of a filter
as exactly the tokens that its condition and its actions call for, and a filter that is switched
off or has no rules as none at all.
-/
namespace MailFilter.Sieve

open Token

/-- Token lists with a comma between neighbours. -/
def commaSeparated (tss : List (List Token)) : List Token := [punctuation ','].intercalate tss

/-- The header names as a test names them: one string, or a bracketed list. -/
def Field.nameTokens (f : Field) : List Token :=
  match f.names with
  | [n] => [quoted n]
  | ns => punctuation '[' :: commaSeparated (ns.map fun n => [quoted n]) ++ [punctuation ']']

namespace Test

def plainTokens (f : Field) (c : Comparison) : List Token :=
  if f.isBody then [word "body".toList, word c.comparator.text, quoted c.pattern]
  else
    word (f.testName c.comparator) :: word c.comparator.text :: f.nameTokens ++ [quoted c.pattern]

/-- A comparison, inside `not ( )` when it is negated, or a constant. -/
def tokens : Test → List Token
  | compare f c =>
    if c.negated then
      word "not".toList :: punctuation '(' :: plainTokens f c ++ [punctuation ')']
    else plainTokens f c
  | placeholder o _ => [word o.constant]

end Test

/-- The test of the only rule, or all tests in parentheses behind their junction. -/
def Condition.tokens : Condition → List Token
  | never => [word "false".toList]
  | single t => t.tokens
  | joined j ts =>
    word j.text :: punctuation '(' :: commaSeparated (ts.map Test.tokens) ++ [punctuation ')']

/-- The command for an action; finishing and unknown actions need none. -/
def commandTokens (a : Action) : List Token :=
  match Verb.ofAction? a with
  | some .save => [word "fileinto".toList, quoted (mailboxOf (a.dest.getD [])), punctuation ';']
  | some .deliver => [word "fileinto".toList, quoted (a.dest.getD []), punctuation ';']
  | some .reject => [word "reject".toList, quoted (a.dest.getD []), punctuation ';']
  | _ => []

/-- The declaration of extensions, if there are any. -/
def requireTokens (names : List Text) : List Token :=
  if names.isEmpty then []
  else
    word "require".toList :: punctuation '[' ::
      commaSeparated (names.map fun n => [quoted n]) ++ [punctuation ']', punctuation ';']

/-- The block of a filter: its condition, its actions in order and the final stop. -/
def blockTokens (e : Entry) : List Token :=
  word "if".toList :: (Condition.ofRules e.rules).tokens ++ punctuation '\x7b' ::
    e.actions.flatMap commandTokens ++ [word "stop".toList, punctuation ';', punctuation '\x7d']

/-- An action or a test of the filter needs the extension. -/
def needsExtension (e : Entry) (name : Text) : Bool :=
  e.actions.any (fun a => (Verb.ofAction? a).bind (·.extension?) == some name) ||
    (name == "body".toList && (Condition.ofRules e.rules).usesBody)

/-- The extensions that scripts ever need, in ascending order. -/
def allExtensions : List Text := ["body".toList, "fileinto".toList, "reject".toList]

def neededExtensions (e : Entry) : List Text := allExtensions.filter (needsExtension e)

/-- The tokens of a filter: none unless it is switched on and has rules. -/
def entryTokens (e : Entry) : List Token :=
  if e.isActive then requireTokens (neededExtensions e) ++ blockTokens e else []

theorem writes_join {α : Type*} {f : α → Text} {g : α → List Token} {separator : Text}
    {us : List Token} {xs : List α} (hs : Writes separator us)
    (h : ∀ x ∈ xs, Writes (f x) (g x)) :
    Writes (Text.join separator (xs.map f)) (us.intercalate (xs.map g)) := by
  rw [Text.join_eq_intercalate]
  induction xs with
  | nil => exact writes_nil
  | cons x xs ih =>
    have hx : Writes (f x) (g x) := h x (by simp)
    cases xs with
    | nil => simpa using hx
    | cons y ys =>
      simp only [List.map_cons, List.intercalate_cons_cons]
      exact (hx.append hs).append (ih fun z hz => h z (by simp [hz]))

@[simp] theorem intercalate_nil_left (tss : List (List Token)) :
    ([] : List Token).intercalate tss = tss.flatten := by
  induction tss with
  | nil => rfl
  | cons ts tss ih =>
    cases tss with
    | nil => simp
    | cons us uss => rw [List.intercalate_cons_cons, ih, List.append_nil, ← List.flatten_cons]

theorem writes_comma_space : Writes ", ".toList [punctuation ','] :=
  (writes_punctuation (by decide)).append (writes_blank (by decide))

theorem writes_nameList (ns : List Text) :
    Writes ('[' :: Text.join ", ".toList (ns.map quote) ++ [']'])
      (punctuation '[' :: commaSeparated (ns.map fun n => [quoted n]) ++ [punctuation ']']) := by
  have hopen : Writes ['['] [punctuation '['] := writes_punctuation (by decide)
  have hclose : Writes [']'] [punctuation ']'] := writes_punctuation (by decide)
  have hnames := writes_join writes_comma_space fun n (_ : n ∈ ns) => writes_quote n
  exact (hopen.append hnames).append hclose

theorem writes_namesText (f : Field) : Writes f.namesText f.nameTokens := by
  unfold Field.namesText Field.nameTokens
  match f.names with
  | [] => exact writes_nameList []
  | [n] => exact writes_quote n
  | n :: m :: ns => exact writes_nameList (n :: m :: ns)

theorem isKeyword_comparator (c : Comparator) : IsKeyword c.text := by cases c <;> decide

theorem isKeyword_testName (f : Field) (c : Comparator) : IsKeyword (f.testName c) := by
  unfold Field.testName
  split <;> decide

theorem Test.writes_plainText (f : Field) (c : Comparison) :
    Writes (plainText f c) (plainTokens f c) := by
  have hcomparator := writes_keyword_space (isKeyword_comparator c.comparator)
  have hpattern := writes_quote c.pattern
  unfold plainText plainTokens
  split
  · have hbody : Writes "body ".toList [word "body".toList] :=
      writes_keyword_space (w := "body".toList) (by decide)
    simpa using (hbody.append hcomparator).append hpattern
  · have hname := writes_keyword_space (isKeyword_testName f c.comparator)
    have hnames := (writes_namesText f).append (writes_blank (s := [' ']) (by decide))
    simpa using ((hname.append hcomparator).append hnames).append hpattern

/-- What stands between the start of a comment and the description of a rule. -/
def Obstacle.lead (o : Obstacle) : Text := ' ' :: o.remark ++ ": ".toList

theorem Obstacle.lead_harmless (o : Obstacle) :
    '\n' ∉ o.lead ∧ Unclosing o.lead ∧ o.lead.getLast? ≠ some '*' := by
  unfold Unclosing
  cases o <;> decide

theorem Test.writes_placeholder (o : Obstacle) (r : Rule) :
    Writes (placeholder o r).text (placeholder o r).tokens := by
  obtain ⟨hline, hlead, hlast⟩ := o.lead_harmless
  have hconstant : Writes (o.constant ++ [' ']) [word o.constant] :=
    writes_keyword_space (by cases o <;> decide)
  have hcomment : Unclosing (o.lead ++ describe r ++ [' ']) :=
    (hlead.append (unclosing_commentText _) (.inl hlast)).append (List.isChain_singleton ' ')
      (.inr (by decide))
  have hfeed : '\n' ∉ o.lead ++ describe r ++ [' '] := by
    have hdescribe : '\n' ∉ describe r := newline_notMem_commentText _
    simp [hline, hdescribe]
  have htext : (placeholder o r).text =
      o.constant ++ [' '] ++ ("/*".toList ++ (o.lead ++ describe r ++ [' ']) ++ "*/".toList) := by
    simp [text, Obstacle.lead]
  rw [htext]
  exact hconstant.append (writes_comment hfeed hcomment)

/-- Whatever the rule it comes from, the text of a test is read as its tokens. -/
theorem Test.writes_text (t : Test) : Writes t.text t.tokens := by
  cases t with
  | compare f c =>
    have hplain := writes_plainText f c
    simp only [text, tokens]
    cases c.negated with
    | true =>
      have hnot : Writes "not (".toList [word "not".toList, punctuation '('] :=
        (writes_keyword_space (w := "not".toList) (by decide)).append
          (writes_punctuation (c := '(') (by decide))
      have hclose : Writes [')'] [punctuation ')'] := writes_punctuation (by decide)
      exact (hnot.append hplain).append hclose
    | false => exact hplain
  | placeholder o r => exact writes_placeholder o r

theorem Condition.writes_text (c : Condition) : Writes (c.text ++ [' ']) c.tokens := by
  have hspace : Writes [' '] [] := writes_blank (by decide)
  cases c with
  | never => exact writes_keyword_space (w := "false".toList) (by decide)
  | single t =>
    have htest := t.writes_text.append hspace
    rw [List.append_nil] at htest
    exact htest
  | joined j ts =>
    have hjunction : Writes (j.text ++ [' ']) [word j.text] :=
      writes_keyword_space (by cases j <;> decide)
    have hopen : Writes "(\n    ".toList [punctuation '('] :=
      (writes_punctuation (by decide)).append (writes_blank (by decide))
    have hcomma : Writes ",\n    ".toList [punctuation ','] :=
      (writes_punctuation (by decide)).append (writes_blank (by decide))
    have hclose : Writes "\n)".toList [punctuation ')'] :=
      (writes_blank (s := ['\n']) (by decide)).append (writes_punctuation (by decide))
    have htests : Writes (Text.join ",\n    ".toList (ts.map (·.text)))
        (commaSeparated (ts.map Test.tokens)) := writes_join hcomma fun t _ => t.writes_text
    simpa [text, tokens] using
      (((hjunction.append hopen).append htests).append hclose).append hspace

theorem writes_indent : Writes indent [] := writes_blank (by decide)

/-- A command with one quoted argument. -/
theorem writes_command {w : Text} (hw : IsKeyword w) (s : Text) :
    Writes (w ++ [' '] ++ quote s ++ [';']) [word w, quoted s, punctuation ';'] :=
  ((writes_keyword_space hw).append (writes_quote s)).append (writes_punctuation (by decide))

/-- The indented lines of an action are read as its command; what they say in comments is not. -/
theorem writesLines_commandLines (a : Action) :
    WritesLines ((commandLines a).map (indent ++ ·)) (commandTokens a) := by
  have hfileinto (s : Text) := writes_command (w := "fileinto".toList) (by decide) s
  have hreject (s : Text) := writes_command (w := "reject".toList) (by decide) s
  have hcomment (s : Text) : '\n' ∉ commentText s := newline_notMem_commentText s
  unfold commandLines commandTokens
  cases Verb.ofAction? a with
  | none =>
    have hline : WritesLine ("# unsupported action ".toList ++
        commentText (quote (a.verb.getD [])) ++ " dest=".toList ++
          commentText (quote (a.dest.getD []))) [] := writesLine_remark rfl (by simp [hcomment])
    exact .cons (writes_indent.append_line hline) writesLines_nil
  | some v =>
    cases v with
    | save =>
      have hpath :
          WritesLine ("# original path: ".toList ++ commentText (quote (a.dest.getD []))) [] :=
        writesLine_remark rfl (by simp [hcomment])
      exact .cons (writes_indent.append (hfileinto _)).line
        (.cons (writes_indent.append_line hpath) writesLines_nil)
    | deliver => exact .cons (writes_indent.append (hfileinto _)).line writesLines_nil
    | reject => exact .cons (writes_indent.append (hreject _)).line writesLines_nil
    | finish =>
      have hline : WritesLine "# finish: stop processing (handled by stop)".toList [] :=
        writesLine_remark rfl (by decide)
      exact .cons (writes_indent.append_line hline) writesLines_nil

/-- The lines of a filter below the declaration of its extensions. -/
def blockLines (e : Entry) : List Text :=
  ("if ".toList ++ (Condition.ofRules e.rules).text ++ " \x7b".toList) ::
    ((if e.actions.isEmpty then [indent ++ "# no actions defined in original filter".toList]
      else []) ++
    (e.actions.flatMap commandLines).map (indent ++ ·) ++ [indent ++ "stop;".toList, "\x7d".toList])

@[simp] theorem blockLines_ne_nil (e : Entry) : blockLines e ≠ [] := List.cons_ne_nil _ _

theorem entryLines_eq (e : Entry) :
    Script.entryLines e =
      (if (Script.entryExtensions e).isEmpty then []
        else [requireLine (Script.entryExtensions e), []]) ++ blockLines e := by
  simp only [Script.entryLines, blockLines, List.append_assoc, List.cons_append, List.nil_append]

/-- The lines of a filter between the braces of its block. -/
def insideLines (e : Entry) : List Text :=
  (if e.actions.isEmpty then [indent ++ "# no actions defined in original filter".toList]
    else []) ++
  (e.actions.flatMap commandLines).map (indent ++ ·) ++ [indent ++ "stop;".toList]

/-- The tokens of a filter between the braces of its block. -/
def insideTokens (e : Entry) : List Token :=
  e.actions.flatMap commandTokens ++ [word "stop".toList, punctuation ';']

theorem blockLines_eq (e : Entry) :
    blockLines e = ("if ".toList ++ (Condition.ofRules e.rules).text ++ " \x7b".toList) ::
      (insideLines e ++ ["\x7d".toList]) := by
  simp only [blockLines, insideLines, List.append_assoc, List.cons_append, List.nil_append]

theorem blockTokens_eq (e : Entry) :
    blockTokens e = word "if".toList :: (Condition.ofRules e.rules).tokens ++
      (punctuation '\x7b' :: insideTokens e ++ [punctuation '\x7d']) := by
  simp only [blockTokens, insideTokens, List.append_assoc, List.cons_append, List.nil_append]

theorem writesLines_insideLines (e : Entry) : WritesLines (insideLines e) (insideTokens e) := by
  have hremark : WritesLines
      (if e.actions.isEmpty then [indent ++ "# no actions defined in original filter".toList]
        else []) [] := by
    split
    · exact .cons (writes_indent.append_line (writesLine_remark rfl (by decide))) writesLines_nil
    · exact writesLines_nil
  have hactions : WritesLines ((e.actions.flatMap commandLines).map (indent ++ ·))
      (e.actions.flatMap commandTokens) := by
    rw [List.map_flatMap]
    exact writesLines_flatMap fun a _ => writesLines_commandLines a
  have hstop : Writes "stop;".toList [word "stop".toList, punctuation ';'] :=
    Writes.keyword (w := "stop".toList) (by decide) (by decide)
      (writes_punctuation (c := ';') (by decide))
  have hend : WritesLines [indent ++ "stop;".toList] [word "stop".toList, punctuation ';'] :=
    .cons (writes_indent.append hstop).line writesLines_nil
  exact (hremark.append hactions).append hend

/-- The first line of a block, up to its opening brace. -/
theorem writes_blockHead (e : Entry) :
    Writes ("if ".toList ++ (Condition.ofRules e.rules).text ++ " \x7b".toList)
      (word "if".toList :: (Condition.ofRules e.rules).tokens ++ [punctuation '\x7b']) := by
  have hkeyword : Writes "if ".toList [word "if".toList] :=
    writes_keyword_space (w := "if".toList) (by decide)
  have hbrace : Writes ['\x7b'] [punctuation '\x7b'] := writes_punctuation (by decide)
  have hspace : " \x7b".toList = [' '] ++ ['\x7b'] := rfl
  rw [hspace]
  simpa only [List.append_assoc, List.singleton_append] using
    (hkeyword.append (Condition.ofRules e.rules).writes_text).append hbrace

theorem writesLines_blockLines (e : Entry) : WritesLines (blockLines e) (blockTokens e) := by
  have hend : WritesLines ["\x7d".toList] [punctuation '\x7d'] :=
    .cons (writes_punctuation (c := '\x7d') (by decide)).line writesLines_nil
  have hblock := WritesLines.cons (writes_blockHead e).line
    ((writesLines_insideLines e).append hend)
  rw [blockLines_eq, blockTokens_eq]
  simpa only [List.append_assoc, List.cons_append, List.nil_append] using hblock

/-- A declaration line lists its names in ascending order. -/
theorem writes_requireLine {names : List Text} (h : names ≠ []) :
    Writes (requireLine names) (requireTokens (Text.sort names)) := by
  have hkeyword : Writes "require ".toList [word "require".toList] :=
    writes_keyword_space (w := "require".toList) (by decide)
  have hlist := writes_nameList (Text.sort names)
  have hend : Writes [';'] [punctuation ';'] := writes_punctuation (by decide)
  have htext : requireLine names =
      "require ".toList ++ ('[' :: Text.join ", ".toList ((Text.sort names).map quote) ++ [']']) ++
        [';'] := by
    unfold requireLine
    generalize Text.join ", ".toList ((Text.sort names).map quote) = inside
    simp
  have hne : (Text.sort names).isEmpty = false := by
    rw [List.isEmpty_eq_false_iff]
    intro hnil
    exact h (List.length_eq_zero_iff.1 (by simpa [Text.sort] using congrArg List.length hnil))
  rw [htext, requireTokens, hne]
  simpa using (hkeyword.append hlist).append hend

/-- The extensions of a filter are those that it needs, each once and in ascending order. -/
@[simp] theorem entryExtensions_eq (e : Entry) : Script.entryExtensions e = neededExtensions e := by
  have hsorted : (neededExtensions e).Pairwise (Text.le · ·) :=
    List.Pairwise.filter _ (by decide : allExtensions.Pairwise (Text.le · ·))
  have hnodup : (neededExtensions e).Nodup := (by decide : allExtensions.Nodup).filter _
  have hextension : ∀ v : Verb, ∀ x, v.extension? = some x → x ∈ allExtensions := by
    intro v x hx
    cases v <;> simp_all [Verb.extension?, allExtensions]
  have hactions : ∀ x, x ∈ extensionsOf e.actions ↔
      ∃ a ∈ e.actions, (Verb.ofAction? a).bind (·.extension?) = some x := by
    intro x
    simp [extensionsOf]
  have hneeded : ∀ x, x ∈ neededExtensions e ↔ x ∈ extensionsOf e.actions ∨
      (x = "body".toList ∧ (Condition.ofRules e.rules).usesBody = true) := by
    intro x
    simp only [neededExtensions, List.mem_filter, needsExtension, Bool.or_eq_true, hactions,
      List.any_eq_true, beq_iff_eq, Bool.and_eq_true, and_iff_right_iff_imp]
    rintro (⟨a, -, ha⟩ | ⟨rfl, -⟩)
    · obtain ⟨v, -, hv⟩ := Option.bind_eq_some_iff.1 ha
      exact hextension v x hv
    · decide
  unfold Script.entryExtensions
  cases hbody : (Condition.ofRules e.rules).usesBody with
  | true =>
    refine Text.sortedSet_eq hsorted hnodup fun x => ?_
    simp [hneeded, hbody, or_comm]
  | false =>
    refine Text.sortedSet_eq hsorted hnodup fun x => ?_
    simp [hneeded, hbody, extensionsOf]

/-- A filter that is switched on and has rules is read as its declaration and its block. -/
theorem writes_entryText {e : Entry} (h : e.rules ≠ []) :
    Writes (Script.entryText e) (requireTokens (neededExtensions e) ++ blockTokens e) := by
  have hlines : WritesLines (Script.entryLines e)
      (requireTokens (neededExtensions e) ++ blockTokens e) := by
    rw [entryLines_eq, entryExtensions_eq]
    refine WritesLines.append ?_ (writesLines_blockLines e)
    by_cases hnone : neededExtensions e = []
    · rw [hnone]
      exact writesLines_nil
    · have hsort : Text.sort (neededExtensions e) = neededExtensions e := by
        rw [← entryExtensions_eq]
        unfold Script.entryExtensions extensionsOf
        split <;> exact Text.sort_sortedSet _
      have hrequire := writes_requireLine hnone
      rw [hsort] at hrequire
      rw [if_neg (by simpa using hnone), ← List.append_nil (requireTokens _)]
      exact .cons hrequire.line (.cons writes_nil.line writesLines_nil)
  have hne : Script.entryLines e ≠ [] :=
    List.append_ne_nil_of_right_ne_nil _ (List.cons_ne_nil _ _)
  rw [Script.entryText, if_neg (by simpa using h), Text.join_append_separator hne]
  exact hlines

/-- A commented line keeps no token, whatever stood on it. -/
theorem writesLine_commentLine {l : Text} (h : '\n' ∉ l) : WritesLine (commentLine l) [] := by
  unfold commentLine
  split
  · exact writes_nil.line
  · exact writesLine_remark rfl (by simpa using h)

/-- Commenting a text out line by line leaves no tokens. -/
theorem writes_commentOut {s flag : Text} (hs : ∃ t, s = t ++ ['\n']) (hflag : '\n' ∉ flag) :
    Writes (commentOut s flag) [] := by
  obtain ⟨t, rfl⟩ := hs
  have hnote : WritesLine ("# NOTE: this filter was disabled in cPanel (enabled=".toList ++ flag ++
      [')']) [] := writesLine_remark rfl (by simp [hflag])
  have hlines : ∀ l ∈ (Text.splitOn '\n' t).map commentLine, WritesLine l [] := by
    intro l hl
    obtain ⟨m, hm, rfl⟩ := List.mem_map.1 hl
    have hfeed : '\n' ∉ m := fun h => by
      simpa using Text.not_of_mem_splitWhere hm '\n' h
    exact writesLine_commentLine hfeed
  have hsplit : Text.splitOn '\n' (t ++ ['\n']) = Text.splitOn '\n' t ++ [[]] :=
    Text.splitOn_append_cons '\n' t []
  have hlast : commentLine [] = [] := rfl
  rw [commentOut, hsplit, List.map_append, List.map_singleton, hlast, ← List.cons_append,
    Text.join_concat_nil]
  exact WritesLines.cons hnote (writesLines_of_forall hlines)

theorem entryText_ends (e : Entry) : ∃ t, Script.entryText e = t ++ ['\n'] := by
  unfold Script.entryText
  split
  · exact ⟨"# Filter has no rules; nothing to match.".toList, rfl⟩
  · exact ⟨_, rfl⟩

theorem writes_entryText_of_no_rules {e : Entry} (h : e.rules = []) :
    Writes (Script.entryText e) [] := by
  have hline : WritesLines ["# Filter has no rules; nothing to match.".toList] [] :=
    .cons (writesLine_remark rfl (by decide)) writesLines_nil
  simpa [Script.entryText, h, WritesLines] using hline

theorem writes_ofEntry (e : Entry) : Writes (Script.ofEntry e).content (entryTokens e) := by
  unfold Script.ofEntry entryTokens Entry.isActive
  cases e.enabled with
  | false => exact writes_commentOut (entryText_ends e) (by decide)
  | true =>
    by_cases hrules : e.rules = []
    · simpa [hrules] using writes_entryText_of_no_rules hrules
    · simpa [hrules] using writes_entryText hrules

/-- Whatever its strings contain, the script of a filter is read as exactly the tokens that the
filter calls for. -/
theorem scan_ofEntry (e : Entry) :
    Token.scan (Script.ofEntry e).content = .ok (entryTokens e) :=
  (writes_ofEntry e).scan_eq_ok

end MailFilter.Sieve
