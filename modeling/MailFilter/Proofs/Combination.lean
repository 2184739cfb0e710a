import MailFilter.Proofs.Declarations
import MailFilter.Proofs.EntryTokens

/-!
# The tokens of a combined script

Combining works line by line: it collects the declaring lines, cuts blank lines off the two ends
of every script and joins what is left. As long as no string of a filter hides a declaring line,
this keeps the block of every active filter as it is, so the combined script is read as one
declaration followed by the blocks in their order.
-/
namespace MailFilter.Sieve

open Token

/-- The tokens that a filter has in a combined script. -/
def activeTokens (e : Entry) : List Token := if e.isActive then blockTokens e else []

@[simp] theorem activeTokens_of_active {e : Entry} (h : e.isActive = true) :
    activeTokens e = blockTokens e := if_pos h

@[simp] theorem activeTokens_of_inactive {e : Entry} (h : e.isActive = false) :
    activeTokens e = [] :=
  if_neg (by simp [h])

/-- No string of the filter has a line below its first that declares extensions. -/
def Transparent (e : Entry) : Prop := ∀ b, string b ∈ activeTokens e → hidesDeclaration b = false

/-- The token is a string, a word other than `require` or one of the given marks. -/
def Within (marks : Text) : Token → Prop
  | punctuation c => c ∈ marks
  | string _ => True
  | word w => w ≠ "require".toList

theorem within_commaSeparated {marks : Text} {tss : List (List Token)} (hcomma : ',' ∈ marks)
    (h : ∀ ts ∈ tss, ∀ t ∈ ts, Within marks t) : ∀ t ∈ commaSeparated tss, Within marks t := by
  unfold commaSeparated
  induction tss with
  | nil => simp
  | cons ts tss ih =>
    have hts := h ts (by simp)
    cases tss with
    | nil => simpa using hts
    | cons us uss =>
      rw [List.intercalate_cons_cons]
      intro t ht
      simp only [List.mem_append, List.mem_singleton] at ht
      rcases ht with (ht | rfl) | ht
      · exact hts t ht
      · exact hcomma
      · exact ih (fun vs hvs => h vs (by simp [hvs])) t ht

/-- The marks of conditions. -/
def conditionMarks : Text := "(),[]".toList

theorem within_nameList (ns : List Text) :
    ∀ t ∈ punctuation '[' :: commaSeparated (ns.map fun n => [quoted n]) ++ [punctuation ']'],
      Within conditionMarks t := by
  have hopen : '[' ∈ conditionMarks := by decide
  have hclose : ']' ∈ conditionMarks := by decide
  have hnames : ∀ t ∈ commaSeparated (ns.map fun n => [quoted n]), Within conditionMarks t := by
    refine within_commaSeparated (by decide) ?_
    rintro ts hts t ht
    obtain ⟨n, -, rfl⟩ := List.mem_map.1 hts
    rw [List.mem_singleton.1 ht]
    trivial
  exact List.forall_mem_append.2
    ⟨List.forall_mem_cons.2 ⟨hopen, hnames⟩, List.forall_mem_singleton.2 hclose⟩

/-- A declaration is a word, a list of names and a semicolon. -/
theorem requireTokens_append {names : List Text} (h : names ≠ []) (ts : List Token) :
    requireTokens names ++ ts = word "require".toList ::
      (punctuation '[' :: commaSeparated (names.map fun n => [quoted n]) ++ [punctuation ']'] ++
        punctuation ';' :: ts) := by
  simp [requireTokens, h]

theorem within_nameTokens (f : Field) : ∀ t ∈ f.nameTokens, Within conditionMarks t := by
  unfold Field.nameTokens
  split
  · exact List.forall_mem_singleton.2 trivial
  · exact within_nameList _

theorem within_plainTokens (f : Field) (c : Comparison) :
    ∀ t ∈ Test.plainTokens f c, Within conditionMarks t := by
  have hcomparator : Within conditionMarks (word c.comparator.text) := by
    change c.comparator.text ≠ "require".toList
    cases c.comparator <;> decide
  have hname : Within conditionMarks (word (f.testName c.comparator)) := by
    change f.testName c.comparator ≠ "require".toList
    unfold Field.testName
    split <;> decide
  have hbody : Within conditionMarks (word "body".toList) :=
    (by decide : "body".toList ≠ "require".toList)
  have hpattern : ∀ t ∈ [quoted c.pattern], Within conditionMarks t :=
    List.forall_mem_singleton.2 trivial
  unfold Test.plainTokens
  split
  · exact List.forall_mem_cons.2 ⟨hbody, List.forall_mem_cons.2 ⟨hcomparator, hpattern⟩⟩
  · exact List.forall_mem_append.2 ⟨List.forall_mem_cons.2 ⟨hname,
      List.forall_mem_cons.2 ⟨hcomparator, within_nameTokens f⟩⟩, hpattern⟩

/-- Tokens between a word and its parentheses. -/
theorem within_parentheses {w : Text} {ts : List Token} (hw : w ≠ "require".toList)
    (hts : ∀ t ∈ ts, Within conditionMarks t) :
    ∀ t ∈ word w :: punctuation '(' :: ts ++ [punctuation ')'], Within conditionMarks t := by
  have hopen : '(' ∈ conditionMarks := by decide
  have hclose : ')' ∈ conditionMarks := by decide
  exact List.forall_mem_append.2 ⟨List.forall_mem_cons.2 ⟨hw, List.forall_mem_cons.2 ⟨hopen, hts⟩⟩,
    List.forall_mem_singleton.2 hclose⟩

theorem within_testTokens (t : Test) : ∀ u ∈ t.tokens, Within conditionMarks u := by
  cases t with
  | compare f c =>
    have hplain := within_plainTokens f c
    rw [Test.tokens]
    split
    · exact within_parentheses (by decide) hplain
    · exact hplain
  | placeholder o r =>
    have hconstant : o.constant ≠ "require".toList := by cases o <;> decide
    exact List.forall_mem_singleton.2 hconstant

theorem within_conditionTokens (c : Condition) : ∀ t ∈ c.tokens, Within conditionMarks t := by
  cases c with
  | never =>
    exact List.forall_mem_singleton.2 (by decide : "false".toList ≠ "require".toList)
  | single t => exact within_testTokens t
  | joined j ts =>
    have hjunction : j.text ≠ "require".toList := by cases j <;> decide
    refine within_parentheses hjunction (within_commaSeparated (by decide) ?_)
    rintro us hus
    obtain ⟨t, -, rfl⟩ := List.mem_map.1 hus
    exact within_testTokens t

theorem within_commandTokens (a : Action) : ∀ t ∈ commandTokens a, Within [';'] t := by
  have hcommand {w : Text} (hw : w ≠ "require".toList) (s : Text) :
      ∀ t ∈ [word w, quoted s, punctuation ';'], Within [';'] t :=
    List.forall_mem_cons.2 ⟨hw, List.forall_mem_cons.2 ⟨trivial,
      List.forall_mem_singleton.2 (List.mem_singleton.2 rfl)⟩⟩
  unfold commandTokens
  split
  · exact hcommand (by decide) _
  · exact hcommand (by decide) _
  · exact hcommand (by decide) _
  · simp

theorem require_notMem_activeTokens (e : Entry) : word "require".toList ∉ activeTokens e := by
  have hcondition : word "require".toList ∉ (Condition.ofRules e.rules).tokens := fun h =>
    within_conditionTokens _ _ h rfl
  have hactions : word "require".toList ∉ e.actions.flatMap commandTokens := by
    intro h
    obtain ⟨a, -, ha⟩ := List.mem_flatMap.1 h
    exact within_commandTokens a _ ha rfl
  have hif : word "require".toList ≠ word "if".toList := by decide
  unfold activeTokens
  split
  · simp only [blockTokens, List.mem_append, List.mem_cons, not_or]
    exact ⟨⟨⟨hif, hcondition⟩, by decide, hactions⟩, by simp⟩
  · exact List.not_mem_nil

/-! Cutting blank lines off the two ends. -/

theorem trimLines_eq {front back ls : List Text} (hfront : ∀ l ∈ front, Text.allBlank l = true)
    (hback : ∀ l ∈ back, Text.allBlank l = true)
    (hfirst : ∃ l ms, ls = l :: ms ∧ Text.allBlank l = false)
    (hlast : ∃ ms l, ls = ms ++ [l] ∧ Text.allBlank l = false) :
    Script.trimLines (front ++ ls ++ back) = ls := by
  have hstart : (front ++ ls ++ back).dropWhile Text.allBlank = ls ++ back := by
    obtain ⟨l, ms, rfl, hl⟩ := hfirst
    rw [List.append_assoc, List.dropWhile_append_of_pos hfront, List.cons_append,
      List.dropWhile_cons_of_neg (by simp [hl])]
  have hend : (ls ++ back).reverse.dropWhile Text.allBlank = ls.reverse := by
    obtain ⟨ms, l, rfl, hl⟩ := hlast
    rw [List.reverse_append, List.dropWhile_append_of_pos (by simpa using hback),
      List.reverse_concat, List.dropWhile_cons_of_neg (by simp [hl])]
  rw [Script.trimLines, hstart, hend, List.reverse_reverse]

theorem mem_of_mem_trimLines {ls : List Text} {l : Text} (h : l ∈ Script.trimLines ls) :
    l ∈ ls := by
  have hrest := List.mem_reverse.1 ((List.dropWhile_sublist _).subset (List.mem_reverse.1 h))
  exact (List.dropWhile_sublist _).subset hrest

theorem trimLines_ne_nil {ls : List Text} {l : Text} (hl : l ∈ ls) (hb : Text.allBlank l = false) :
    Script.trimLines ls ≠ [] := by
  intro hnil
  rw [Script.trimLines, List.reverse_eq_nil_iff, List.dropWhile_eq_nil_iff] at hnil
  have hdrop : ls.dropWhile Text.allBlank ≠ [] := by
    rw [Ne, List.dropWhile_eq_nil_iff]
    exact fun hall => by simp [hall l hl] at hb
  obtain ⟨m, ms, hm⟩ := List.exists_cons_of_ne_nil hdrop
  have hfirst := List.head_dropWhile_not Text.allBlank hdrop
  have hblank := hnil m (by simp [hm])
  simp [hm, hblank] at hfirst

/-! The lines of one script that combining keeps. -/

@[simp] theorem allBlank_cons {c : Char} (h : Text.isBlank c = false) (l : Text) :
    Text.allBlank (c :: l) = false := by simp [Text.allBlank, h]

theorem mem_quote {c : Char} {s : Text} (h : c ∈ quote s) : c ∈ s ∨ c = '"' ∨ c = '\\' := by
  rcases List.mem_append.1 h with h | h
  · rcases List.mem_cons.1 h with h | h
    · exact .inr (.inl h)
    · obtain ⟨d, hd, hc⟩ := List.mem_flatMap.1 h
      rcases quoteChar_cases d with hquote | ⟨hquote, -⟩
      · rw [hquote] at hc
        rcases List.mem_cons.1 hc with hc | hc
        · exact .inr (.inr hc)
        · exact .inl (List.mem_singleton.1 hc ▸ hd)
      · rw [hquote] at hc
        exact .inl (List.mem_singleton.1 hc ▸ hd)
  · exact .inr (.inl (List.mem_singleton.1 h))

/-- Names without line feeds are declared on one line. -/
theorem newline_notMem_requireLine {names : List Text} (h : ∀ n ∈ names, '\n' ∉ n) :
    '\n' ∉ requireLine names := by
  intro hfeed
  unfold requireLine at hfeed
  simp only [List.mem_append] at hfeed
  rcases hfeed with (hfeed | hfeed) | hfeed
  · exact absurd hfeed (by decide)
  · rcases Text.mem_join hfeed with hfeed | ⟨w, hw, hfeed⟩
    · exact absurd hfeed (by decide)
    · obtain ⟨n, hn, rfl⟩ := List.mem_map.1 hw
      have hname : n ∈ names := by simpa [Text.sort] using hn
      rcases mem_quote hfeed with hfeed | hfeed | hfeed
      · exact h n hname hfeed
      · exact absurd hfeed (by decide)
      · exact absurd hfeed (by decide)
  · exact absurd hfeed (by decide)

@[simp] theorem isRequireLine_requireLine (names : List Text) :
    isRequireLine (requireLine names) = true := by
  unfold requireLine
  rw [List.append_assoc]
  exact isRequireLine_append (by decide) _

/-- The lines of the block, where a string may span several of them. -/
def blockPieces (e : Entry) : List Text := (blockLines e).flatMap (Text.splitOn '\n')

@[simp] theorem join_blockPieces (e : Entry) :
    Text.join ['\n'] (blockPieces e) = Text.join ['\n'] (blockLines e) := by
  rw [blockPieces, ← Text.splitOn_join (blockLines_ne_nil e), Text.join_splitOn]

theorem blockPieces_first (e : Entry) :
    ∃ l ms, blockPieces e = l :: ms ∧ Text.allBlank l = false := by
  obtain ⟨l, ms, -, hl⟩ := splitOn_append_of_notMem (c := '\n') (s := "if ".toList) (by decide)
    ((Condition.ofRules e.rules).text ++ " \x7b".toList)
  have hblank : Text.allBlank ("if ".toList ++ l) = false := by
    have hif : "if ".toList = 'i' :: "f ".toList := rfl
    rw [hif, List.cons_append]
    simp [show Text.isBlank 'i' = false by decide]
  unfold blockPieces blockLines
  rw [List.flatMap_cons, List.append_assoc, hl, List.cons_append]
  exact ⟨_, _, rfl, hblank⟩

theorem blockPieces_last (e : Entry) :
    ∃ ms l, blockPieces e = ms ++ [l] ∧ Text.allBlank l = false := by
  have hlast : ∃ ms, blockLines e = ms ++ ["\x7d".toList] := by
    unfold blockLines
    rw [← List.singleton_append (l := ["\x7d".toList]), ← List.append_assoc, ← List.cons_append]
    exact ⟨_, rfl⟩
  obtain ⟨ms, hms⟩ := hlast
  refine ⟨ms.flatMap (Text.splitOn '\n'), "\x7d".toList, ?_, by decide⟩
  have hbrace : Text.splitOn '\n' "\x7d".toList = ["\x7d".toList] :=
    Text.splitOn_of_not_mem (by decide)
  rw [blockPieces, hms, List.flatMap_append, List.flatMap_singleton, hbrace]

theorem undeclaring_blockPieces {e : Entry} (h : e.isActive = true) (ht : Transparent e) :
    ∀ l ∈ blockPieces e, isRequireLine l = false := by
  have hactive := activeTokens_of_active h
  have hreads := writesLines_blockLines e []
  rw [List.append_nil, ← Text.join_append_separator (blockLines_ne_nil e)] at hreads
  have hlines := undeclaring_of_reads hreads (hactive ▸ require_notMem_activeTokens e)
    (hactive ▸ ht) undeclaring_nil
  have hblock := (undeclaring_append_newline.1 hlines).1
  rwa [Undeclaring, Text.splitOn_join (blockLines_ne_nil e)] at hblock

theorem lines_ofEntry_active {e : Entry} (h : e.isActive = true) :
    (Script.ofEntry e).lines =
      (if (neededExtensions e).isEmpty then [] else [requireLine (neededExtensions e), []]) ++
        blockPieces e ++ [[]] := by
  simp only [Entry.isActive, Bool.and_eq_true, Bool.not_eq_true'] at h
  have hcontent :
      (Script.ofEntry e).content = Text.join ['\n'] (Script.entryLines e) ++ ['\n'] := by
    unfold Script.ofEntry Script.entryText
    rw [h.1, h.2]
    rfl
  have hne : Script.entryLines e ≠ [] :=
    List.append_ne_nil_of_right_ne_nil _ (List.cons_ne_nil _ _)
  have hlines : (Script.ofEntry e).lines =
      (Script.entryLines e).flatMap (Text.splitOn '\n') ++ [[]] := by
    rw [Script.lines, hcontent, Text.splitOn_append_cons, Text.splitOn_join hne]
    rfl
  rw [hlines, entryLines_eq, entryExtensions_eq, List.flatMap_append, blockPieces]
  split
  · rfl
  · have hnames : ∀ n ∈ allExtensions, '\n' ∉ n := by decide
    have hline : '\n' ∉ requireLine (neededExtensions e) :=
      newline_notMem_requireLine fun n hn => hnames n (List.mem_filter.1 hn).1
    rw [List.flatMap_cons, Text.splitOn_of_not_mem hline]
    rfl

/-- Combining keeps the block of an active filter as it is. -/
theorem body_ofEntry_active {e : Entry} (h : e.isActive = true) (ht : Transparent e) :
    (Script.ofEntry e).body = blockPieces e := by
  have hblock : (blockPieces e).filter (! isRequireLine ·) = blockPieces e := by
    rw [List.filter_eq_self]
    intro l hl
    simp [undeclaring_blockPieces h ht l hl]
  have hempty : ([[]] : List Text).filter (! isRequireLine ·) = [[]] := by
    simp
  have hblank : ∀ l ∈ ([[]] : List Text), Text.allBlank l = true :=
    List.forall_mem_singleton.2 rfl
  rw [Script.body, lines_ofEntry_active h, List.filter_append, List.filter_append, hblock, hempty]
  split
  · exact trimLines_eq (by simp) hblank (blockPieces_first e) (blockPieces_last e)
  · rw [List.filter_cons_of_neg (by simp), hempty]
    exact trimLines_eq hblank hblank (blockPieces_first e) (blockPieces_last e)

/-- A line that holds at most a comment. -/
def IsRemark (l : Text) : Prop := (l = [] ∨ l.head? = some '#') ∧ '\n' ∉ l

theorem IsRemark.writesLine {l : Text} (h : IsRemark l) : WritesLine l [] := by
  rcases h.1 with rfl | hhash
  · exact writes_nil.line
  · exact writesLine_remark hhash h.2

theorem IsRemark.isRequireLine {l : Text} (h : IsRemark l) : isRequireLine l = false := by
  rcases h.1 with rfl | hhash
  · exact isRequireLine_nil
  · obtain ⟨m, rfl⟩ := List.head?_eq_some_iff.1 hhash
    exact isRequireLine_cons (by decide) (by decide) m

/-- A filter that is not active consists of remarks, the first of which is not blank. -/
theorem lines_ofEntry_inactive {e : Entry} (h : e.isActive = false) :
    ∃ l ms, (Script.ofEntry e).lines = l :: ms ∧ Text.allBlank l = false ∧
      ∀ k ∈ l :: ms, IsRemark k := by
  have hhash (l : Text) : Text.allBlank ('#' :: l) = false := allBlank_cons (by decide) l
  cases henabled : e.enabled with
  | true =>
    have hrules : e.rules.isEmpty = true := by simpa [Entry.isActive, henabled] using h
    have hcontent : (Script.ofEntry e).content =
        "# Filter has no rules; nothing to match.".toList ++ '\n' :: [] := by
      unfold Script.ofEntry Script.entryText
      rw [henabled, hrules]
      rfl
    have hlines : (Script.ofEntry e).lines =
        ["# Filter has no rules; nothing to match.".toList, []] := by
      rw [Script.lines, hcontent, Text.splitOn_append_cons, Text.splitOn_of_not_mem (by decide)]
      rfl
    refine ⟨_, _, hlines, by decide, ?_⟩
    exact List.forall_mem_cons.2 ⟨⟨.inr rfl, by decide⟩,
      List.forall_mem_singleton.2 ⟨.inl rfl, List.not_mem_nil⟩⟩
  | false =>
    let note := "# NOTE: this filter was disabled in cPanel (enabled=".toList ++ ['0'] ++ [')']
    let kept := (Text.splitOn '\n' (Script.entryText e)).map commentLine
    have hnote : IsRemark note := ⟨.inr rfl, by decide⟩
    have hkept : ∀ k ∈ kept, IsRemark k := by
      intro k hk
      obtain ⟨m, hm, rfl⟩ := List.mem_map.1 hk
      have hfeed := newline_notMem_of_mem_splitOn hm
      unfold commentLine
      split
      · exact ⟨.inl rfl, List.not_mem_nil⟩
      · exact ⟨.inr rfl, by simpa using hfeed⟩
    have hall : ∀ k ∈ note :: kept, IsRemark k := List.forall_mem_cons.2 ⟨hnote, hkept⟩
    have hcontent : (Script.ofEntry e).content = Text.join ['\n'] (note :: kept) := by
      unfold Script.ofEntry commentOut
      rw [henabled]
      rfl
    have hlines : (Script.ofEntry e).lines = note :: kept := by
      rw [Script.lines, hcontent]
      exact Text.splitOn_join_of_not_mem (List.cons_ne_nil _ _) fun k hk => (hall k hk).2
    exact ⟨note, kept, hlines, hhash _, hall⟩

theorem body_ofEntry_inactive {e : Entry} (h : e.isActive = false) :
    (Script.ofEntry e).body ≠ [] ∧ ∀ l ∈ (Script.ofEntry e).body, IsRemark l := by
  obtain ⟨l, ms, hlines, hl, hall⟩ := lines_ofEntry_inactive h
  have hfilter : (l :: ms).filter (! isRequireLine ·) = l :: ms := by
    rw [List.filter_eq_self]
    intro k hk
    simp [(hall k hk).isRequireLine]
  rw [Script.body, hlines, hfilter]
  exact ⟨trimLines_ne_nil List.mem_cons_self hl, fun k hk => hall k (mem_of_mem_trimLines hk)⟩

/-- What a filter leaves in a combined script is read as its block, or as nothing. -/
theorem writes_portion {e : Entry} (ht : Transparent e) :
    (Script.ofEntry e).portion ≠ [] ∧
      Writes (Text.join ['\n'] (Script.ofEntry e).portion) (activeTokens e) := by
  have hbody : (Script.ofEntry e).body ≠ [] ∧
      WritesLines (Script.ofEntry e).body (activeTokens e) := by
    cases hactive : e.isActive with
    | true =>
      obtain ⟨l, ms, hpieces, -⟩ := blockPieces_first e
      have hne : blockPieces e ≠ [] := by simp [hpieces]
      rw [body_ofEntry_active hactive ht, activeTokens_of_active hactive]
      refine ⟨hne, ?_⟩
      simpa [WritesLines, ← Text.join_append_separator hne,
        ← Text.join_append_separator (blockLines_ne_nil e)] using writesLines_blockLines e
    | false =>
      obtain ⟨hne, hremarks⟩ := body_ofEntry_inactive hactive
      rw [activeTokens_of_inactive hactive]
      exact ⟨hne, writesLines_of_forall fun l hl => (hremarks l hl).writesLine⟩
  have hname : WritesLine ("# Filter: ".toList ++ commentText (Script.ofEntry e).name) [] :=
    writesLine_remark rfl (by simp)
  have hportion : (Script.ofEntry e).portion =
      (("# Filter: ".toList ++ commentText (Script.ofEntry e).name) :: (Script.ofEntry e).body) ++
        [[]] := by
    rw [Script.portion, if_neg (by simpa using hbody.1)]
  rw [hportion, Text.join_concat_nil]
  exact ⟨List.cons_ne_nil _ _, WritesLines.cons hname hbody.2⟩

/-- The extensions that the scripts of a filter set declare. -/
def declaredExtensions (fs : FilterSet) : List Text :=
  Text.sortedSet ((fs.entries.map Script.ofEntry).flatMap Script.required)

/-- A combined script starts with the declaration of all extensions. -/
theorem writes_header (names : List Text) :
    Writes (if (Text.sortedSet names).isEmpty then []
        else requireLine (Text.sortedSet names) ++ "\n\n".toList)
      (requireTokens (Text.sortedSet names)) := by
  by_cases hnone : Text.sortedSet names = []
  · rw [hnone]
    exact writes_nil
  · have hrequire := writes_requireLine hnone
    rw [Text.sort_sortedSet] at hrequire
    rw [if_neg (by simpa using hnone), ← List.append_nil (requireTokens _)]
    exact hrequire.append (writes_blank (by decide))

/-- When no string hides a declaring line, the combined script is read as one declaration and the
blocks of the active filters in order. -/
theorem writes_ofFilterSet (name : Text) {fs : FilterSet}
    (h : ∀ e ∈ fs.entries, Transparent e) :
    Writes (Script.ofFilterSet name fs).content
      (requireTokens (declaredExtensions fs) ++ fs.entries.flatMap activeTokens) := by
  have hportions : Writes
      (Text.join ['\n'] ((fs.entries.map Script.ofEntry).flatMap Script.portion))
      (fs.entries.flatMap activeTokens) := by
    have hfeed : Writes ['\n'] [] := writes_blank (by decide)
    have hjoin := writes_join hfeed fun e he => (writes_portion (h e he)).2
    rw [List.flatMap_map, Text.join_flatMap fun e he => (writes_portion (h e he)).1]
    rwa [intercalate_nil_left, ← List.flatMap_def] at hjoin
  exact (writes_header _).append hportions

end MailFilter.Sieve
