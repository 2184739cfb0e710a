import MailFilter.Proofs.Splicing
import MailFilter.Proofs.Strings
import MailFilter.Proofs.Trimming

/-!
# Declared extensions

A script has to declare the extensions that its commands and tests belong to. Each filter writes
its declaration as a line, and combining reads the names back from that line and merges them, so
the declaration of a combined script comes from another source than the commands below it. The two
agree: a name is declared exactly when it is used.
-/
namespace MailFilter.Sieve

open Token

/-! Names on a declaring line. -/

/-- A name that a list can hold without escapes: it is not empty and none of its characters is
blank or has a meaning on a declaring line. -/
def IsListName (n : Text) : Prop :=
  n ≠ [] ∧ ∀ c ∈ n, Text.isBlank c = false ∧ c ∉ ",]\"\\".toList

instance (n : Text) : Decidable (IsListName n) := inferInstanceAs (Decidable (_ ∧ _))

theorem IsListName.notMem {n : Text} (h : IsListName n) {c : Char} (hc : c ∈ ",]\"\\".toList) :
    c ∉ n := fun hmem => (h.2 c hmem).2 hc

theorem IsListName.quote_eq {n : Text} (h : IsListName n) : quote n = '"' :: n ++ ['"'] := by
  have hplain : n.flatMap quoteChar = n.flatMap ([·]) := by
    refine List.flatMap_congr fun c hc => ?_
    have hslash : c ≠ '\\' := by
      rintro rfl
      exact h.notMem (by decide) hc
    have hmark : c ≠ '"' := by
      rintro rfl
      exact h.notMem (by decide) hc
    simp [quoteChar, hslash, hmark]
  rw [quote, hplain, List.flatMap_singleton']

theorem IsListName.trim_quote {n : Text} (h : IsListName n) : Text.trim (quote n) = quote n := by
  rw [h.quote_eq]
  exact Text.trim_cons_concat (by decide) (by decide) n

/-- Taking the quotes off gives the name. -/
theorem IsListName.trimChar_quote {n : Text} (h : IsListName n) :
    Text.trimChar '"' (quote n) = n := by
  have hdrop {s : Text} (hne : s ≠ []) (hs : '"' ∉ s) (t : Text) :
      ('"' :: (s ++ t)).dropWhile (· == '"') = s ++ t := by
    obtain ⟨c, s, rfl⟩ := List.exists_cons_of_ne_nil hne
    have hc : c ≠ '"' := by
      rintro rfl
      exact hs List.mem_cons_self
    simp [hc]
  have hmark := h.notMem (c := '"') (by decide)
  have hback := hdrop (s := n.reverse) (by simpa using h.1) (by simpa using hmark) []
  rw [h.quote_eq, Text.trimChar, List.cons_append, hdrop h.1 hmark, List.reverse_append,
    List.reverse_singleton, List.singleton_append]
  simpa using congrArg List.reverse hback

/-- Cutting at the commas gives the members of a list, up to blanks around them. -/
theorem map_trim_splitOn_join {ws : List Text} (hne : ws ≠ [])
    (hws : ∀ w ∈ ws, ',' ∉ w ∧ Text.trim w = w) :
    (Text.splitOn ',' (Text.join ", ".toList ws)).map Text.trim = ws := by
  induction ws with
  | nil => exact absurd rfl hne
  | cons w ws ih =>
    obtain ⟨hcomma, htrim⟩ := hws w (by simp)
    by_cases hnil : ws = []
    · subst hnil
      simp [Text.join, hcomma, htrim]
    · have hrest := ih hnil fun v hv => hws v (by simp [hv])
      obtain ⟨l, ls, hl, hspace⟩ := splitOn_append_of_notMem (c := ',') (s := [' ']) (by decide)
        (Text.join ", ".toList ws)
      have hblank : Text.trim ([' '] ++ l) = Text.trim l := Text.trim_blank_append (by decide) l
      have hjoin : Text.join ", ".toList (w :: ws) =
          w ++ ',' :: ([' '] ++ Text.join ", ".toList ws) := by
        rw [Text.join_cons hnil]
        simp
      rw [hl] at hrest
      rw [hjoin, Text.splitOn_append_cons, Text.splitOn_of_not_mem hcomma, hspace]
      rw [List.singleton_append, List.map_cons, List.map_cons, hblank, htrim, ← List.map_cons,
        hrest]

/-- A line with a list in its first brackets names the members of the list. -/
theorem requiredNames_brackets {front inside : Text} (hfront : '[' ∉ front ∧ ']' ∉ front)
    (hinside : ']' ∉ inside) (t : Text) :
    requiredNames (front ++ '[' :: (inside ++ ']' :: t)) =
      ((Text.splitOn ',' inside).map fun n => Text.trimChar '"' (Text.trim n)).filter
        (! ·.isEmpty) := by
  have hclosed : (front ++ '[' :: (inside ++ ']' :: t)).contains ']' = true := by simp
  have hbefore : (Text.before '[' (front ++ '[' :: (inside ++ ']' :: t))).contains ']' = false := by
    rw [Text.before_append hfront.1]
    simpa using hfront.2
  rw [requiredNames, Text.after?_append hfront.1]
  simp only [hclosed, hbefore, Text.before_append hinside, Bool.not_false, Bool.and_true, if_true]

/-- Combining reads the names of a declaring line back as they were written. -/
theorem requiredNames_requireLine {names : List Text} (hne : names ≠ [])
    (h : ∀ n ∈ names, IsListName n) :
    requiredNames (Text.trim (requireLine names)) = Text.sort names := by
  have hsorted : ∀ n ∈ Text.sort names, IsListName n := fun n hn =>
    h n (by simpa [Text.sort] using hn)
  have hsortedNe : Text.sort names ≠ [] := by
    intro hnil
    exact hne (List.length_eq_zero_iff.1 (by simpa [Text.sort] using congrArg List.length hnil))
  unfold requireLine
  generalize Text.sort names = sorted at hsorted hsortedNe ⊢
  have hwords : ∀ w ∈ sorted.map quote, ',' ∉ w ∧ Text.trim w = w := by
    intro w hw
    obtain ⟨n, hn, rfl⟩ := List.mem_map.1 hw
    have hcomma := (hsorted n hn).notMem (c := ',') (by decide)
    refine ⟨?_, (hsorted n hn).trim_quote⟩
    rw [(hsorted n hn).quote_eq]
    simp [hcomma]
  have hbracket : ']' ∉ Text.join ", ".toList (sorted.map quote) := by
    intro hmem
    rcases Text.mem_join hmem with hsep | ⟨w, hw, hc⟩
    · exact absurd hsep (by decide)
    · obtain ⟨n, hn, rfl⟩ := List.mem_map.1 hw
      have hclose := (hsorted n hn).notMem (c := ']') (by decide)
      rw [(hsorted n hn).quote_eq] at hc
      simp [hclose] at hc
  have hmembers := map_trim_splitOn_join (by simpa using hsortedNe) hwords
  generalize Text.join ", ".toList (sorted.map quote) = inside at hbracket hmembers ⊢
  have hline : "require [".toList ++ inside ++ "];".toList =
      "require ".toList ++ '[' :: (inside ++ ']' :: [';']) := by simp
  have htrim : Text.trim ("require [".toList ++ inside ++ "];".toList) =
      "require [".toList ++ inside ++ "];".toList := by
    simpa using Text.trim_cons_concat (c := 'r') (d := ';') (by decide) (by decide)
      ("equire [".toList ++ inside ++ [']'])
  have hnames : sorted.map (fun n => Text.trimChar '"' (quote n)) = sorted := by
    rw [List.map_congr_left fun n hn => (hsorted n hn).trimChar_quote, List.map_id']
  have hread : (Text.splitOn ',' inside).map (fun n => Text.trimChar '"' (Text.trim n)) =
      sorted := by
    rw [← hnames, ← Function.comp_def (Text.trimChar '"') quote, ← List.map_map, ← hmembers,
      List.map_map]
    rfl
  rw [htrim, hline, requiredNames_brackets (by decide) hbracket, hread, List.filter_eq_self]
  intro n hn
  simpa using (hsorted n hn).1

/-! The extensions that scripts declare. -/

@[simp] theorem sort_neededExtensions (e : Entry) :
    Text.sort (neededExtensions e) = neededExtensions e :=
  Text.sort_of_pairwise
    (List.Pairwise.filter _ (by decide : allExtensions.Pairwise (Text.le · ·)))

/-- The script of an active filter declares what the filter needs. -/
@[simp] theorem required_ofEntry_active {e : Entry} (h : e.isActive = true) (ht : Transparent e) :
    (Script.ofEntry e).required = neededExtensions e := by
  have hblock : (blockPieces e).filter isRequireLine = [] := by
    rw [List.filter_eq_nil_iff]
    intro l hl
    simp [undeclaring_blockPieces h ht l hl]
  have hlist : ∀ n ∈ neededExtensions e, IsListName n := by
    have hall : ∀ n ∈ allExtensions, IsListName n := by decide
    exact fun n hn => hall n (List.mem_filter.1 hn).1
  rw [Script.required, lines_ofEntry_active h, List.filter_append, List.filter_append, hblock]
  by_cases hnone : neededExtensions e = []
  · simp [hnone]
  · simp [hnone, requiredNames_requireLine hnone hlist]

/-- A combined script declares what its active filters need. -/
theorem mem_declaredExtensions {fs : FilterSet} (h : ∀ e ∈ fs.entries, Transparent e) (x : Text) :
    x ∈ declaredExtensions fs ↔
      x ∈ allExtensions ∧ ∃ e ∈ fs.entries, e.isActive = true ∧ needsExtension e x = true := by
  simp only [declaredExtensions, Text.mem_sortedSet, List.flatMap_map, List.mem_flatMap]
  constructor
  · rintro ⟨e, he, hx⟩
    cases hactive : e.isActive with
    | false => simp [hactive] at hx
    | true =>
      rw [required_ofEntry_active hactive (h e he), neededExtensions, List.mem_filter] at hx
      exact ⟨hx.1, e, he, hactive, hx.2⟩
  · rintro ⟨hx, e, he, hactive, hneeds⟩
    refine ⟨e, he, ?_⟩
    rw [required_ofEntry_active hactive (h e he)]
    exact List.mem_filter.2 ⟨hx, hneeds⟩

theorem ascending_declaredExtensions (fs : FilterSet) :
    (declaredExtensions fs).Pairwise fun a b => Text.le a b = true ∧ a ≠ b :=
  List.Pairwise.and (Text.pairwise_sort _) (Text.nodup_sortedSet _)

/-! The extensions that scripts use. -/

@[simp] theorem mem_commaSeparated {t : Token} (ht : t ≠ punctuation ',')
    (tss : List (List Token)) :
    t ∈ commaSeparated tss ↔ ∃ ts ∈ tss, t ∈ ts := by
  unfold commaSeparated
  induction tss with
  | nil => simp
  | cons ts tss ih =>
    cases tss with
    | nil => simp
    | cons us uss =>
      rw [List.intercalate_cons_cons, List.mem_append, List.mem_append, ih]
      simp [ht]

@[simp] theorem word_notMem_nameTokens (x : Text) (f : Field) : word x ∉ f.nameTokens := by
  unfold Field.nameTokens
  split
  · simp [quoted]
  · simp [quoted]

/-- Of the names of extensions, a test uses `body` if it reads the body, and no other. -/
theorem word_mem_testTokens {x : Text} (hx : x ∈ allExtensions) (t : Test) :
    word x ∈ t.tokens ↔ x = "body".toList ∧ t.usesBody = true := by
  cases t with
  | compare f c =>
    have hnot : x ≠ "not".toList := by
      rintro rfl
      exact absurd hx (by decide)
    have hcomparator : x ≠ c.comparator.text := by
      rintro rfl
      revert hx
      cases c.comparator <;> decide
    have hname : x ≠ f.testName c.comparator := by
      rintro rfl
      revert hx
      unfold Field.testName
      split <;> decide
    have hplain : word x ∈ Test.plainTokens f c ↔ x = "body".toList ∧ f.isBody = true := by
      unfold Test.plainTokens
      cases f.isBody with
      | true => simp [hcomparator, quoted]
      | false => simp [hcomparator, hname, quoted]
    rw [Test.tokens, Test.usesBody, ← hplain]
    split
    · simp only [List.mem_cons, List.mem_append, Token.word.injEq, hnot, reduceCtorEq,
        List.not_mem_nil, or_false, false_or]
    · exact Iff.rfl
  | placeholder o r =>
    have hconstant : x ≠ o.constant := by
      rintro rfl
      revert hx
      cases o <;> decide
    simp [Test.tokens, Test.usesBody, hconstant]

theorem word_mem_conditionTokens {x : Text} (hx : x ∈ allExtensions) (c : Condition) :
    word x ∈ c.tokens ↔ x = "body".toList ∧ c.usesBody = true := by
  cases c with
  | never =>
    have hfalse : x ≠ "false".toList := by
      rintro rfl
      exact absurd hx (by decide)
    simp only [Condition.tokens, Condition.usesBody, Condition.tests, List.mem_singleton,
      Token.word.injEq, hfalse, List.any_nil, Bool.false_eq_true, and_false]
  | single t => simp [Condition.tokens, Condition.usesBody, Condition.tests, word_mem_testTokens hx]
  | joined j ts =>
    have hjunction : x ≠ j.text := by
      rintro rfl
      revert hx
      cases j <;> decide
    simp [Condition.tokens, Condition.usesBody, Condition.tests, hjunction, word_mem_testTokens hx]
    tauto

/-- The command of an action is the extension that the action needs. -/
theorem word_mem_commandTokens (x : Text) (a : Action) :
    word x ∈ commandTokens a ↔ (Verb.ofAction? a).bind (·.extension?) = some x := by
  unfold commandTokens
  cases Verb.ofAction? a with
  | none => simp
  | some v => cases v <;> simp [Verb.extension?, quoted, eq_comm]

/-- The block of a filter uses what the filter needs. -/
theorem word_mem_blockTokens {x : Text} (hx : x ∈ allExtensions) (e : Entry) :
    word x ∈ blockTokens e ↔ needsExtension e x = true := by
  have hif : x ≠ "if".toList := by
    rintro rfl
    exact absurd hx (by decide)
  have hstop : x ≠ "stop".toList := by
    rintro rfl
    exact absurd hx (by decide)
  simp only [blockTokens, needsExtension, List.mem_append, List.mem_cons, List.mem_flatMap,
    word_mem_conditionTokens hx, word_mem_commandTokens, Bool.or_eq_true, Bool.and_eq_true,
    List.any_eq_true, beq_iff_eq, Token.word.injEq, reduceCtorEq, hif, hstop, List.not_mem_nil,
    or_false, false_or]
  exact or_comm

theorem word_mem_requireTokens {x : Text} {names : List Text} (h : word x ∈ requireTokens names) :
    x = "require".toList := by
  unfold requireTokens at h
  split at h
  · cases h
  · simpa [quoted] using h

theorem count_requireTokens (names : List Text) :
    (requireTokens names).count (word "require".toList) ≤ 1 := by
  have hlist : word "require".toList ∉ commaSeparated (names.map fun n => [quoted n]) := by
    simp [quoted]
  unfold requireTokens
  split
  · simp
  · rw [List.cons_append, List.count_cons_self, List.cons_append, List.count_cons_of_ne (by simp),
      List.count_append, List.count_eq_zero.2 hlist]
    simp

/-- A combined script of filters without line feeds has at most one declaration, at its start, and
lists in it, in ascending order, exactly the extensions that its commands and tests use; these are
the ones that its active filters need. -/
theorem scan_ofFilterSet_extensions (name : Text) (fs : FilterSet)
    (h : ∀ e ∈ fs.entries, SingleLine e) :
    ∃ names rest,
      scan (Script.ofFilterSet name fs).content = .ok (requireTokens names ++ rest) ∧
      (requireTokens names ++ rest).count (word "require".toList) ≤ 1 ∧
      word "require".toList ∉ rest ∧
      (names.Pairwise fun a b => Text.le a b = true ∧ a ≠ b) ∧
      (∀ x, x ∈ names ↔ x ∈ allExtensions ∧ word x ∈ requireTokens names ++ rest) ∧
      ∀ x, x ∈ names ↔
        x ∈ allExtensions ∧ ∃ e ∈ fs.entries, e.isActive = true ∧ needsExtension e x = true := by
  have htransparent : ∀ e ∈ fs.entries, Transparent e := fun e he => (h e he).transparent
  have hrest : word "require".toList ∉ fs.entries.flatMap activeTokens := by
    intro hmem
    obtain ⟨e, -, he⟩ := List.mem_flatMap.1 hmem
    exact require_notMem_activeTokens e he
  have hdeclared := mem_declaredExtensions htransparent
  have hused : ∀ x ∈ allExtensions,
      word x ∈ requireTokens (declaredExtensions fs) ++ fs.entries.flatMap activeTokens ↔
        ∃ e ∈ fs.entries, e.isActive = true ∧ needsExtension e x = true := by
    intro x hx
    have hheader : word x ∉ requireTokens (declaredExtensions fs) := by
      intro hmem
      rw [word_mem_requireTokens hmem] at hx
      exact absurd hx (by decide)
    have hactive (e : Entry) :
        word x ∈ activeTokens e ↔ e.isActive = true ∧ needsExtension e x = true := by
      unfold activeTokens
      split
      next ha => simp [ha, word_mem_blockTokens hx]
      next ha => simp [ha]
    simp [hheader, hactive]
  refine ⟨declaredExtensions fs, fs.entries.flatMap activeTokens,
    (writes_ofFilterSet name htransparent).scan_eq_ok, ?_, hrest,
    ascending_declaredExtensions fs, fun x => ?_, hdeclared⟩
  · rw [List.count_append, List.count_eq_zero.2 hrest]
    exact count_requireTokens _
  · rw [hdeclared]
    constructor
    · rintro ⟨hx, hneeds⟩
      exact ⟨hx, (hused x hx).2 hneeds⟩
    · rintro ⟨hx, hword⟩
      exact ⟨hx, (hused x hx).1 hword⟩

/-- A filter that is switched off and rejects, and one that looks at the body and delivers. -/
def halfDisabled : FilterSet :=
  { entries :=
      [{ name := "off".toList
         enabled := false
         rules := [{ part := "from".toList, operator := "is".toList, value := "x".toList }]
         actions := [⟨some "reject".toList, some "no".toList⟩] },
        { name := "on".toList
          rules := [{ part := "body".toList, operator := "contains".toList, value := "y".toList }]
          actions := [.deliver "reject".toList] }] }

/-- The first filter would need `reject`, and the second one names it only in a string. -/
theorem scan_halfDisabled_extensions :
    (∀ e ∈ halfDisabled.entries, SingleLine e) ∧
      ∃ names rest,
        scan (Script.ofFilterSet "m".toList halfDisabled).content =
            .ok (requireTokens names ++ rest) ∧
          "body".toList ∈ names ∧ "fileinto".toList ∈ names ∧ "reject".toList ∉ names := by
  have hlines : ∀ e ∈ halfDisabled.entries, SingleLine e := by decide
  obtain ⟨names, rest, hscan, -, -, -, -, hneeded⟩ :=
    scan_ofFilterSet_extensions "m".toList halfDisabled hlines
  refine ⟨hlines, names, rest, hscan, ?_, ?_, ?_⟩
  · rw [hneeded]
    decide +kernel
  · rw [hneeded]
    decide +kernel
  · rw [hneeded]
    decide +kernel

end MailFilter.Sieve
