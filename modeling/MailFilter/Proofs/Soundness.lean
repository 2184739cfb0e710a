import MailFilter.Proofs.Combination
import MailFilter.Sieve.Check

/-!
# Combined scripts pass their own check

The tokens of conditions, actions and declarations are balanced on their own, and at the top level
they start no command but the ones they stand for. A script that is read as one declaration and
the blocks of the active filters therefore has no problem and passes the check against its filter
set.
-/
namespace MailFilter.Sieve

open Token

/-- The brackets of the tokens match among themselves. -/
def Balanced (ts : List Token) : Prop :=
  ∀ stack r, nestingProblem? stack (ts ++ r) = nestingProblem? stack r

@[simp] theorem balanced_nil : Balanced [] := fun _ _ => rfl

theorem Balanced.append {ts us : List Token} (h : Balanced ts) (h' : Balanced us) :
    Balanced (ts ++ us) := by
  intro stack r
  rw [List.append_assoc, h, h']

@[simp] theorem balanced_string (b : Text) : Balanced [string b] := by
  intro stack r
  cases stack <;> rfl

@[simp] theorem balanced_quoted (s : Text) : Balanced [quoted s] := balanced_string _

@[simp] theorem balanced_word (w : Text) : Balanced [word w] := by
  intro stack r
  cases stack <;> rfl

@[simp] theorem nestingProblem?_opener {c : Char} (hc : isOpener c = true) (stack : List Char)
    (r : List Token) :
    nestingProblem? stack (punctuation c :: r) = nestingProblem? (c :: stack) r := by
  cases stack <;> rw [nestingProblem?, if_pos hc]

@[simp] theorem nestingProblem?_closer {c o : Char} (hc : isOpener c = false)
    (ho : openerOf? c = some o) (stack : List Char) (r : List Token) :
    nestingProblem? (o :: stack) (punctuation c :: r) = nestingProblem? stack r := by
  rw [nestingProblem?, if_neg (by simp [hc]), ho]
  simp

theorem balanced_separator {c : Char} (hc : isOpener c = false) (ho : openerOf? c = none) :
    Balanced [punctuation c] := by
  intro stack r
  cases stack <;> rw [List.singleton_append, nestingProblem?, if_neg (by simp [hc]), ho]

/-- A pair of brackets around balanced tokens. -/
theorem Balanced.brackets {ts : List Token} (h : Balanced ts) {o c : Char}
    (ho : isOpener o = true) (hc : isOpener c = false) (hoc : openerOf? c = some o) :
    Balanced (punctuation o :: ts ++ [punctuation c]) := by
  intro stack r
  rw [List.append_assoc, List.cons_append, nestingProblem?_opener ho, h, List.singleton_append,
    nestingProblem?_closer hc hoc]

theorem balanced_commaSeparated {tss : List (List Token)} (h : ∀ ts ∈ tss, Balanced ts) :
    Balanced (commaSeparated tss) := by
  unfold commaSeparated
  induction tss with
  | nil => exact balanced_nil
  | cons ts tss ih =>
    have hts := h ts (by simp)
    cases tss with
    | nil => simpa using hts
    | cons us uss =>
      rw [List.intercalate_cons_cons]
      exact (hts.append (balanced_separator (by decide) (by decide))).append
        (ih fun vs hvs => h vs (by simp [hvs]))

theorem balanced_flatMap {α : Type*} {f : α → List Token} {xs : List α}
    (h : ∀ x ∈ xs, Balanced (f x)) : Balanced (xs.flatMap f) := by
  induction xs with
  | nil => exact balanced_nil
  | cons x xs ih => exact (h x (by simp)).append (ih fun y hy => h y (by simp [hy]))

theorem balanced_nameList (ns : List Text) :
    Balanced (punctuation '[' :: commaSeparated (ns.map fun n => [quoted n]) ++
      [punctuation ']']) := by
  refine Balanced.brackets (balanced_commaSeparated ?_) (by decide) (by decide) (by decide)
  intro ts hts
  obtain ⟨n, -, rfl⟩ := List.mem_map.1 hts
  exact balanced_quoted n

theorem balanced_plainTokens (f : Field) (c : Comparison) :
    Balanced (Test.plainTokens f c) := by
  have hnames : Balanced f.nameTokens := by
    unfold Field.nameTokens
    split
    · exact balanced_quoted _
    · exact balanced_nameList _
  unfold Test.plainTokens
  split
  · exact ((balanced_word _).append (balanced_word _)).append (balanced_quoted _)
  · exact (((balanced_word _).append (balanced_word _)).append hnames).append (balanced_quoted _)

theorem balanced_testTokens (t : Test) : Balanced t.tokens := by
  cases t with
  | compare f c =>
    have hplain := balanced_plainTokens f c
    rw [Test.tokens]
    split
    · exact (balanced_word _).append
        (hplain.brackets (by decide) (by decide) (by decide : openerOf? ')' = some '('))
    · exact hplain
  | placeholder o r => exact balanced_word _

theorem balanced_conditionTokens (c : Condition) : Balanced c.tokens := by
  cases c with
  | never => exact balanced_word _
  | single t => exact balanced_testTokens t
  | joined j ts =>
    have htests : Balanced (commaSeparated (ts.map Test.tokens)) := by
      refine balanced_commaSeparated fun us hus => ?_
      obtain ⟨t, -, rfl⟩ := List.mem_map.1 hus
      exact balanced_testTokens t
    exact (balanced_word _).append
      (htests.brackets (by decide) (by decide) (by decide : openerOf? ')' = some '('))

theorem balanced_semicolon : Balanced [punctuation ';'] :=
  balanced_separator (by decide) (by decide)

theorem balanced_commandTokens (a : Action) : Balanced (commandTokens a) := by
  have hcommand (w s : Text) : Balanced [word w, quoted s, punctuation ';'] :=
    ((balanced_word w).append (balanced_quoted s)).append balanced_semicolon
  unfold commandTokens
  split
  · exact hcommand _ _
  · exact hcommand _ _
  · exact hcommand _ _
  · exact balanced_nil

theorem balanced_blockTokens (e : Entry) : Balanced (blockTokens e) := by
  have hactions : Balanced (e.actions.flatMap commandTokens) :=
    balanced_flatMap fun a _ => balanced_commandTokens a
  have hinside := hactions.append ((balanced_word "stop".toList).append balanced_semicolon)
  have hblock := hinside.brackets (o := '\x7b') (c := '\x7d') (by decide) (by decide) (by decide)
  have hhead := (balanced_word "if".toList).append
    (balanced_conditionTokens (Condition.ofRules e.rules))
  simpa only [blockTokens, List.append_assoc, List.cons_append, List.nil_append] using
    hhead.append hblock

theorem balanced_activeTokens (e : Entry) : Balanced (activeTokens e) := by
  unfold activeTokens
  split
  · exact balanced_blockTokens e
  · exact balanced_nil

theorem balanced_requireTokens (names : List Text) : Balanced (requireTokens names) := by
  unfold requireTokens
  split
  · exact balanced_nil
  · simpa only [List.append_assoc, List.cons_append, List.nil_append] using
      ((balanced_word "require".toList).append (balanced_nameList names)).append balanced_semicolon

/-! The commands at the top level. -/

@[simp] theorem commandStartsFrom_word (d : Int) (w : Text) (r : List Token) :
    commandStartsFrom d false (word w :: r) = commandStartsFrom d false r := by
  simp [commandStartsFrom]

/-- Tokens without braces start no command, unless a semicolon of the top level is among them. -/
theorem commandStartsFrom_within {marks : Text} {d : Int} {ts : List Token}
    (hopen : '\x7b' ∉ marks) (hclose : '\x7d' ∉ marks) (hend : ';' ∉ marks ∨ d ≠ 0)
    (h : ∀ t ∈ ts, Within marks t) (r : List Token) :
    commandStartsFrom d false (ts ++ r) = commandStartsFrom d false r := by
  induction ts with
  | nil => rfl
  | cons t ts ih =>
    have hrest := ih fun u hu => h u (by simp [hu])
    have ht := h t (by simp)
    rw [List.cons_append, ← hrest]
    cases t with
    | punctuation c =>
      have hc : c ∈ marks := ht
      have hbrace : c ≠ '\x7b' := fun heq => hopen (heq ▸ hc)
      have hbrace' : c ≠ '\x7d' := fun heq => hclose (heq ▸ hc)
      have hsemicolon : ¬(c = ';' ∧ d = 0) := fun heq =>
        hend.elim (fun hm => hm (heq.1 ▸ hc)) (fun hd => hd heq.2)
      simp [commandStartsFrom, hbrace, hbrace', hsemicolon]
    | string b => simp [commandStartsFrom]
    | word w => exact commandStartsFrom_word d w _

/-- The block of a filter is one command, whatever stands in it. -/
theorem commandStartsFrom_blockTokens (e : Entry) (r : List Token) :
    commandStartsFrom 0 true (blockTokens e ++ r) =
      word "if".toList :: commandStartsFrom 0 true r := by
  have hcondition := commandStartsFrom_within (d := 0) (by decide) (by decide)
    (.inl (by decide)) (within_conditionTokens (Condition.ofRules e.rules))
  have hactions : ∀ t ∈ e.actions.flatMap commandTokens, Within [';'] t := by
    intro t ht
    obtain ⟨a, -, ha⟩ := List.mem_flatMap.1 ht
    exact within_commandTokens a t ha
  have hinside := commandStartsFrom_within (d := 1) (by decide) (by decide)
    (.inr (by decide)) hactions
  have hstart (us : List Token) : commandStartsFrom 0 true (word "if".toList :: us) =
      word "if".toList :: commandStartsFrom 0 false us := rfl
  have hopen (us : List Token) : commandStartsFrom 0 false (punctuation '\x7b' :: us) =
      commandStartsFrom 1 false us := rfl
  have hend (us : List Token) :
      commandStartsFrom 1 false
          (word "stop".toList :: punctuation ';' :: punctuation '\x7d' :: us) =
        commandStartsFrom 0 true us := rfl
  simp only [blockTokens, List.append_assoc, List.cons_append, List.nil_append]
  rw [hstart, hcondition, hopen, hinside, hend]

theorem commandStartsFrom_requireTokens {names : List Text} (h : names ≠ []) (r : List Token) :
    commandStartsFrom 0 true (requireTokens names ++ r) =
      word "require".toList :: commandStartsFrom 0 true r := by
  have hlist := commandStartsFrom_within (d := 0) (by decide) (by decide) (.inl (by decide))
    (within_nameList names)
  have hstart (us : List Token) : commandStartsFrom 0 true (word "require".toList :: us) =
      word "require".toList :: commandStartsFrom 0 false us := rfl
  have hend (us : List Token) : commandStartsFrom 0 false (punctuation ';' :: us) =
      commandStartsFrom 0 true us := rfl
  rw [requireTokens_append h, hstart, hlist, hend]

/-- The tokens of a combined script start one declaration, if there are extensions, and one `if`
command for each active filter. -/
theorem commandStarts_combined (names : List Text) (es : List Entry) :
    commandStarts (requireTokens names ++ es.flatMap activeTokens) =
      (if names.isEmpty then [] else [word "require".toList]) ++
        (es.filter (·.isActive)).map fun _ => word "if".toList := by
  have hblocks : commandStartsFrom 0 true (es.flatMap activeTokens) =
      (es.filter (·.isActive)).map fun _ => word "if".toList := by
    induction es with
    | nil => rfl
    | cons e es ih =>
      rw [List.flatMap_cons]
      cases h : e.isActive with
      | true =>
        rw [activeTokens_of_active h, commandStartsFrom_blockTokens, ih,
          List.filter_cons_of_pos h, List.map_cons]
      | false =>
        rw [activeTokens_of_inactive h, List.nil_append, ih,
          List.filter_cons_of_neg (by simp [h])]
  rw [commandStarts]
  by_cases hnone : names = []
  · rw [hnone]
    exact hblocks
  · rw [commandStartsFrom_requireTokens hnone, hblocks, if_neg (by simpa using hnone)]
    rfl

theorem isRequire_require : isRequire (word "require".toList) = true := by decide

theorem isRequire_if : isRequire (word "if".toList) = false := by decide

theorem isIf_if : isIf (word "if".toList) = true := by decide

theorem isIf_require : isIf (word "require".toList) = false := by decide

/-- The tokens of a combined script have no problem. -/
@[simp] theorem problems_combined (names : List Text) (es : List Entry) :
    Token.problems (requireTokens names ++ es.flatMap activeTokens) = [] := by
  have hnesting : nestingProblem? [] (requireTokens names ++ es.flatMap activeTokens) = none := by
    have hall := (balanced_requireTokens names).append
      (balanced_flatMap fun e (_ : e ∈ es) => balanced_activeTokens e)
    simpa [nestingProblem?] using hall [] []
  have hifs : ((es.filter (·.isActive)).map fun _ => word "if".toList).filter isRequire = [] := by
    rw [List.filter_eq_nil_iff]
    intro t ht
    obtain ⟨e, -, rfl⟩ := List.mem_map.1 ht
    exact Bool.eq_false_iff.1 isRequire_if
  have hdrop (ts : List Token) :
      ((ts.dropWhile isRequire).filter isRequire).Sublist (ts.filter isRequire) :=
    (List.dropWhile_sublist _).filter _
  rw [Token.problems, hnesting, commandStarts_combined]
  simp only [lateRequires, List.map_eq_nil_iff]
  by_cases hnone : names.isEmpty = true
  · rw [if_pos hnone, List.nil_append]
    exact List.sublist_nil.1 (hifs ▸ hdrop _)
  · rw [if_neg hnone, List.singleton_append, List.dropWhile_cons_of_pos isRequire_require]
    exact List.sublist_nil.1 (hifs ▸ hdrop _)

@[simp] theorem countIfs_combined (names : List Text) (es : List Entry) :
    Token.countIfs (requireTokens names ++ es.flatMap activeTokens) =
      (es.filter (·.isActive)).length := by
  have hifs : ((es.filter (·.isActive)).map fun _ => word "if".toList).filter isIf =
      (es.filter (·.isActive)).map fun _ => word "if".toList := by
    rw [List.filter_eq_self]
    intro t ht
    obtain ⟨e, -, rfl⟩ := List.mem_map.1 ht
    exact isIf_if
  rw [Token.countIfs, commandStarts_combined, List.filter_append, hifs]
  split
  · simp
  · rw [List.filter_cons_of_neg (Bool.eq_false_iff.1 isIf_require)]
    simp

theorem problems_ofFilterSet (name : Text) {fs : FilterSet}
    (h : ∀ e ∈ fs.entries, Transparent e) :
    problems (Script.ofFilterSet name fs).content = [] := by
  rw [problems, (writes_ofFilterSet name h).scan_eq_ok]
  exact problems_combined _ _

theorem countIfs_ofFilterSet (name : Text) {fs : FilterSet}
    (h : ∀ e ∈ fs.entries, Transparent e) :
    countIfs (Script.ofFilterSet name fs).content =
      .ok (fs.entries.filter (·.isActive)).length := by
  simp [countIfs, (writes_ofFilterSet name h).scan_eq_ok, Except.map]

/-- When no string hides a declaring line, the combined script belongs to its filter set. -/
theorem verify_ofFilterSet (name : Text) {fs : FilterSet} (h : ∀ e ∈ fs.entries, Transparent e) :
    verify fs (Script.ofFilterSet name fs) = true := by
  have hscan := (writes_ofFilterSet name h).scan_eq_ok
  have hverdict : Verdict.of fs (Script.ofFilterSet name fs) =
      .sound (fs.entries.filter (·.isActive)).length := by
    simp [Verdict.of, hscan]
  rw [verify, hverdict]
  rfl

end MailFilter.Sieve
