import MailFilter.Proofs.Acceptance
import MailFilter.Proofs.Splicing
import MailFilter.Proofs.Strings
import Mathlib.Data.List.Infix

/-!
# Scripts that were cut off

Reading the beginning of a text gives a beginning of its tokens, where the last word may be cut
short. This settles which beginnings of a combined script pass the check against its filter set.

The check counts the words `if` that start a command and does not ask for their blocks. A combined
script that was cut off before the closing brace of its last block still passes where the cut falls
between this word and the opening brace, outside strings and comments and with all brackets closed;
every other such beginning is refused.
-/
namespace MailFilter.Sieve

namespace Token

/-- The tokens are what is read when a text with the other tokens is cut off: some of the first
of them, and then perhaps the start of a word. The slash of a comment mark that was cut in two is
read as a word, or as a part of the word in front. -/
inductive Cut : List Token → List Token → Prop
  | nil {ts} : Cut [] ts
  | slash {ts} : Cut [word ['/']] ts
  | stub {v w ts} : v <+: w ++ ['/'] → Cut [word v] (word w :: ts)
  | cons {t us ts} : Cut us ts → Cut (t :: us) (t :: ts)

/-- A beginning of two texts together ends in the first or in the second. -/
theorem prefix_append_cases {p s t : Text} (h : p <+: s ++ t) :
    p <+: s ∨ ∃ q, p = s ++ q ∧ q <+: t := by
  obtain hp | ⟨q, rfl⟩ := List.prefix_or_prefix_of_prefix h (List.prefix_append s t)
  · exact .inl hp
  · exact .inr ⟨q, rfl, (List.prefix_append_right_inj s).1 h⟩

theorem isPrefix_dropWhile {p s : Text} (h : p <+: s) (f : Char → Bool) :
    p.dropWhile f <+: s.dropWhile f := by
  obtain ⟨t, rfl⟩ := h
  rw [List.dropWhile_append]
  split
  next hnil => rw [List.isEmpty_iff.1 hnil]; exact List.nil_prefix
  next => exact List.prefix_append _ t

/-- The rest of a word in a text that was cut off is the rest of the whole word, or all that is
left of the text. -/
theorem wordRest_of_isPrefix {p s : Text} (h : p <+: s) :
    ((wordRest p).1 = (wordRest s).1 ∧ (wordRest p).2 <+: (wordRest s).2) ∨
      (wordRest p = (p, []) ∧ p <+: (wordRest s).1 ++ ['/']) := by
  induction p generalizing s with
  | nil => exact .inr ⟨rfl, List.nil_prefix⟩
  | cons c p ih =>
    obtain ⟨t, rfl⟩ := h
    have hhead : p.head? = some '*' → (p ++ t).head? = some '*' := fun hp => by
      rw [List.head?_append, hp, Option.some_or]
    rw [List.cons_append, wordRest, wordRest]
    by_cases hcut : (endsWord c || (c == '/' && p.head? == some '*')) = true
    · have hstop : (endsWord c || (c == '/' && (p ++ t).head? == some '*')) = true := by
        simp only [Bool.or_eq_true, Bool.and_eq_true, beq_iff_eq] at hcut ⊢
        exact hcut.imp id (And.imp id hhead)
      rw [if_pos hcut, if_pos hstop]
      exact .inl ⟨rfl, List.prefix_append (c :: p) t⟩
    · rw [if_neg hcut]
      by_cases hstop : (endsWord c || (c == '/' && (p ++ t).head? == some '*')) = true
      · -- The mark of a comment was cut in two.
        rw [if_pos hstop]
        simp only [Bool.or_eq_true, Bool.and_eq_true, beq_iff_eq, not_or] at hcut hstop
        obtain ⟨rfl, hstar⟩ := hstop.resolve_left hcut.1
        have hp : p = [] := by
          by_contra hne
          rw [List.head?_append_of_ne_nil p hne] at hstar
          exact hcut.2 ⟨rfl, hstar⟩
        subst hp
        exact .inr ⟨rfl, List.prefix_refl ['/']⟩
      · rw [if_neg hstop]
        obtain ⟨hword, hrest⟩ | ⟨hword, hrest⟩ := ih (List.prefix_append p t)
        · exact .inl ⟨by rw [hword], hrest⟩
        · rw [hword]
          exact .inr ⟨rfl, List.cons_prefix_cons.2 ⟨rfl, hrest⟩⟩

theorem cut_of_scan_nil {ts us : List Token} (h : scan [] = .ok us) : Cut us ts := by
  rw [scan_nil] at h
  rw [← Except.ok.inj h]
  exact .nil

/-- Reading the beginning of a text gives what is left of its tokens. -/
theorem cut_of_scan {s p : Text} {ts us : List Token} (hs : scan s = .ok ts) (hp : p <+: s)
    (hus : scan p = .ok us) : Cut us ts := by
  fun_induction scan s generalizing p ts us with
  | case1 =>
    rw [List.prefix_nil.1 hp] at hus
    exact cut_of_scan_nil hus
  | case2 c s hc ih =>
    obtain rfl | ⟨q, rfl, hq⟩ := List.prefix_cons_iff.1 hp
    · exact cut_of_scan_nil hus
    · rw [scan_blank hc] at hus
      exact ih hs hq hus
  | case3 c s _ hc ih =>
    obtain rfl : c = '#' := by simpa using hc
    obtain rfl | ⟨q, rfl, hq⟩ := List.prefix_cons_iff.1 hp
    · exact cut_of_scan_nil hus
    · rw [scan_hash] at hus
      exact ih hs (isPrefix_dropWhile hq _) hus
  | case4 => cases hs
  | case5 c s _ _ hc r hr ih =>
    obtain ⟨rfl, hhead⟩ : c = '/' ∧ s.head? = some '*' := by simpa using hc
    obtain ⟨s, rfl⟩ := List.head?_eq_some_iff.1 hhead
    rw [List.drop_one, List.tail_cons] at hr
    obtain rfl | ⟨q, rfl, hq⟩ := List.prefix_cons_iff.1 hp
    · exact cut_of_scan_nil hus
    obtain rfl | ⟨q, rfl, t, rfl⟩ := List.prefix_cons_iff.1 hq
    · have hslash : scan ['/'] = .ok [word ['/']] := by decide +kernel
      rw [hslash] at hus
      rw [← Except.ok.inj hus]
      exact .slash
    · cases hafter : afterComment? q with
      | none =>
        rw [scan_open_comment hafter] at hus
        cases hus
      | some v =>
        rw [afterComment?_append_right hafter] at hr
        obtain rfl := Option.some.inj hr
        rw [scan_comment hafter] at hus
        exact ih hs (List.prefix_append v t) hus
  | case6 => cases hs
  | case7 c s _ _ _ hc x r hr ih =>
    obtain rfl : c = '"' := by simpa using hc
    obtain ⟨vs, hvs, rfl⟩ := map_eq_ok hs
    obtain rfl | ⟨q, rfl, t, rfl⟩ := List.prefix_cons_iff.1 hp
    · exact cut_of_scan_nil hus
    cases hbody : stringBody? q with
    | none =>
      rw [scan_open_string hbody] at hus
      cases hus
    | some v =>
      rw [stringBody?_append_right hbody] at hr
      obtain ⟨rfl, rfl⟩ := Prod.mk.inj (Option.some.inj hr)
      rw [scan_string hbody] at hus
      obtain ⟨ws, hws, rfl⟩ := map_eq_ok hus
      exact .cons (ih hvs (List.prefix_append _ t) hws)
  | case8 c s _ _ _ _ hc ih =>
    obtain ⟨vs, hvs, rfl⟩ := map_eq_ok hs
    obtain rfl | ⟨q, rfl, hq⟩ := List.prefix_cons_iff.1 hp
    · exact cut_of_scan_nil hus
    rw [scan_punctuation hc] at hus
    obtain ⟨ws, hws, rfl⟩ := map_eq_ok hus
    exact .cons (ih hvs hq hws)
  | case9 c s hblank hhash hcomment hquote hmark ih =>
    obtain ⟨vs, hvs, rfl⟩ := map_eq_ok hs
    obtain rfl | ⟨q, rfl, hq⟩ := List.prefix_cons_iff.1 hp
    · exact cut_of_scan_nil hus
    have hc : endsWord c = false := by
      simp only [Bool.not_eq_true] at hblank hhash hquote hmark
      simp [endsWord, hblank, hhash, hquote, hmark]
    have hslash : ¬(c = '/' ∧ q.head? = some '*') := by
      rintro ⟨rfl, hhead⟩
      obtain ⟨t, rfl⟩ := hq
      exact hcomment (by simp [List.head?_append, hhead])
    rw [scan_word hc hslash] at hus
    obtain ⟨ws, hws, rfl⟩ := map_eq_ok hus
    obtain ⟨hword, hrest⟩ | ⟨hword, hrest⟩ := wordRest_of_isPrefix hq
    · rw [hword]
      exact .cons (ih hvs hrest hws)
    · rw [hword] at hws ⊢
      rw [scan_nil] at hws
      rw [← Except.ok.inj hws]
      exact .stub (List.cons_prefix_cons.2 ⟨rfl, hrest⟩)

theorem Cut.punctuation_mem {us ts : List Token} (h : Cut us ts) {c : Char}
    (hc : punctuation c ∈ us) : punctuation c ∈ ts := by
  induction h with
  | nil => cases hc
  | slash => simp at hc
  | stub _ => simp at hc
  | cons _ ih =>
    obtain rfl | hc := List.mem_cons.1 hc
    · exact List.mem_cons_self
    · exact List.mem_cons_of_mem _ (ih hc)

/-- Cutting a script off does not start an `if` command where there was none. -/
theorem Cut.length_filter_isIf_le {us ts : List Token} (h : Cut us ts) {d : Int} {e : Bool}
    (hstarts : ∀ t ∈ commandStartsFrom d e ts, t ∈ [word "require".toList, word "if".toList]) :
    ((commandStartsFrom d e us).filter isIf).length ≤
      ((commandStartsFrom d e ts).filter isIf).length := by
  induction h generalizing d e with
  | nil => exact Nat.zero_le _
  | slash =>
    have hslash : (commandStartsFrom d e [word ['/']]).filter isIf = [] := by
      rw [commandStartsFrom_cons, commandStartsFrom, List.append_nil]
      split <;> decide
    rw [hslash]
    exact Nat.zero_le _
  | @stub v w ts hv =>
    rw [commandStartsFrom_cons] at hstarts
    rw [commandStartsFrom_cons, commandStartsFrom_cons, commandStartsFrom, List.append_nil,
      List.filter_append, List.length_append]
    split
    next hdue =>
      have hall : ∀ t ∈ [word "require".toList, word "if".toList], ∀ v ∈ (t.text ++ ['/']).inits,
          ([word v].filter isIf).length ≤ ([t].filter isIf).length := by decide +kernel
      have hstub := hall (word w) (hstarts (word w) (by simp [hdue])) v ((List.mem_inits v _).2 hv)
      omega
    next => exact Nat.zero_le _
  | @cons t us ts _ ih =>
    rw [commandStartsFrom_cons] at hstarts
    rw [commandStartsFrom_cons, commandStartsFrom_cons, List.filter_append, List.filter_append,
      List.length_append, List.length_append]
    have hrest := ih fun u hu => hstarts u (List.mem_append_right _ hu)
    omega

end Token

open Token

/-! The last block of a combined script. -/

theorem join_append_cons (c : Char) (ls : List Text) (m : Text) (ms : List Text) :
    Text.join [c] (ls ++ m :: ms) = ls.flatMap (· ++ [c]) ++ Text.join [c] (m :: ms) := by
  by_cases hne : ls = []
  · rw [hne]
    rfl
  · rw [Text.join_append hne (List.cons_ne_nil m ms), Text.join_append_separator hne]

/-- The text of a filter between the braces of its block. -/
def insideText (e : Entry) : Text := '\n' :: (insideLines e).flatMap (· ++ ['\n'])

theorem join_blockLines (e : Entry) :
    Text.join ['\n'] (blockLines e) =
      "if ".toList ++ (Condition.ofRules e.rules).text ++ " \x7b".toList ++ insideText e ++
        "\x7d".toList := by
  rw [blockLines_eq, Text.join_cons (by simp), join_append_cons, insideText]
  simp [Text.join]

theorem writes_insideText (e : Entry) : Writes (insideText e) (insideTokens e) :=
  (writes_blank (s := ['\n']) (by decide)).append (writesLines_insideLines e)

theorem writes_block (e : Entry) : Writes (Text.join ['\n'] (blockLines e)) (blockTokens e) := by
  have hclose : Writes "\x7d".toList [punctuation '\x7d'] := writes_punctuation (by decide)
  have hblock := ((writes_blockHead e).append (writes_insideText e)).append hclose
  rw [join_blockLines, blockTokens_eq]
  simpa only [List.append_assoc, List.cons_append, List.nil_append] using hblock

theorem writesLines_portion {e : Entry} (ht : Transparent e) :
    WritesLines (Script.ofEntry e).portion (activeTokens e) := by
  obtain ⟨hne, hportion⟩ := writes_portion ht
  have hline := hportion.append (writes_blank (s := ['\n']) (by decide))
  rwa [Text.join_append_separator hne, List.append_nil] at hline

theorem portion_ofEntry_active {e : Entry} (h : e.isActive = true) (ht : Transparent e) :
    (Script.ofEntry e).portion =
      ("# Filter: ".toList ++ commentText e.name) :: blockPieces e ++ [[]] := by
  obtain ⟨l, ms, hpieces, -⟩ := blockPieces_first e
  rw [Script.portion, body_ofEntry_active h ht, if_neg (by simp [hpieces])]
  rfl

/-- The block of an active filter stands in a combined script behind the declaration and the
blocks of the filters before it. -/
theorem exists_front (name : Text) {fs : FilterSet} {A B : List Entry} {e : Entry}
    (hfs : fs.entries = A ++ e :: B) (ht : ∀ d ∈ fs.entries, Transparent d)
    (he : e.isActive = true) :
    ∃ front back, (Script.ofFilterSet name fs).content =
        front ++ Text.join ['\n'] (blockLines e) ++ back ∧
      Writes front (requireTokens (declaredExtensions fs) ++ A.flatMap activeTokens) := by
  let heading := "# Filter: ".toList ++ commentText e.name
  let earlier := A.flatMap fun d => (Script.ofEntry d).portion
  let later := B.flatMap fun d => (Script.ofEntry d).portion
  have hlines : (fs.entries.map Script.ofEntry).flatMap Script.portion =
      (earlier ++ [heading]) ++ (blockPieces e ++ [] :: later) := by
    have hportion := portion_ofEntry_active he (ht e (by simp [hfs]))
    rw [hfs, List.flatMap_map, List.flatMap_append, List.flatMap_cons, hportion]
    simp [earlier, heading, later]
  have hjoin : Text.join ['\n'] ((earlier ++ [heading]) ++ (blockPieces e ++ [] :: later)) =
      (earlier ++ [heading]).flatMap (· ++ ['\n']) ++ (Text.join ['\n'] (blockLines e) ++
        ('\n' :: Text.join ['\n'] ([] :: later))) := by
    obtain ⟨l, ms, hpieces, -⟩ := blockPieces_first e
    have hne : blockPieces e ≠ [] := by simp [hpieces]
    rw [hpieces, List.cons_append, join_append_cons, ← List.cons_append, ← hpieces,
      Text.join_append hne (List.cons_ne_nil _ _), join_blockPieces]
    simp
  have hearlier : WritesLines earlier (A.flatMap activeTokens) :=
    writesLines_flatMap fun d hd => writesLines_portion (ht d (by simp [hfs, hd]))
  have hheading : WritesLines [heading] [] :=
    .cons (writesLine_remark rfl (by simp [heading])) writesLines_nil
  have hfront := (writes_header ((fs.entries.map Script.ofEntry).flatMap Script.required)).append
    (hearlier.append hheading)
  rw [List.append_nil] at hfront
  refine ⟨_, '\n' :: Text.join ['\n'] ([] :: later), ?_, hfront⟩
  rw [Script.ofFilterSet, Script.combine]
  dsimp only
  rw [hlines, hjoin]
  simp only [List.append_assoc]

/-! Cutting the last block off. -/

section

variable {names : List Text} {A : List Entry} {front : Text}

/-- A beginning of the text in front of the last block has too few `if` commands. -/
theorem countIfs_of_prefix_front
    (hfront : Writes front (requireTokens names ++ A.flatMap activeTokens)) {p : Text}
    (hp : p <+: front) {us : List Token} (hus : scan p = .ok us) :
    Token.countIfs us ≤ (A.filter (·.isActive)).length := by
  have hstarts : ∀ t ∈ commandStartsFrom 0 true (requireTokens names ++ A.flatMap activeTokens),
      t ∈ [word "require".toList, word "if".toList] := by
    intro t ht
    rw [← commandStarts, commandStarts_combined, List.mem_append] at ht
    obtain ht | ht := ht
    · split at ht
      · cases ht
      · rw [List.mem_singleton.1 ht]
        exact List.mem_cons_self
    · obtain ⟨e, -, rfl⟩ := List.mem_map.1 ht
      exact List.mem_cons_of_mem _ List.mem_cons_self
  rw [← countIfs_combined names A]
  exact (cut_of_scan hfront.scan_eq_ok hp hus).length_filter_isIf_le hstarts

/-- What is read of a text that was cut behind its front. -/
theorem scan_front_append (hfront : Writes front (requireTokens names ++ A.flatMap activeTokens))
    (q : Text) :
    scan (front ++ q) =
      (scan q).map ((combinedCommands names A).flatMap Command.tokens ++ ·) := by
  rw [(hfront q).scan_eq, flatMap_tokens_combinedCommands]

@[simp] theorem nested_commands_append {cs : List Command} {us : List Token} :
    Nested (cs.flatMap Command.tokens ++ us) ↔ Nested us := by
  rw [← nestingProblem?_eq_none_iff, (nested_flatMap cs).balanced, nestingProblem?_eq_none_iff]

end

/-- Behind the word `if` reading goes on as if it started there. -/
theorem scan_if_append {q s : Text} (hq : q <+: ' ' :: s) :
    scan ("if".toList ++ q) = (scan q).map (word "if".toList :: ·) := by
  obtain rfl | ⟨r, rfl, -⟩ := List.prefix_cons_iff.1 hq
  · rw [scan_nil]
    decide +kernel
  · have hif : Writes ("if".toList ++ [' ']) [word "if".toList] :=
      writes_keyword_space (by decide)
    have hscan := (hif r).scan_eq
    rw [List.append_assoc, List.singleton_append] at hscan
    rw [hscan, scan_blank (by decide)]
    rfl

/-- Where the condition of the last block was cut off, no command starts. -/
theorem notMem_commandMarks_of_cut {e : Entry} {us : List Token}
    (h : Cut us (Condition.ofRules e.rules).tokens) : ∀ t ∈ us, t ∉ commandMarks := by
  intro t ht hmark
  cases t with
  | punctuation c =>
    have hc := h.punctuation_mem ht
    exact notMem_commandMarks (within_conditionTokens _ _ hc) hmark
  | string b => simp [commandMarks] at hmark
  | word w => simp [commandMarks] at hmark

section

variable {fs : FilterSet} {names : List Text} {A B : List Entry} {e : Entry} {front : Text}

theorem length_filter_isActive (hfs : fs.entries = A ++ e :: B) (he : e.isActive = true)
    (hB : ∀ b ∈ B, b.isActive = false) :
    (fs.entries.filter (·.isActive)).length = (A.filter (·.isActive)).length + 1 := by
  have hnone : B.filter (·.isActive) = [] := by
    rw [List.filter_eq_nil_iff]
    intro b hb
    simp [hB b hb]
  rw [hfs, List.filter_append, List.filter_cons_of_pos he, hnone, List.length_append]
  rfl

/-- A script that was cut inside the condition of its last block is accepted where all brackets are
closed. -/
theorem verify_cut_condition (hfs : fs.entries = A ++ e :: B) (he : e.isActive = true)
    (hB : ∀ b ∈ B, b.isActive = false)
    (hfront : Writes front (requireTokens names ++ A.flatMap activeTokens)) (x : Text) {q : Text}
    (hq : q <+: ' ' :: ((Condition.ofRules e.rules).text ++ [' '])) {us : List Token}
    (hus : scan q = .ok us) :
    verify fs ⟨x, front ++ ("if".toList ++ q)⟩ = true ↔ Nested us := by
  have hscan : scan (front ++ ("if".toList ++ q)) =
      .ok ((combinedCommands names A).flatMap Command.tokens ++ word "if".toList :: us) := by
    rw [scan_front_append hfront, scan_if_append hq, hus]
    rfl
  have hcondition : scan (' ' :: ((Condition.ofRules e.rules).text ++ [' '])) =
      .ok (Condition.ofRules e.rules).tokens := by
    rw [scan_blank (by decide)]
    exact (Condition.writes_text _).scan_eq_ok
  have hunended := notMem_commandMarks_of_cut (cut_of_scan hcondition hq hus)
  have hif : commandStarts (word "if".toList :: us) = [word "if".toList] := by
    have hnone := commandStartsFrom_unended hunended []
    rw [List.append_nil] at hnone
    exact congrArg (word "if".toList :: ·) hnone
  have hstarts : commandStarts
      ((combinedCommands names A).flatMap Command.tokens ++ word "if".toList :: us) =
      commandStarts ((combinedCommands names (A ++ [e])).flatMap Command.tokens) := by
    rw [commandStarts_flatMap_append, hif, commandStarts_flatMap, combinedCommands_concat _ _ he,
      List.map_append]
    rfl
  have hcount : Token.countIfs
      ((combinedCommands names A).flatMap Command.tokens ++ word "if".toList :: us) =
      (fs.entries.filter (·.isActive)).length := by
    rw [Token.countIfs, hstarts, ← Token.countIfs, countIfs_flatMap,
      length_filter_isIf_combinedCommands, length_filter_isActive hfs he hB, List.filter_append,
      List.length_append, List.filter_cons_of_pos he]
    rfl
  have hlate : lateRequires (commandStarts
      ((combinedCommands names A).flatMap Command.tokens ++ word "if".toList :: us)) = [] := by
    rw [hstarts, commandStarts_flatMap, lateRequires_map_eq_nil_iff]
    exact requiresFirst_combinedCommands names (A ++ [e])
  have hnested : Nested ((combinedCommands names A).flatMap Command.tokens ++
      word "if".toList :: us) ↔ Nested us := by
    rw [nested_commands_append, ← nestingProblem?_eq_none_iff,
      nestingProblem?_plain (isPlain_word _), nestingProblem?_eq_none_iff]
  rw [verify_eq_true_iff]
  constructor
  · rintro ⟨ts, hts, h, -, -⟩
    rw [← Except.ok.inj (hscan.symm.trans hts)] at h
    exact hnested.1 h
  · intro h
    exact ⟨_, hscan, hnested.2 h, hlate, hcount⟩

theorem within_insideTokens (e : Entry) : ∀ t ∈ insideTokens e, Within [';'] t := by
  intro t ht
  obtain ht | ht := List.mem_append.1 ht
  · obtain ⟨a, -, ha⟩ := List.mem_flatMap.1 ht
    exact within_commandTokens a t ha
  · have hstop : ∀ t ∈ [word "stop".toList, punctuation ';'], Within [';'] t :=
      List.forall_mem_cons.2 ⟨(by decide : "stop".toList ≠ "require".toList),
        List.forall_mem_singleton.2 (List.mem_singleton.2 rfl)⟩
    exact hstop t ht

/-- A script that was cut behind the opening brace of its last block is not accepted. -/
theorem not_verify_cut_inside
    (hfront : Writes front (requireTokens names ++ A.flatMap activeTokens)) (x : Text) {r : Text}
    (hr : r <+: insideText e) :
    ¬verify fs ⟨x, front ++ ("if ".toList ++ (Condition.ofRules e.rules).text ++ " \x7b".toList ++
      r)⟩ = true := by
  rw [verify_eq_true_iff]
  rintro ⟨ts, hts, hnested, -, -⟩
  change scan (front ++ _) = _ at hts
  rw [scan_front_append hfront, (writes_blockHead e r).scan_eq] at hts
  obtain ⟨vs, hvs, rfl⟩ := map_eq_ok hts
  obtain ⟨us, hus, rfl⟩ := map_eq_ok hvs
  have hplain : ∀ t ∈ us, IsPlain t := by
    intro t ht
    cases t with
    | punctuation c =>
      have hc := (cut_of_scan (writes_insideText e).scan_eq_ok hr hus).punctuation_mem ht
      rw [List.mem_singleton.1 (within_insideTokens e _ hc)]
      exact isPlain_semicolon
    | string b => simp
    | word w => simp
  have hopen : nestingProblem? ['\x7b'] us = some (.unclosed '\x7b') := by
    have hbalanced := (nested_of_forall_isPlain hplain).balanced ['\x7b'] []
    rwa [List.append_nil] at hbalanced
  rw [nested_commands_append, ← nestingProblem?_eq_none_iff, List.append_assoc, List.cons_append,
    nestingProblem?_plain (isPlain_word _), balanced_conditionTokens, List.singleton_append,
    nestingProblem?_opener (by decide), hopen] at hnested
  cases hnested

/-- A script that was cut before the last word `if` is complete is not accepted. -/
theorem not_verify_cut_front (hfs : fs.entries = A ++ e :: B) (he : e.isActive = true)
    (hB : ∀ b ∈ B, b.isActive = false)
    (hfront : Writes front (requireTokens names ++ A.flatMap activeTokens)) (x : Text) {p : Text}
    (hp : p <+: front ∨ p = front ++ ['i']) : ¬verify fs ⟨x, p⟩ = true := by
  rw [verify_eq_true_iff, length_filter_isActive hfs he hB]
  rintro ⟨ts, hts, -, -, hcount⟩
  obtain hp | rfl := hp
  · have hle := countIfs_of_prefix_front hfront hp hts
    omega
  · have hword : scan ['i'] = .ok [word ['i']] := by decide +kernel
    have hstart : (commandStarts [word ['i']]).filter isIf = [] := by decide
    change scan (front ++ _) = _ at hts
    rw [scan_front_append hfront, hword] at hts
    have hle := length_filter_isIf_combinedCommands names A
    rw [← countIfs_flatMap, Token.countIfs, commandStarts_flatMap] at hle
    rw [← Except.ok.inj hts, Token.countIfs, commandStarts_flatMap_append, List.filter_append,
      hstart, List.append_nil] at hcount
    omega

/-- A beginning of a script ends before its last word `if` is complete, in the condition behind
this word, or behind the opening brace. -/
theorem prefix_block_cases {p condition inside : Text}
    (h : p <+: front ++ ("if".toList ++ (condition ++ '\x7b' :: inside))) :
    (p <+: front ∨ p = front ++ ['i']) ∨
      (∃ q, p = front ++ ("if".toList ++ q) ∧ q <+: condition) ∨
      ∃ r, p = front ++ ("if".toList ++ (condition ++ '\x7b' :: r)) ∧ r <+: inside := by
  obtain hp | ⟨p, rfl, hp⟩ := prefix_append_cases h
  · exact .inl (.inl hp)
  obtain hp | ⟨q, rfl, hq⟩ := prefix_append_cases hp
  · have hword : p ∈ "if".toList.inits := (List.mem_inits p _).2 hp
    have hinits : "if".toList.inits = [[], ['i'], "if".toList] := rfl
    simp only [hinits, List.mem_cons, List.not_mem_nil, or_false] at hword
    obtain rfl | rfl | rfl := hword
    · exact .inl (.inl (by rw [List.append_nil]))
    · exact .inl (.inr rfl)
    · exact .inr (.inl ⟨[], by rw [List.append_nil], List.nil_prefix⟩)
  obtain hq | ⟨r, rfl, hr⟩ := prefix_append_cases hq
  · exact .inr (.inl ⟨q, rfl, hq⟩)
  obtain rfl | ⟨s, rfl, hs⟩ := List.prefix_cons_iff.1 hr
  · exact .inr (.inl ⟨condition, by rw [List.append_nil], List.prefix_refl condition⟩)
  · exact .inr (.inr ⟨s, rfl, hs⟩)

/-- Which beginnings of a combined script are accepted that end before the closing brace of the
last block: those that end in its condition or right before the opening brace, behind the word
`if` and where all strings, comments and brackets are closed. -/
theorem verify_prefix_iff (hfs : fs.entries = A ++ e :: B) (he : e.isActive = true)
    (hB : ∀ b ∈ B, b.isActive = false)
    (hfront : Writes front (requireTokens names ++ A.flatMap activeTokens)) (x : Text) {p : Text}
    (hp : p <+: front ++ ("if ".toList ++ (Condition.ofRules e.rules).text ++ " \x7b".toList ++
      insideText e)) :
    verify fs ⟨x, p⟩ = true ↔ ∃ q us, p = front ++ ("if".toList ++ q) ∧
      q <+: ' ' :: ((Condition.ofRules e.rules).text ++ [' ']) ∧ scan q = .ok us ∧ Nested us := by
  have htext (r : Text) : "if ".toList ++ (Condition.ofRules e.rules).text ++ " \x7b".toList ++ r =
      "if".toList ++ (' ' :: ((Condition.ofRules e.rules).text ++ [' ']) ++ '\x7b' :: r) := by
    simp
  constructor
  · intro h
    rw [htext] at hp
    obtain hcut | ⟨q, rfl, hq⟩ | ⟨r, rfl, hr⟩ := prefix_block_cases hp
    · exact absurd h (not_verify_cut_front hfs he hB hfront x hcut)
    · obtain ⟨ts, hts, -⟩ := verify_eq_true_iff.1 h
      change scan (front ++ _) = _ at hts
      rw [scan_front_append hfront, scan_if_append hq] at hts
      obtain ⟨vs, hvs, -⟩ := map_eq_ok hts
      obtain ⟨us, hus, -⟩ := map_eq_ok hvs
      exact ⟨q, us, rfl, hq, hus, (verify_cut_condition hfs he hB hfront x hq hus).1 h⟩
    · rw [← htext] at h
      exact absurd h (not_verify_cut_inside hfront x hr)
  · rintro ⟨q, us, rfl, hq, hus, hnested⟩
    exact (verify_cut_condition hfs he hB hfront x hq hus).2 hnested

end

theorem exists_last_active {es : List Entry} (h : 0 < (es.filter (·.isActive)).length) :
    ∃ A e B, es = A ++ e :: B ∧ e.isActive = true ∧ ∀ b ∈ B, b.isActive = false := by
  induction es using List.reverseRecOn with
  | nil => cases h
  | append_singleton es e ih =>
    cases he : e.isActive with
    | true => exact ⟨es, e, [], rfl, he, by simp⟩
    | false =>
      rw [List.filter_append, List.filter_cons_of_neg (by simp [he]), List.filter_nil,
        List.append_nil] at h
      obtain ⟨A, d, B, rfl, hd, hB⟩ := ih h
      refine ⟨A, d, B ++ [e], by simp, hd, ?_⟩
      exact List.forall_mem_append.2 ⟨hB, List.forall_mem_singleton.2 he⟩

/-- What is left of a combined script behind its last block has no tokens. -/
theorem scan_behind_last {name : Text} {fs : FilterSet} {A B : List Entry} {e : Entry}
    {front back : Text} (hfs : fs.entries = A ++ e :: B) (ht : ∀ d ∈ fs.entries, Transparent d)
    (he : e.isActive = true) (hB : ∀ b ∈ B, b.isActive = false)
    (hcontent : (Script.ofFilterSet name fs).content =
      front ++ Text.join ['\n'] (blockLines e) ++ back)
    (hfront : Writes front (requireTokens (declaredExtensions fs) ++ A.flatMap activeTokens)) :
    scan back = .ok [] := by
  have hwhole := (writes_ofFilterSet name ht).scan_eq_ok
  have hrest : B.flatMap activeTokens = [] := by
    rw [List.flatMap_eq_nil_iff]
    exact fun b hb => activeTokens_of_inactive (hB b hb)
  rw [hcontent, ((hfront.append (writes_block e)) back).scan_eq, hfs, List.flatMap_append,
    List.flatMap_cons, hrest, activeTokens_of_active he] at hwhole
  obtain ⟨us, hus, heq⟩ := map_eq_ok hwhole
  have hnone : us = [] := by simpa using heq
  rw [hus, hnone]

/-- What the check of a script against its filter set means. A script that consists of complete
commands is accepted exactly when its `if` blocks are as many as the active filters and its
declarations come first. Combined scripts are of this kind. A beginning of one that ends before the
closing brace of the last block is accepted exactly when it ends between the last word `if` and the
opening brace, with all strings, comments and brackets closed. -/
theorem verify_complete_and_cut (fs : FilterSet) :
    (∀ (script : Script) (cs : List Command),
        scan script.content = .ok (cs.flatMap Command.tokens) →
        (verify fs script = true ↔
          (cs.filter (·.isIf)).length = (fs.entries.filter (·.isActive)).length ∧
            Command.RequiresFirst cs)) ∧
      ∀ name : Text, (∀ d ∈ fs.entries, SingleLine d) →
        (∃ cs : List Command,
          scan (Script.ofFilterSet name fs).content = .ok (cs.flatMap Command.tokens)) ∧
        (0 < (fs.entries.filter (·.isActive)).length →
          ∃ A e B front inside back, fs.entries = A ++ e :: B ∧ e.isActive = true ∧
            (∀ b ∈ B, b.isActive = false) ∧
            (Script.ofFilterSet name fs).content =
              front ++ ("if ".toList ++ (Condition.ofRules e.rules).text ++ " \x7b".toList ++
                inside) ++ "\x7d".toList ++ back ∧
            scan front = .ok (requireTokens (declaredExtensions fs) ++ A.flatMap activeTokens) ∧
            scan back = .ok [] ∧
            ∀ x p, p <+: front ++ ("if ".toList ++ (Condition.ofRules e.rules).text ++
                " \x7b".toList ++ inside) →
              (verify fs ⟨x, p⟩ = true ↔ ∃ q us, p = front ++ ("if".toList ++ q) ∧
                q <+: ' ' :: ((Condition.ofRules e.rules).text ++ [' ']) ∧ scan q = .ok us ∧
                Nested us)) := by
  refine ⟨fun script cs h => verify_commands h, fun name hlines => ⟨?_, fun hcount => ?_⟩⟩
  · have hscan := (writes_ofFilterSet name fun d hd => (hlines d hd).transparent).scan_eq_ok
    exact ⟨combinedCommands _ _, by rw [hscan, flatMap_tokens_combinedCommands]⟩
  · have ht : ∀ d ∈ fs.entries, Transparent d := fun d hd => (hlines d hd).transparent
    obtain ⟨A, e, B, hfs, he, hB⟩ := exists_last_active hcount
    obtain ⟨front, back, hcontent, hfront⟩ := exists_front name hfs ht he
    have hback := scan_behind_last hfs ht he hB hcontent hfront
    refine ⟨A, e, B, front, insideText e, back, hfs, he, hB, ?_, hfront.scan_eq_ok, hback, ?_⟩
    · rw [hcontent, join_blockLines]
      simp only [List.append_assoc]
    · exact fun x p hp => verify_prefix_iff hfs he hB hfront x hp

/-- One filter with a single rule. -/
def oneFilter : FilterSet :=
  { entries :=
      [{ name := "n".toList
         rules := [{ part := "from".toList, operator := "contains".toList, value := "x".toList }]
         actions := [.deliver "a".toList] }] }

/-- The combined script of the filter is accepted, and so is a proper beginning of it. -/
theorem verify_complete_and_cut_oneFilter :
    (∀ d ∈ oneFilter.entries, SingleLine d) ∧
      verify oneFilter (Script.ofFilterSet "m".toList oneFilter) = true ∧
      ∃ p, p <+: (Script.ofFilterSet "m".toList oneFilter).content ∧
        p ≠ (Script.ofFilterSet "m".toList oneFilter).content ∧
        verify oneFilter ⟨"m".toList, p⟩ = true := by
  obtain ⟨hcomplete, hcut⟩ := verify_complete_and_cut oneFilter
  have hlines : ∀ d ∈ oneFilter.entries, SingleLine d := by decide
  have hscan : scan (Script.ofFilterSet "m".toList oneFilter).content =
      .ok ((combinedCommands ["fileinto".toList] oneFilter.entries).flatMap Command.tokens) := by
    decide +kernel
  have haccepted := (hcomplete _ _ hscan).2
    ⟨length_filter_isIf_combinedCommands _ _, requiresFirst_combinedCommands _ _⟩
  obtain ⟨A, e, B, front, inside, back, -, -, -, hcontent, -, -, hbeginning⟩ :=
    (hcut "m".toList hlines).2 (by decide)
  refine ⟨hlines, haccepted, front ++ ("if".toList ++ []), ?_, ?_, ?_⟩
  · rw [hcontent]
    exact ⟨_, by simp only [List.append_assoc]; rfl⟩
  · rw [hcontent]
    intro heq
    have hlength := congrArg List.length heq
    simp at hlength
  · refine (hbeginning _ _ ?_).2 ⟨[], [], rfl, List.nil_prefix, scan_nil, .nil⟩
    exact (List.prefix_append_right_inj front).2 ⟨_, by simp only [List.append_assoc]; rfl⟩

/-- The combined script of the filter without what follows its condition. -/
def cutScript : Script :=
  ⟨"m".toList,
    "require [\"fileinto\"];\n\n# Filter: n\nif header :contains \"From\" \"x\"".toList⟩

/-- The script is accepted although its `if` has no block. -/
theorem verify_cutScript :
    cutScript.content <+: (Script.ofFilterSet "m".toList oneFilter).content ∧
      verify oneFilter cutScript = true ∧
      ∀ cs : List Command, scan cutScript.content ≠ .ok (cs.flatMap Command.tokens) := by
  refine ⟨by decide +kernel, by decide +kernel, fun cs h => ?_⟩
  have hlast : (scan cutScript.content).map List.getLast? = .ok (some (string "x".toList)) := by
    decide +kernel
  rw [h] at hlast
  by_cases hcs : cs = []
  · rw [hcs] at hlast
    cases hlast
  · obtain ⟨m, hm⟩ := exists_getLast?_flatMap hcs
    have hmark : some (punctuation m) = some (string "x".toList) :=
      hm.symm.trans (Except.ok.inj hlast)
    cases hmark

end MailFilter.Sieve
