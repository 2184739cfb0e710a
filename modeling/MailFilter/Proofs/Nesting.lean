import MailFilter.Proofs.Soundness

/-!
# Well nested tokens and complete commands

Brackets are well nested when they match in the usual grammar, and the check of brackets accepts
exactly the lists of tokens where they are. A complete command is a name with well nested
arguments that ends with a semicolon or with a block; an `if` command has a block.

A script that is a sequence of complete commands belongs to a filter set exactly when it has one
`if` block for each active filter and its declarations come first.
-/
namespace MailFilter.Sieve

open Token

/-- The brackets, each opening one with the one that closes it. -/
def brackets : List (Char × Char) := [('(', ')'), ('\x7b', '\x7d'), ('[', ']')]

/-- The token is not a bracket. -/
def IsPlain (t : Token) : Prop :=
  ∀ p ∈ brackets, t ≠ punctuation p.1 ∧ t ≠ punctuation p.2

/-- The brackets of the tokens match. -/
inductive Nested : List Token → Prop
  | nil : Nested []
  | plain {t ts} : IsPlain t → Nested ts → Nested (t :: ts)
  | pair {o c ts us} : (o, c) ∈ brackets → Nested ts → Nested us →
      Nested (punctuation o :: ts ++ punctuation c :: us)

theorem Nested.append {ts us : List Token} (h : Nested ts) (h' : Nested us) :
    Nested (ts ++ us) := by
  induction h with
  | nil => exact h'
  | plain ht _ ih => exact .plain ht ih
  | pair hpair hts _ _ ih =>
    rw [List.append_assoc, List.cons_append]
    exact .pair hpair hts ih

theorem nested_of_forall_isPlain {ts : List Token} (h : ∀ t ∈ ts, IsPlain t) : Nested ts := by
  induction ts with
  | nil => exact .nil
  | cons t ts ih =>
    exact .plain (h t List.mem_cons_self) (ih fun u hu => h u (List.mem_cons_of_mem t hu))

theorem isOpener_iff {c : Char} : isOpener c = true ↔ ∃ p ∈ brackets, p.1 = c := by
  constructor
  · intro h
    simp only [isOpener, Bool.or_eq_true, beq_iff_eq] at h
    obtain (rfl | rfl) | rfl := h
    · exact ⟨('(', ')'), by decide, rfl⟩
    · exact ⟨('\x7b', '\x7d'), by decide, rfl⟩
    · exact ⟨('[', ']'), by decide, rfl⟩
  · have hall : ∀ p ∈ brackets, isOpener p.1 = true := by decide
    rintro ⟨p, hp, rfl⟩
    exact hall p hp

@[simp] theorem openerOf?_eq_some_iff {o c : Char} : openerOf? c = some o ↔ (o, c) ∈ brackets := by
  constructor
  · intro h
    simp only [openerOf?, beq_iff_eq] at h
    split_ifs at h with hround hcurly hsquare
    · obtain rfl := Option.some.inj h
      simp [brackets, hround]
    · obtain rfl := Option.some.inj h
      simp [brackets, hcurly]
    · obtain rfl := Option.some.inj h
      simp [brackets, hsquare]
  · have hall : ∀ p ∈ brackets, openerOf? p.2 = some p.1 := by decide
    intro h
    exact hall (o, c) h

theorem isOpener_closer {o c : Char} (h : (o, c) ∈ brackets) : isOpener c = false := by
  have hall : ∀ p ∈ brackets, isOpener p.2 = false := by decide
  exact hall (o, c) h

@[simp] theorem nestingProblem?_plain {t : Token} (ht : IsPlain t) (stack : List Char)
    (r : List Token) : nestingProblem? stack (t :: r) = nestingProblem? stack r := by
  cases t with
  | punctuation c =>
    have hopener : isOpener c = false := by
      rw [Bool.eq_false_iff, Ne, isOpener_iff]
      rintro ⟨p, hp, rfl⟩
      exact (ht p hp).1 rfl
    have hcloser : openerOf? c = none := by
      rw [Option.eq_none_iff_forall_ne_some]
      intro o ho
      exact (ht (o, c) (openerOf?_eq_some_iff.1 ho)).2 rfl
    exact balanced_separator hopener hcloser stack r
  | string b => exact balanced_string b stack r
  | word w => exact balanced_word w stack r

theorem Nested.balanced {ts : List Token} (h : Nested ts) : Balanced ts := by
  induction h with
  | nil => exact balanced_nil
  | plain ht _ ih =>
    intro stack r
    rw [List.cons_append, nestingProblem?_plain ht, ih]
  | @pair o c ts us hpair _ _ ihts ihus =>
    have hgroup := (ihts.brackets (isOpener_iff.2 ⟨_, hpair, rfl⟩) (isOpener_closer hpair)
      (openerOf?_eq_some_iff.2 hpair)).append ihus
    rwa [List.append_assoc, List.singleton_append] at hgroup

/-- The tokens close the open brackets of the stack one after the other, with well nested tokens
in between. -/
def Closes : List Char → List Token → Prop
  | [], ts => Nested ts
  | o :: stack, ts => ∃ us c vs, ts = us ++ punctuation c :: vs ∧ (o, c) ∈ brackets ∧ Nested us ∧
      Closes stack vs

theorem Closes.append {ts us : List Token} (h : Nested ts) {stack : List Char}
    (h' : Closes stack us) : Closes stack (ts ++ us) := by
  cases stack with
  | nil => exact h.append h'
  | cons o stack =>
    obtain ⟨vs, c, ws, rfl, hpair, hvs, hws⟩ := h'
    exact ⟨ts ++ vs, c, ws, (List.append_assoc ..).symm, hpair, h.append hvs, hws⟩

theorem Closes.plain {t : Token} (ht : IsPlain t) {stack : List Char} {ts : List Token}
    (h : Closes stack ts) : Closes stack (t :: ts) :=
  Closes.append (.plain ht .nil) h

theorem exists_bracket_of_not_isPlain {t : Token} (h : ¬IsPlain t) :
    ∃ p ∈ brackets, t = punctuation p.1 ∨ t = punctuation p.2 := by
  simp only [IsPlain, not_forall] at h
  obtain ⟨p, hp, hbracket⟩ := h
  exact ⟨p, hp, by tauto⟩

/-- A closing bracket whose partner is not the innermost open bracket is a problem. -/
theorem nestingProblem?_mismatch {o c : Char} (hpair : (o, c) ∈ brackets) {stack : List Char}
    (hhead : stack.head? ≠ some o) (r : List Token) :
    nestingProblem? stack (punctuation c :: r) = some (.unbalanced c) := by
  have hopener : ¬isOpener c = true := Bool.eq_false_iff.1 (isOpener_closer hpair)
  have hcloser := openerOf?_eq_some_iff.2 hpair
  cases stack with
  | nil => rw [nestingProblem?, if_neg hopener, hcloser]
  | cons top below =>
    rw [nestingProblem?, if_neg hopener, hcloser]
    have htop : ¬(top == o) = true := by simpa using hhead
    exact if_neg htop

/-- A closing bracket is no problem only where its opening bracket is the innermost open one. -/
theorem stack_of_closer {o c : Char} (hpair : (o, c) ∈ brackets) {stack : List Char}
    {ts : List Token} (h : nestingProblem? stack (punctuation c :: ts) = none) :
    ∃ below, stack = o :: below ∧ nestingProblem? below ts = none := by
  by_cases hhead : stack.head? = some o
  · obtain ⟨below, rfl⟩ := List.head?_eq_some_iff.1 hhead
    rw [nestingProblem?_closer (isOpener_closer hpair) (openerOf?_eq_some_iff.2 hpair)] at h
    exact ⟨below, rfl, h⟩
  · rw [nestingProblem?_mismatch hpair hhead] at h
    cases h

/-- A list of tokens in which the check finds no problem closes the brackets that were open. -/
theorem closes_of_nestingProblem? {stack : List Char} {ts : List Token}
    (h : nestingProblem? stack ts = none) : Closes stack ts := by
  induction ts generalizing stack with
  | nil =>
    cases stack with
    | nil => exact .nil
    | cons c stack => cases h
  | cons t ts ih =>
    by_cases ht : IsPlain t
    · rw [nestingProblem?_plain ht] at h
      exact (ih h).plain ht
    · obtain ⟨⟨o, c⟩, hpair, rfl | rfl⟩ := exists_bracket_of_not_isPlain ht
      · rw [nestingProblem?_opener (isOpener_iff.2 ⟨_, hpair, rfl⟩)] at h
        obtain ⟨us, d, vs, rfl, hpair', hus, hvs⟩ := ih h
        have hgroup : Nested (punctuation o :: us ++ [punctuation d]) := .pair hpair' hus .nil
        simpa using Closes.append hgroup hvs
      · obtain ⟨below, rfl, hbelow⟩ := stack_of_closer hpair h
        exact ⟨[], c, ts, rfl, hpair, .nil, ih hbelow⟩

/-- The check of brackets accepts exactly the well nested tokens. -/
theorem nestingProblem?_eq_none_iff {ts : List Token} :
    nestingProblem? [] ts = none ↔ Nested ts := by
  constructor
  · exact closes_of_nestingProblem?
  · intro h
    have hbalanced := h.balanced [] []
    rwa [List.append_nil] at hbalanced

/-! Complete commands. -/

/-- Marks that end a command or stand around its block. -/
def commandMarks : List Token := [punctuation ';', punctuation '\x7b', punctuation '\x7d']

/-- A complete command of a script. It ends with its block or, without one, with a semicolon. -/
structure Command where
  name : Text
  arguments : List Token
  block : Option (List Token)
  nested_arguments : Nested arguments
  unended_arguments : ∀ t ∈ arguments, t ∉ commandMarks
  nested_block : ∀ b ∈ block, Nested b
  block_of_if : isIf (word name) = true → block.isSome = true

namespace Command

def ending (c : Command) : List Token :=
  match c.block with
  | none => [punctuation ';']
  | some b => punctuation '\x7b' :: b ++ [punctuation '\x7d']

def tokens (c : Command) : List Token := word c.name :: c.arguments ++ c.ending

def isIf (c : Command) : Bool := Token.isIf (word c.name)

def isRequire (c : Command) : Bool := Token.isRequire (word c.name)

/-- The declarations come before all other commands. -/
def RequiresFirst (cs : List Command) : Prop :=
  ∃ ds es, cs = ds ++ es ∧ (∀ c ∈ ds, c.isRequire = true) ∧ ∀ c ∈ es, c.isRequire = false

end Command

@[simp] theorem isPlain_word (w : Text) : IsPlain (word w) := by
  intro p _
  exact ⟨Token.noConfusion, Token.noConfusion⟩

@[simp] theorem isPlain_string (b : Text) : IsPlain (string b) := by
  intro p _
  exact ⟨Token.noConfusion, Token.noConfusion⟩

@[simp] theorem isPlain_semicolon : IsPlain (punctuation ';') := by
  unfold IsPlain
  decide

theorem Command.nested_tokens (c : Command) : Nested c.tokens := by
  have hending : Nested c.ending := by
    unfold ending
    cases hblock : c.block with
    | none => exact .plain isPlain_semicolon .nil
    | some b => exact .pair (by decide) (c.nested_block b hblock) .nil
  exact .plain (isPlain_word c.name) (c.nested_arguments.append hending)

/-- A sequence of complete commands ends with a mark. -/
theorem exists_getLast?_flatMap {cs : List Command} (h : cs ≠ []) :
    ∃ m, (cs.flatMap Command.tokens).getLast? = some (punctuation m) := by
  have hlast (c : Command) : ∃ m, c.ending.getLast? = some (punctuation m) := by
    unfold Command.ending
    cases c.block with
    | none => exact ⟨';', rfl⟩
    | some b => exact ⟨'\x7d', List.getLast?_concat⟩
  induction cs using List.reverseRecOn with
  | nil => exact absurd rfl h
  | append_singleton cs c _ =>
    obtain ⟨m, hm⟩ := hlast c
    refine ⟨m, ?_⟩
    rw [List.flatMap_append, List.flatMap_singleton, Command.tokens, List.getLast?_append,
      List.getLast?_append, hm]
    rfl

/-! The commands at the top level. -/

/-- A token that neither ends a command nor belongs to a block says nothing of commands. -/
@[simp] theorem commandStartsFrom_skip {d : Int} {t : Token} (hopen : t ≠ punctuation '\x7b')
    (hclose : t ≠ punctuation '\x7d') (hend : t ≠ punctuation ';' ∨ d ≠ 0) (r : List Token) :
    commandStartsFrom d false (t :: r) = commandStartsFrom d false r := by
  cases t with
  | punctuation c =>
    rw [Ne, punctuation.injEq] at hopen hclose hend
    have hsemicolon : ¬(c = ';' ∧ d = 0) := by tauto
    simp [commandStartsFrom, hopen, hclose, hsemicolon]
  | string b => simp [commandStartsFrom]
  | word w => exact commandStartsFrom_word d w r

@[simp] theorem commandStartsFrom_open (d : Int) (r : List Token) :
    commandStartsFrom d false (punctuation '\x7b' :: r) = commandStartsFrom (d + 1) false r := rfl

@[simp] theorem commandStartsFrom_close (d : Int) (r : List Token) :
    commandStartsFrom (d + 1) false (punctuation '\x7d' :: r) = commandStartsFrom d (d == 0) r := by
  have hstep : commandStartsFrom (d + 1) false (punctuation '\x7d' :: r) =
      commandStartsFrom (d + 1 - 1) (d + 1 - 1 == 0) r := rfl
  rw [hstep, Int.add_sub_cancel]

/-- Tokens without the marks of commands start none. -/
theorem commandStartsFrom_unended {ts : List Token} (h : ∀ t ∈ ts, t ∉ commandMarks)
    (r : List Token) : commandStartsFrom 0 false (ts ++ r) = commandStartsFrom 0 false r := by
  induction ts with
  | nil => rfl
  | cons t ts ih =>
    have ht := h t List.mem_cons_self
    simp only [commandMarks, List.mem_cons, not_or] at ht
    rw [List.cons_append, commandStartsFrom_skip ht.2.1 ht.2.2.1 (.inl ht.1)]
    exact ih fun u hu => h u (List.mem_cons_of_mem t hu)

/-- Inside a block no command of the top level starts. -/
theorem commandStartsFrom_nested {ts : List Token} (h : Nested ts) {d : Int} (hd : 0 < d)
    (r : List Token) : commandStartsFrom d false (ts ++ r) = commandStartsFrom d false r := by
  induction h generalizing d r with
  | nil => rfl
  | @plain t ts ht _ ih =>
    have hcurly := ht ('\x7b', '\x7d') (by decide)
    rw [List.cons_append, commandStartsFrom_skip hcurly.1 hcurly.2 (.inr (by omega)), ih hd]
  | @pair o c ts us hpair _ _ ihts ihus =>
    rw [List.append_assoc, List.cons_append, List.cons_append]
    by_cases hcurly : o = '\x7b'
    · subst hcurly
      obtain rfl : c = '\x7d' := by simpa [brackets] using hpair
      have hinside : (d == 0) = false := by
        rw [beq_eq_false_iff_ne]
        omega
      rw [commandStartsFrom_open, ihts (by omega), commandStartsFrom_close, hinside, ihus hd]
    · have hall : ∀ p ∈ brackets, p.1 ≠ '\x7b' →
          p.1 ≠ '\x7d' ∧ p.2 ≠ '\x7b' ∧ p.2 ≠ '\x7d' := by decide
      obtain ⟨ho, hopen, hclose⟩ := hall (o, c) hpair hcurly
      have hdepth : d ≠ 0 := by omega
      rw [commandStartsFrom_skip (by simpa using hcurly) (by simpa using ho) (.inr hdepth),
        ihts hd, commandStartsFrom_skip (by simpa using hopen) (by simpa using hclose)
        (.inr hdepth), ihus hd]

/-- A complete command starts where it should and leaves the next one to start behind it. -/
@[simp] theorem Command.commandStartsFrom_tokens (c : Command) (r : List Token) :
    commandStartsFrom 0 true (c.tokens ++ r) = word c.name :: commandStartsFrom 0 true r := by
  have hstart (us : List Token) : commandStartsFrom 0 true (word c.name :: us) =
      word c.name :: commandStartsFrom 0 false us := rfl
  have hending : commandStartsFrom 0 false (c.ending ++ r) = commandStartsFrom 0 true r := by
    unfold ending
    cases hblock : c.block with
    | none => rfl
    | some b =>
      have hinside := commandStartsFrom_nested (c.nested_block b hblock) (d := 1) (by decide)
      rw [List.append_assoc, List.cons_append, commandStartsFrom_open, Int.zero_add, hinside]
      rfl
  rw [tokens, List.append_assoc, List.cons_append, hstart,
    commandStartsFrom_unended c.unended_arguments, hending]

/-- Complete commands start one after the other, and what follows them starts afresh. -/
@[simp] theorem commandStarts_flatMap_append (cs : List Command) (r : List Token) :
    commandStarts (cs.flatMap Command.tokens ++ r) =
      (cs.map fun c => word c.name) ++ commandStarts r := by
  unfold commandStarts
  induction cs with
  | nil => rfl
  | cons c cs ih =>
    simp [ih]

@[simp] theorem commandStarts_flatMap (cs : List Command) :
    commandStarts (cs.flatMap Command.tokens) = cs.map fun c => word c.name := by
  have hstarts := commandStarts_flatMap_append cs []
  rwa [List.append_nil, commandStarts, commandStarts, commandStartsFrom, List.append_nil] at hstarts

@[simp] theorem nested_flatMap (cs : List Command) : Nested (cs.flatMap Command.tokens) := by
  induction cs with
  | nil => exact .nil
  | cons c cs ih =>
    rw [List.flatMap_cons]
    exact c.nested_tokens.append ih

@[simp] theorem lateRequires_map_eq_nil_iff (cs : List Command) :
    lateRequires (cs.map fun c => word c.name) = [] ↔ Command.RequiresFirst cs := by
  have hlate : lateRequires (cs.map fun c => word c.name) = [] ↔
      ∀ c ∈ cs.dropWhile Command.isRequire, c.isRequire = false := by
    rw [lateRequires, List.map_eq_nil_iff, List.filter_eq_nil_iff, List.dropWhile_map,
      List.forall_mem_map]
    simp only [Bool.not_eq_true]
    rfl
  rw [hlate]
  constructor
  · intro h
    refine ⟨cs.takeWhile Command.isRequire, cs.dropWhile Command.isRequire, ?_, ?_, h⟩
    · exact List.takeWhile_append_dropWhile.symm
    · exact fun c hc => List.mem_takeWhile_imp hc
  · rintro ⟨ds, es, rfl, hds, hes⟩ c hc
    rw [List.dropWhile_append_of_pos hds] at hc
    exact hes c ((List.dropWhile_sublist _).subset hc)

@[simp] theorem countIfs_flatMap (cs : List Command) :
    Token.countIfs (cs.flatMap Command.tokens) = (cs.filter (·.isIf)).length := by
  rw [Token.countIfs, commandStarts_flatMap, List.filter_map, List.length_map]
  rfl

/-- The check accepts a readable, well nested script with its declarations first and as many `if`
commands as there are active filters. -/
theorem verify_eq_true_iff {fs : FilterSet} {script : Script} :
    verify fs script = true ↔ ∃ ts, scan script.content = .ok ts ∧ Nested ts ∧
      lateRequires (commandStarts ts) = [] ∧
      Token.countIfs ts = (fs.entries.filter (·.isActive)).length := by
  rw [verify, Verdict.of]
  cases hscan : scan script.content with
  | error u => simp [Verdict.accepted]
  | ok ts =>
    simp only [Except.ok.injEq, exists_eq_left']
    rw [← nestingProblem?_eq_none_iff, Token.problems]
    cases hnesting : nestingProblem? [] ts with
    | some p => simp [Verdict.accepted]
    | none =>
      cases hlate : lateRequires (commandStarts ts) with
      | cons p ps => simp [Verdict.accepted]
      | nil =>
        simp only [true_and]
        split
        next hcount => simpa [Verdict.accepted] using (beq_iff_eq.1 hcount).symm
        next hcount => simpa [Verdict.accepted] using fun heq => hcount (beq_iff_eq.2 heq.symm)

/-- A script that is made of complete commands belongs to a filter set exactly when it has one
`if` block for each active filter and its declarations come first. -/
theorem verify_commands {fs : FilterSet} {script : Script} {cs : List Command}
    (h : scan script.content = .ok (cs.flatMap Command.tokens)) :
    verify fs script = true ↔
      (cs.filter (·.isIf)).length = (fs.entries.filter (·.isActive)).length ∧
        Command.RequiresFirst cs := by
  rw [verify_eq_true_iff]
  simp [h, and_comm]

/-! The commands of a combined script. -/

theorem Balanced.nested {ts : List Token} (h : Balanced ts) : Nested ts := by
  rw [← nestingProblem?_eq_none_iff]
  have hempty := h [] []
  rwa [List.append_nil] at hempty

theorem notMem_commandMarks {t : Token} (h : Within conditionMarks t) : t ∉ commandMarks := by
  have hmarks : ∀ u ∈ commandMarks, ¬Within conditionMarks u :=
    List.forall_mem_cons.2 ⟨(by decide : ';' ∉ conditionMarks),
      List.forall_mem_cons.2 ⟨(by decide : '\x7b' ∉ conditionMarks),
        List.forall_mem_singleton.2 (by decide : '\x7d' ∉ conditionMarks)⟩⟩
  exact fun ht => hmarks t ht h

theorem nested_insideTokens (e : Entry) : Nested (insideTokens e) := by
  have hactions : Balanced (e.actions.flatMap commandTokens) :=
    balanced_flatMap fun a _ => balanced_commandTokens a
  exact (hactions.append ((balanced_word _).append balanced_semicolon)).nested

/-- The declaration of extensions. -/
def Command.declaring (names : List Text) : Command where
  name := "require".toList
  arguments := punctuation '[' :: commaSeparated (names.map fun n => [quoted n]) ++
    [punctuation ']']
  block := none
  nested_arguments := (balanced_nameList names).nested
  unended_arguments := fun t ht => notMem_commandMarks (within_nameList names t ht)
  nested_block := fun _ hb => nomatch hb
  block_of_if := by decide

/-- The command of a filter. -/
def Command.ofEntry (e : Entry) : Command where
  name := "if".toList
  arguments := (Condition.ofRules e.rules).tokens
  block := some (insideTokens e)
  nested_arguments := (balanced_conditionTokens _).nested
  unended_arguments := fun t ht => notMem_commandMarks (within_conditionTokens _ t ht)
  nested_block := by
    rintro b hb
    rw [← Option.some.inj hb]
    exact nested_insideTokens e
  block_of_if := fun _ => rfl

/-- The commands of a combined script. -/
def combinedCommands (names : List Text) (es : List Entry) : List Command :=
  (if names.isEmpty then [] else [.declaring names]) ++ (es.filter (·.isActive)).map .ofEntry

@[simp] theorem flatMap_tokens_combinedCommands (names : List Text) (es : List Entry) :
    (combinedCommands names es).flatMap Command.tokens =
      requireTokens names ++ es.flatMap activeTokens := by
  have hdeclaring : (if names.isEmpty then [] else [Command.declaring names]).flatMap
      Command.tokens = requireTokens names := by
    by_cases hnone : names = []
    · rw [hnone]
      rfl
    · have htokens := requireTokens_append hnone []
      rw [List.append_nil] at htokens
      rw [if_neg (by simpa using hnone), List.flatMap_singleton, htokens]
      rfl
  have hblocks : ((es.filter (·.isActive)).map Command.ofEntry).flatMap Command.tokens =
      es.flatMap activeTokens := by
    induction es with
    | nil => rfl
    | cons e es ih =>
      cases h : e.isActive with
      | true =>
        rw [List.filter_cons_of_pos h, List.map_cons, List.flatMap_cons, List.flatMap_cons, ih,
          activeTokens_of_active h, blockTokens_eq]
        rfl
      | false =>
        rw [List.filter_cons_of_neg (by simp [h]), ih, List.flatMap_cons,
          activeTokens_of_inactive h, List.nil_append]
  rw [combinedCommands, List.flatMap_append, hdeclaring, hblocks]

@[simp] theorem Command.isRequire_ofEntry (e : Entry) :
    (ofEntry e).isRequire = false := isRequire_if

theorem requiresFirst_combinedCommands (names : List Text) (es : List Entry) :
    Command.RequiresFirst (combinedCommands names es) := by
  refine ⟨_, _, rfl, ?_, ?_⟩
  · intro c hc
    split at hc
    · cases hc
    · rw [List.mem_singleton.1 hc]
      exact isRequire_require
  · intro c hc
    obtain ⟨e, -, rfl⟩ := List.mem_map.1 hc
    exact Command.isRequire_ofEntry e

theorem combinedCommands_concat (names : List Text) (es : List Entry) {e : Entry}
    (h : e.isActive = true) :
    combinedCommands names (es ++ [e]) = combinedCommands names es ++ [.ofEntry e] := by
  rw [combinedCommands, combinedCommands, List.filter_append, List.filter_cons_of_pos h,
    List.filter_nil, List.map_append, List.append_assoc, List.map_singleton]

@[simp] theorem length_filter_isIf_combinedCommands (names : List Text) (es : List Entry) :
    ((combinedCommands names es).filter (·.isIf)).length = (es.filter (·.isActive)).length := by
  rw [← countIfs_flatMap, flatMap_tokens_combinedCommands, countIfs_combined]

end MailFilter.Sieve
