import MailFilter.Proofs.Clauses
import MailFilter.Proofs.Layout

/-!
# Writing filters as text

Filters can be written as text, one block for each: a line for every rule and a line for every
action. Reading the text gives the filters back. Values and destinations may contain anything that
fits on a line, joining words, quotes, backslashes and the words that structure a block included:
the line reader looks only at the start of a line, and the clause reader only outside quotes.
-/
namespace MailFilter

open Text Clause

/-- A rule without its joining word. -/
def Rule.clause (r : Rule) : Text :=
  r.part ++ ' ' :: r.operator ++ ' ' :: Sieve.quote r.value

/-- A rule behind its joining word. -/
def Rule.joinedClause (r : Rule) : Text := r.join ++ ' ' :: r.clause

/-- The rules of a filter line by line; the first one needs no joining word. -/
def Rule.lines : List Rule → List Text
  | [] => []
  | r :: rs => r.clause :: rs.map Rule.joinedClause

def Action.line (a : Action) : Text :=
  match a.dest with
  | some d => a.verb.getD [] ++ ' ' :: Sieve.quote d
  | none => a.verb.getD []

/-- The block of a filter. -/
def Entry.block (e : Entry) : Block := ⟨e.name, Rule.lines e.rules, e.actions.map Action.line⟩

/-- The text of a list of filters. -/
def Entry.print (es : List Entry) : Text := Block.print (es.map Entry.block)

/-! Filters that can be written. -/

/-- A word of an operator phrase. -/
def IsOperatorWord (w : Text) : Prop :=
  w ≠ [] ∧ (∀ c ∈ w, isBlank c = false ∧ c ≠ '"') ∧ w ≠ "or".toList ∧ w ≠ "and".toList

instance (w : Text) : Decidable (IsOperatorWord w) := inferInstanceAs (Decidable (_ ∧ _))

/-- The part starts with a dollar sign, ends with its only colon and has neither blanks nor quotes;
the operator is a phrase of lower-case words with single spaces between them; the value may be
anything on one line. No dotted I may occur. -/
structure Rule.Printable (r : Rule) : Prop where
  dollar : r.part.head? = some '$'
  colon : ∃ p, r.part = p ++ [':'] ∧ ':' ∉ p
  part : ∀ c ∈ r.part, isBlank c = false ∧ c ≠ '"'
  operator : ∃ ws, ws ≠ [] ∧ (∀ w ∈ ws, IsOperatorWord w) ∧ r.operator = Text.join [' '] ws
  lowerCase : lower r.operator = r.operator
  value : Unbroken r.value
  undotted : dottedI ∉ r.part ∧ dottedI ∉ r.operator ∧ dottedI ∉ r.value

/-- The action finishes, or it saves or delivers to a destination on one line; a delivery must not
be one to the owner's own address. -/
inductive Action.Printable : Action → Prop
  | finish : Printable .finish
  | save {d : Text} (hne : d ≠ []) (hd : Unbroken d) : Printable (.save d)
  | deliver {d : Text} (hne : d ≠ []) (hd : Unbroken d) (howner : ¬ActionLine.ownerMarker <:+: d) :
      Printable (.deliver d)

structure Entry.Printable (e : Entry) : Prop where
  enabled : e.enabled = true
  named : e.name ≠ []
  trimmed : trim e.name = e.name
  unbroken : Unbroken e.name
  hasRules : e.rules ≠ []
  rules : ∀ r ∈ e.rules, r.Printable
  firstJoin : ∀ r ∈ e.rules.head?, r.join = "or".toList
  laterJoins : ∀ r ∈ e.rules.tail, IsJoin r.join
  hasActions : e.actions ≠ []
  actions : ∀ a ∈ e.actions, a.Printable

/-! Operator phrases. -/

namespace Text

theorem splitWhere_append_cons {p : Char → Bool} {w : Text} {c : Char}
    (hw : ∀ d ∈ w, p d = false) (hc : p c = true) (s : Text) :
    splitWhere p (w ++ c :: s) = w :: splitWhere p s := by
  induction w with
  | nil => exact splitWhere_cons_pos hc s
  | cons d w ih =>
    obtain ⟨hd, hw⟩ := List.forall_mem_cons.1 hw
    rw [List.cons_append, splitWhere, hd, if_neg Bool.false_ne_true, ih hw]

/-- The words of a phrase are the words that it was made of. -/
theorem words_join_space {ws : List Text}
    (hws : ∀ w ∈ ws, w ≠ [] ∧ ∀ c ∈ w, isBlank c = false) :
    words (join [' '] ws ++ [' ']) = ws := by
  have hcons {w : Text} (hne : w ≠ []) (hw : ∀ c ∈ w, isBlank c = false) (s : Text) :
      words (w ++ ' ' :: s) = w :: words s := by
    rw [words, splitWhere_append_cons hw (by decide), List.filter_cons_of_pos (by simpa using hne),
      words]
  induction ws with
  | nil => decide
  | cons w ws ih =>
    obtain ⟨⟨hne, hw⟩, hws⟩ := List.forall_mem_cons.1 hws
    by_cases hnil : ws = []
    · subst hnil
      rw [join, hcons hne hw]
      rfl
    · rw [join_cons hnil, List.append_assoc, List.append_assoc, List.singleton_append, hcons hne hw,
        ih hws]

/-- Pieces with a character between them: the first piece, and the others behind the character. -/
theorem join_singleton_cons (c : Char) (w : Text) (ws : List Text) :
    join [c] (w :: ws) = w ++ ws.flatMap (c :: ·) := by
  induction ws generalizing w with
  | nil => simp [join]
  | cons v ws ih => rw [join_cons (by simp), ih, List.flatMap_cons]; simp

theorem join_starts {c : Char} {ws : List Text} (hne : ws ≠ [])
    (hws : ∀ w ∈ ws, w ≠ [] ∧ ∀ d ∈ w, isBlank d = false) :
    ∃ d s, join [c] ws = d :: s ∧ isBlank d = false := by
  obtain ⟨w, ws, rfl⟩ := List.exists_cons_of_ne_nil hne
  obtain ⟨hw, hblank⟩ := hws w (by simp)
  obtain ⟨d, w, rfl⟩ := List.exists_cons_of_ne_nil hw
  exact ⟨d, w ++ ws.flatMap (c :: ·), join_singleton_cons c (d :: w) ws, hblank d (by simp)⟩

end Text

/-! No joining word stands outside the value of a rule. -/

namespace Clause

theorem startsJoin_lower_cons {c : Char} (hc : c ≠ ' ') (s : Text) :
    startsJoin (lower (c :: s)) = false := by
  have hspace : (' ' == c.toLower) = false := by simpa using (toLower_ne_space hc).symm
  have hstart (w : Text) : startsWith ((c :: s).map Char.toLower) (' ' :: w) = false := by
    rw [startsWith, List.map_cons, List.isPrefixOf_cons_cons, hspace, Bool.false_and]
  rw [lower, startsJoin_lowerAfter]
  exact Bool.or_eq_false_iff.2 ⟨hstart _, hstart _⟩

/-- Joining words start with a space. -/
theorem Unjoined.append {s t : Text} (hs : ' ' ∉ s) (ht : Unjoined t) : Unjoined (s ++ t) := by
  induction s with
  | nil => exact ht
  | cons c s ih =>
    rw [List.mem_cons, not_or] at hs
    intro u hu
    rcases List.suffix_cons_iff.1 hu with rfl | hu
    · exact startsJoin_lower_cons (Ne.symm hs.1) _
    · exact ih hs.2 u hu

theorem eq_of_startsWith_space {v w s : Text} (hv : ' ' ∉ v) (hw : ' ' ∉ w)
    (h : startsWith (w ++ ' ' :: s) (v ++ [' ']) = true) : w = v := by
  obtain ⟨t, ht⟩ := List.isPrefixOf_iff_prefix.1 h
  rw [List.append_assoc, List.singleton_append] at ht
  have hbefore := congrArg (before ' ') ht
  rw [before_append hv, before_append hw] at hbefore
  exact hbefore.symm

/-- A lower-case word between spaces is a joining word only if it is `or` or `and`. -/
theorem startsJoin_lower_word {w : Text} (hw : ' ' ∉ w) (hlower : ∀ c ∈ w, IsLower c)
    (hjoin : ¬IsJoin w) (s : Text) : startsJoin (lower (' ' :: w ++ ' ' :: s)) = false := by
  have hfixed : ∀ c ∈ ' ' :: w ++ [' '], IsLower c := by
    have hspace : IsLower ' ' := by decide
    exact List.forall_mem_append.2
      ⟨List.forall_mem_cons.2 ⟨hspace, hlower⟩, List.forall_mem_singleton.2 hspace⟩
  have hsplit : ' ' :: w ++ ' ' :: s = (' ' :: w ++ [' ']) ++ s := by simp
  rw [hsplit, lower, lowerAfter_append_of_isLower hfixed]
  generalize lowerAfter _ s = low
  have hword {v : Text} (hv : ' ' ∉ v) (hne : w ≠ v) :
      startsWith (' ' :: w ++ [' '] ++ low) (' ' :: (v ++ [' '])) = false := by
    rw [← Bool.not_eq_true]
    intro hstart
    rw [List.append_assoc, List.cons_append, List.singleton_append, startsWith,
      List.isPrefixOf_cons_cons, beq_self_eq_true, Bool.true_and] at hstart
    exact hne (eq_of_startsWith_space hv hw hstart)
  rw [IsJoin, not_or] at hjoin
  exact Bool.or_eq_false_iff.2 ⟨hword (v := "or".toList) (by decide) hjoin.1,
    hword (v := "and".toList) (by decide) hjoin.2⟩

theorem unjoined_words {ws : List Text}
    (h : ∀ w ∈ ws, ' ' ∉ w ∧ (∀ c ∈ w, IsLower c) ∧ ¬IsJoin w) :
    Unjoined (ws.flatMap (' ' :: ·) ++ [' ']) := by
  induction ws with
  | nil =>
    have hall : ∀ t ∈ [' '].tails, startsJoin (lower t) = false := by decide
    exact fun t ht => hall t ((List.mem_tails t _).2 ht)
  | cons w ws ih =>
    obtain ⟨⟨hspace, hlower, hjoin⟩, hws⟩ := List.forall_mem_cons.1 h
    have hrest := (ih hws).append hspace
    -- what follows the word starts with a space, whether or not there is another word
    obtain ⟨s, hs⟩ : ∃ s, ws.flatMap (' ' :: ·) ++ [' '] = ' ' :: s := by
      cases ws with
      | nil => exact ⟨[], rfl⟩
      | cons v ws => exact ⟨v ++ ws.flatMap (' ' :: ·) ++ [' '], by simp⟩
    rw [List.flatMap_cons, List.append_assoc, List.cons_append]
    intro t ht
    rcases List.suffix_cons_iff.1 ht with rfl | ht
    · rw [hs, ← List.cons_append]
      exact startsJoin_lower_word hspace hlower hjoin s
    · exact hrest t ht

end Clause

/-! Rules. -/

theorem Sieve.unbroken_quote {s : Text} (h : Unbroken s) : Unbroken (quote s) := by
  intro c hc
  rcases mem_quote hc with hc | rfl | rfl
  · exact h c hc
  · decide
  · decide

theorem Text.isLineEnd_of_isBlank {c : Char} (h : isBlank c = false) : isLineEnd c = false := by
  simp only [isBlank, isLineEnd, Bool.or_eq_false_iff, Bool.and_eq_false_iff,
    decide_eq_false_iff_not, beq_eq_false_iff_ne] at h ⊢
  omega

namespace Rule

variable {r : Rule}

/-- The clause of a rule as the reader takes it apart. -/
def form (r : Rule) : Form := ⟨r.part, ' ' :: r.operator ++ [' '], r.value.flatMap Sieve.quoteChar⟩

@[simp] theorem text_form (r : Rule) : r.form.text = r.clause := by
  simp [form, Form.text, Form.head, clause, Sieve.quote]

/-- The operator of a rule that can be written is made of lower-case words. -/
theorem Printable.exists_words (h : r.Printable) :
    ∃ ws, ws ≠ [] ∧ r.operator = Text.join [' '] ws ∧
      ∀ w ∈ ws, IsOperatorWord w ∧ ∀ c ∈ w, IsLower c := by
  obtain ⟨ws, hne, hws, heq⟩ := h.operator
  have hlower := isLower_of_lowerAfter_eq h.undotted.2.1 h.lowerCase
  refine ⟨ws, hne, heq, fun w hw => ⟨hws w hw, fun c hc => hlower c ?_⟩⟩
  rw [heq]
  exact subset_join hw hc

theorem Printable.of_mem_operator (h : r.Printable) {c : Char} (hc : c ∈ r.operator) :
    c = ' ' ∨ isBlank c = false ∧ c ≠ '"' := by
  obtain ⟨ws, -, heq, hws⟩ := h.exists_words
  rw [heq] at hc
  rcases mem_join hc with hspace | ⟨w, hw, hc⟩
  · exact .inl (List.mem_singleton.1 hspace)
  · exact .inr ((hws w hw).1.2.1 c hc)

theorem Printable.wellFormed_form (h : r.Printable) : r.form.WellFormed where
  dollar := h.dollar
  colon := h.colon
  unquoted := by
    have hpart : '"' ∉ r.part := fun hmem => (h.part _ hmem).2 rfl
    have hoperator : '"' ∉ r.operator := by
      intro hmem
      rcases h.of_mem_operator hmem with hspace | ⟨-, hquote⟩
      · exact absurd hspace (by decide)
      · exact hquote rfl
    simp [form, Form.head, hpart, hoperator]
  closed := Sieve.Token.stringBody?_flatMap_quoteChar r.value []
  unjoined := by
    have hpart : ' ' ∉ r.part := fun hmem => absurd (h.part _ hmem).1 (by decide)
    obtain ⟨ws, hne, heq, hws⟩ := h.exists_words
    have hwords : Unjoined (' ' :: r.operator ++ [' ']) := by
      obtain ⟨w, vs, rfl⟩ := List.exists_cons_of_ne_nil hne
      rw [heq, join_singleton_cons, ← List.cons_append, ← List.flatMap_cons (f := (' ' :: ·))]
      refine unjoined_words fun w hw => ?_
      obtain ⟨⟨-, hblank, hor, hand⟩, hlower⟩ := hws w hw
      exact ⟨fun hmem => absurd (hblank _ hmem).1 (by decide), hlower, not_or.2 ⟨hor, hand⟩⟩
    exact hwords.append hpart

theorem Printable.dottedI_notMem_clause (h : r.Printable) : dottedI ∉ r.clause := by
  obtain ⟨hpart, hoperator, hvalue⟩ := h.undotted
  have hquote : dottedI ∉ Sieve.quote r.value := by
    intro hmem
    rcases Sieve.mem_quote hmem with hmem | heq | heq
    · exact hvalue hmem
    · exact absurd heq (by decide)
    · exact absurd heq (by decide)
  have hspace : dottedI ≠ ' ' := by decide
  simp [clause, hpart, hoperator, hquote, hspace]

/-- A rule is what its clause means. -/
@[simp] theorem Printable.rule_form (h : r.Printable) : r.form.rule r.join = r := by
  obtain ⟨ws, hne, heq, hws⟩ := h.exists_words
  have hnonblank : ∀ w ∈ ws, w ≠ [] ∧ ∀ c ∈ w, isBlank c = false := fun w hw =>
    ⟨(hws w hw).1.1, fun c hc => ((hws w hw).1.2.1 c hc).1⟩
  have htrim : trimLeft (' ' :: r.operator ++ [' ']) = r.operator ++ [' '] := by
    obtain ⟨c, s, hs, hc⟩ := join_starts hne hnonblank
    rw [heq, hs, List.cons_append, ← List.singleton_append, trimLeft_append_of_blank (by decide),
      List.cons_append, trimLeft_cons hc]
  have hlower : lower (r.operator ++ [' ']) = r.operator ++ [' '] := by
    rw [lower, lowerAfter_append_of_isLower (isLower_of_lowerAfter_eq h.undotted.2.1 h.lowerCase)]
    rfl
  have hphrase : phrase (r.operator ++ [' ']) = r.operator := by
    rw [phrase, heq, words_join_space hnonblank]
  rw [Form.rule, form, htrim, hlower, hphrase, Sieve.unescape_escaped]

theorem Printable.unbroken_clause (h : r.Printable) : Unbroken r.clause := by
  have hspace : isLineEnd ' ' = false := by decide
  have hpart : Unbroken r.part := fun c hc => isLineEnd_of_isBlank (h.part c hc).1
  have hoperator : Unbroken r.operator := by
    intro c hc
    rcases h.of_mem_operator hc with rfl | ⟨hblank, -⟩
    · exact hspace
    · exact isLineEnd_of_isBlank hblank
  exact List.forall_mem_append.2 ⟨List.forall_mem_append.2
    ⟨hpart, List.forall_mem_cons.2 ⟨hspace, hoperator⟩⟩,
    List.forall_mem_cons.2 ⟨hspace, Sieve.unbroken_quote h.value⟩⟩

theorem Printable.clause_eq (h : r.Printable) : ∃ s, r.clause = '$' :: s ++ ['"'] := by
  rw [← text_form]
  exact h.wellFormed_form.text_eq

theorem Printable.isPlainLine_clause (h : r.Printable) : Source.IsPlainLine r.clause := by
  obtain ⟨s, hs⟩ := h.clause_eq
  exact .of_quote_end hs (by decide) h.unbroken_clause

theorem Printable.isPlainLine_joinedClause (h : r.Printable) (hj : IsJoin r.join) :
    Source.IsPlainLine r.joinedClause := by
  obtain ⟨s, hs⟩ := h.clause_eq
  have hunbroken (hword : Unbroken r.join) : Unbroken r.joinedClause :=
    List.forall_mem_append.2 ⟨hword, List.forall_mem_cons.2 ⟨by decide, h.unbroken_clause⟩⟩
  rcases hj with hj | hj
  · have hline : r.joinedClause = 'o' :: ('r' :: ' ' :: '$' :: s) ++ ['"'] := by
      simp [joinedClause, hj, hs]
    exact .of_quote_end hline (by decide) (hunbroken (by rw [hj]; decide))
  · have hline : r.joinedClause = 'a' :: ('n' :: 'd' :: ' ' :: '$' :: s) ++ ['"'] := by
      simp [joinedClause, hj, hs]
    exact .of_quote_end hline (by decide) (hunbroken (by rw [hj]; decide))

theorem join_lines (r : Rule) (rs : List Rule) :
    Text.join [' '] (lines (r :: rs)) =
      r.form.text ++ joined (rs.map fun q => (q.join, q.form)) := by
  have hline (q : Rule) : ' ' :: q.joinedClause = ' ' :: q.join ++ ' ' :: q.form.text := by
    rw [joinedClause, text_form, List.cons_append]
  rw [lines, join_singleton_cons, text_form, joined, List.flatMap_map, List.flatMap_map]
  simp only [hline]

/-- The lines of rules are read as the rules. -/
theorem parse_join_lines {rs : List Rule} (h : ∀ r ∈ rs, r.Printable)
    (hfirst : ∀ r ∈ rs.head?, r.join = "or".toList) (hlater : ∀ r ∈ rs.tail, IsJoin r.join) :
    Rule.parse (Text.join [' '] (lines rs)) = rs := by
  cases rs with
  | nil =>
    rw [Rule.parse, readAll, readFrom_eq]
    rfl
  | cons r rs =>
    obtain ⟨hr, hrs⟩ := List.forall_mem_cons.1 h
    have hform {q : Rule} (hq : q.Printable) : q.form.WellFormed ∧ dottedI ∉ q.form.text :=
      ⟨hq.wellFormed_form, by rw [text_form]; exact hq.dottedI_notMem_clause⟩
    have hrule : r.form.rule "or".toList = r := by
      rw [← hfirst r rfl, hr.rule_form]
    have hrules : (rs.map fun q => (q.join, q.form)).map (fun c => c.2.rule c.1) = rs := by
      rw [List.map_map]
      exact (List.map_congr_left fun q hq => (hrs q hq).rule_form).trans (List.map_id _)
    rw [join_lines, parse_clauses (List.forall_mem_map.2 hlater) (hform hr)
      (List.forall_mem_map.2 fun q hq => hform (hrs q hq)), hrule, hrules]

theorem isPlainLine_of_mem_lines {rs : List Rule} (h : ∀ r ∈ rs, r.Printable)
    (hlater : ∀ r ∈ rs.tail, IsJoin r.join) : ∀ l ∈ lines rs, Source.IsPlainLine l := by
  cases rs with
  | nil => exact fun l hl => absurd hl List.not_mem_nil
  | cons r rs =>
    obtain ⟨hr, hrs⟩ := List.forall_mem_cons.1 h
    exact List.forall_mem_cons.2 ⟨hr.isPlainLine_clause, List.forall_mem_map.2 fun q hq =>
      (hrs q hq).isPlainLine_joinedClause (hlater q hq)⟩

end Rule

/-! Actions. -/

theorem Text.afterMarker?_eq_none {marker s : Text} (hne : marker ≠ []) (h : ¬marker <:+: s) :
    afterMarker? marker s = none := by
  induction s with
  | nil => simp [afterMarker?, hne]
  | cons c s ih =>
    have hstart : startsWith (c :: s) marker = false := by
      rw [startsWith, ← Bool.not_eq_true, List.isPrefixOf_iff_prefix]
      exact fun hprefix => h hprefix.isInfix
    rw [afterMarker?, hstart, if_neg Bool.false_ne_true]
    exact ih fun hinfix => h (List.infix_cons hinfix)

/-- A quoted text is read as it was, whatever stands behind it. -/
theorem Clause.firstQuoted_append_quote {p : Text} (hp : '"' ∉ p) (v t : Text) :
    firstQuoted (p ++ Sieve.quote v ++ t) = some v := by
  have hbody := quotedBody_of_stringBody? (Sieve.Token.stringBody?_flatMap_quoteChar v t)
  rw [Sieve.unescape_escaped] at hbody
  simpa [Sieve.quote, firstQuoted_append hp] using hbody

namespace Action

variable {a : Action}

/-- An action line with a destination is the verb, a space and the quoted destination. -/
theorem line_eq {verb d : Text} : line ⟨some verb, some d⟩ = verb ++ [' '] ++ Sieve.quote d := by
  simp [line]

theorem isPlainLine_line {c : Char} {w d : Text} (hc : c ∈ "$adfos".toList)
    (hverb : Unbroken (c :: w)) (hd : Unbroken d) :
    Source.IsPlainLine (line ⟨some (c :: w), some d⟩) := by
  have hline : line ⟨some (c :: w), some d⟩ =
      c :: (w ++ ' ' :: '"' :: d.flatMap Sieve.quoteChar) ++ ['"'] := by
    simp [line, Sieve.quote]
  exact .of_quote_end hline hc (List.forall_mem_append.2
    ⟨hverb, List.forall_mem_cons.2 ⟨by decide, Sieve.unbroken_quote hd⟩⟩)

theorem Printable.isPlainLine (h : a.Printable) : Source.IsPlainLine a.line := by
  cases h with
  | finish => exact ⟨by decide, by decide, 'f', "inish".toList, rfl, by decide⟩
  | save _ hd => exact isPlainLine_line (by decide) (by decide) hd
  | deliver _ hd _ => exact isPlainLine_line (by decide) (by decide) hd

/-- What comes behind the verb has no influence on its lower-case form. -/
theorem lower_line {verb : Text} (hverb : ∀ c ∈ verb, IsLower c) (d : Text) :
    ∃ s, lower (line ⟨some verb, some d⟩) = verb ++ [' '] ++ s := by
  have hstart : ∀ c ∈ verb ++ [' '], IsLower c := List.forall_mem_append.2 ⟨hverb, by decide⟩
  rw [line_eq, lower, lowerAfter_append_of_isLower hstart]
  exact ⟨_, rfl⟩

theorem firstQuoted_line {verb : Text} (hverb : '"' ∉ verb) (d : Text) :
    firstQuoted (line ⟨some verb, some d⟩) = some d := by
  have hline := firstQuoted_append_quote (p := verb ++ [' ']) (by simpa using hverb) d []
  rwa [List.append_nil, ← line_eq] at hline

/-- The line of an action is read as the action. -/
theorem Printable.readTrimmed_line (h : a.Printable) :
    ActionLine.readTrimmed a.line = .action a := by
  cases h with
  | finish => decide
  | @save d hne _ =>
    have hverb : ∀ c ∈ "save".toList, IsLower c := by decide
    obtain ⟨s, hs⟩ := lower_line hverb d
    have hfinish : startsWith ("save".toList ++ [' '] ++ s) "finish".toList = false := rfl
    have hdeliver : startsWith ("save".toList ++ [' '] ++ s) "deliver ".toList = false := rfl
    have hsave : startsWith ("save".toList ++ [' '] ++ s) "save ".toList = true := rfl
    have hquoted : firstQuoted (line ⟨some "save".toList, some d⟩) = some d :=
      firstQuoted_line (by decide) d
    have hempty : d.isEmpty = false := by simpa using hne
    simp only [ActionLine.readTrimmed, Action.save, hs, hfinish, hdeliver, hsave, hquoted, hempty,
      Bool.false_eq_true, if_false, if_true]
  | @deliver d hne _ howner =>
    have hverb : ∀ c ∈ "deliver".toList, IsLower c := by decide
    obtain ⟨s, hs⟩ := lower_line hverb d
    have hfinish : startsWith ("deliver".toList ++ [' '] ++ s) "finish".toList = false := rfl
    have hdeliver : startsWith ("deliver".toList ++ [' '] ++ s) "deliver ".toList = true := rfl
    have hquoted : firstQuoted (line ⟨some "deliver".toList, some d⟩) = some d :=
      firstQuoted_line (by decide) d
    have hempty : d.isEmpty = false := by simpa using hne
    have hdelivery : ActionLine.delivery d = .action (Action.deliver d) := by
      rw [ActionLine.delivery, afterMarker?_eq_none (by decide) howner]
    simp only [ActionLine.readTrimmed, Action.deliver, hs, hfinish, hdeliver, hquoted, hempty,
      hdelivery, Bool.false_eq_true, if_false, if_true]

theorem parse_lines {as : List Action} (h : ∀ a ∈ as, a.Printable) :
    Action.parse (as.map line) = as := by
  have hread : ∀ a ∈ as, (ActionLine.read a.line).action? = some a := by
    intro a ha
    have hplain := (h a ha).isPlainLine
    have hempty : a.line.isEmpty = false := by simpa using hplain.ne_nil
    simp only [ActionLine.read, hplain.trimmed, hempty, Bool.false_eq_true, if_false,
      (h a ha).readTrimmed_line, ActionLine.Reading.action?]
  rw [Action.parse, List.filterMap_map]
  exact (List.filterMap_congr hread).trans List.filterMap_some

end Action

/-! Filters. -/

namespace Entry

variable {e : Entry}

theorem Printable.printable_block (h : e.Printable) : e.block.Printable where
  unbroken := h.unbroken
  trimmed := h.trimmed
  conditions := Rule.isPlainLine_of_mem_lines h.rules h.laterJoins
  actions := List.forall_mem_map.2 fun a ha => (h.actions a ha).isPlainLine

/-- A filter is what its block describes. -/
theorem Printable.filter?_block (h : e.Printable) : e.block.filter? = some e := by
  have hrules : e.block.rules = e.rules :=
    Rule.parse_join_lines h.rules h.firstJoin h.laterJoins
  have heffects : e.block.effects = e.actions := Action.parse_lines h.actions
  have hcomplete : (e.name.isEmpty || e.rules.isEmpty || e.actions.isEmpty) = false := by
    simp [h.named, h.hasRules, h.hasActions]
  have hname : e.block.name = e.name := rfl
  rw [Block.filter?, hrules, heffects, hname, hcomplete, if_neg Bool.false_ne_true, ← h.enabled]

end Entry

/-- Filters that can be written are read back from their text. -/
theorem FilterSet.parse_print {es : List Entry} (h : ∀ e ∈ es, e.Printable) :
    FilterSet.parse (Entry.print es) = ⟨es, "text".toList⟩ := by
  have hblocks : Source.blocks (Entry.print es) = es.map Entry.block :=
    Source.blocks_print (List.forall_mem_map.2 fun e he => (h e he).printable_block)
  have hentries : (es.map Entry.block).filterMap (·.filter?) = es := by
    rw [List.filterMap_map]
    exact (List.filterMap_congr fun e he => (h e he).filter?_block).trans List.filterMap_some
  rw [FilterSet.parse, hblocks, hentries]

/-- A filter with a name, values and destinations that look like the structure around them. -/
def hostileEntry : Entry :=
  ⟨"endif".toList, true,
    [⟨"$header_subject:".toList, "does not contain".toList,
        "\" or $header_to: is \"then".toList, "or".toList⟩,
      ⟨"$header_from:".toList, "is".toList, "C:\\ and #if".toList, "and".toList⟩],
    [.save "INBOX.\"endif\"".toList, .deliver "if\\@then".toList, .finish]⟩

theorem printable_hostileEntry : hostileEntry.Printable where
  enabled := rfl
  named := by decide
  trimmed := by decide
  unbroken := by decide
  hasRules := by decide
  rules := by
    have hsubject : ∀ w ∈ ["does".toList, "not".toList, "contain".toList], IsOperatorWord w := by
      decide
    refine List.forall_mem_cons.2 ⟨?_, List.forall_mem_singleton.2 ?_⟩
    · exact ⟨rfl, ⟨"$header_subject".toList, rfl, by decide⟩, by decide,
        ⟨_, by decide, hsubject, rfl⟩, by decide, by decide, by decide⟩
    · exact ⟨rfl, ⟨"$header_from".toList, rfl, by decide⟩, by decide,
        ⟨["is".toList], by decide, by decide, rfl⟩, by decide, by decide, by decide⟩
  firstJoin := by decide
  laterJoins := List.forall_mem_singleton.2 (.inr rfl)
  hasActions := by decide
  actions := List.forall_mem_cons.2 ⟨.save (by decide) (by decide), List.forall_mem_cons.2
    ⟨.deliver (by decide) (by decide) (by decide), List.forall_mem_singleton.2 .finish⟩⟩

theorem parse_print_hostileEntry :
    (∀ e ∈ [hostileEntry, hostileEntry], e.Printable) ∧
      Entry.print [hostileEntry] =
        "#endif\nif\n $header_subject: does not contain ".toList ++
        "\"\\\" or $header_to: is \\\"then\"\n and $header_from: is ".toList ++
        "\"C:\\\\ and #if\"\nthen\nsave \"INBOX.\\\"endif\\\"\"\n".toList ++
        "deliver \"if\\\\@then\"\nfinish\nendif".toList ∧
      FilterSet.parse (Entry.print [hostileEntry, hostileEntry]) =
        ⟨[hostileEntry, hostileEntry], "text".toList⟩ := by
  have hall : ∀ e ∈ [hostileEntry, hostileEntry], e.Printable :=
    List.forall_mem_cons.2 ⟨printable_hostileEntry, List.forall_mem_singleton.2
      printable_hostileEntry⟩
  exact ⟨hall, by decide +kernel, FilterSet.parse_print hall⟩

end MailFilter
