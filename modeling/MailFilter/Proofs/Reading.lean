import MailFilter.Proofs.Pieces
import MailFilter.Sieve.Quote
import MailFilter.Sieve.Token
import Mathlib.Data.List.Chain

/-!
# Reading script text piece by piece

`Reads s ts r` says that the scanner takes the tokens `ts` off the front of `s` and stands at `r`
afterwards. The text that follows is part of the judgment, so a word is never cut short and
judgments compose by transitivity. Bracket comments count only while they stay on one line; this
is all that scripts contain, and it makes the judgment say something about lines as well.

A text that reads in the same way whatever follows it `Writes` its tokens. Keywords, punctuation,
quoted strings and comments write theirs, whatever characters they carry, and the texts of tests,
conditions, actions and filters are put together from these.
-/
namespace MailFilter.Sieve.Token

@[simp] theorem endsWord_of_isBlank {c : Char} (h : Text.isBlank c = true) : endsWord c = true := by
  simp [endsWord, h]

/-- Punctuation is neither blank nor does it start a comment or a string. -/
theorem isPunctuation_cases {c : Char} (h : isPunctuation c = true) :
    Text.isBlank c = false ∧ c ≠ '#' ∧ c ≠ '/' ∧ c ≠ '"' ∧ c ≠ 'r' := by
  have hall : ",;()\x7b\x7d[]".toList.all (fun d =>
      !Text.isBlank d && d != '#' && d != '/' && d != '"' && d != 'r') = true := by decide
  simpa [and_assoc] using List.all_eq_true.1 hall c (List.contains_iff_mem.1 h)

@[simp] theorem scan_blank {c : Char} (h : Text.isBlank c = true) (s : Text) :
    scan (c :: s) = scan s := by
  rw [scan, if_pos h]

@[simp] theorem scan_hash (s : Text) : scan ('#' :: s) = scan (s.dropWhile (· != '\n')) := by
  rw [scan, if_neg (by decide), if_pos (by decide)]

@[simp] theorem scan_comment {s t : Text} (h : afterComment? s = some t) :
    scan ('/' :: '*' :: s) = scan t := by
  rw [scan, if_neg (by decide), if_neg (by decide), if_pos (by simp)]
  split
  next hn => simp [h] at hn
  next u hu => rw [List.drop_one, List.tail_cons, h] at hu; rw [Option.some.inj hu]

@[simp] theorem scan_open_comment {s : Text} (h : afterComment? s = none) :
    scan ('/' :: '*' :: s) = .error ⟨.comment, s.length + 2⟩ := by
  rw [scan, if_neg (by decide), if_neg (by decide), if_pos (by simp)]
  split
  next => rfl
  next r hr => simp [h] at hr

theorem scan_string {s b t : Text} (h : stringBody? s = some (b, t)) :
    scan ('"' :: s) = (scan t).map (string b :: ·) := by
  rw [scan, if_neg (by decide), if_neg (by decide), if_neg (by simp), if_pos (by decide)]
  split
  next hn => simp [h] at hn
  next b' t' hb =>
    rw [h, Option.some.injEq, Prod.mk.injEq] at hb
    rw [hb.1, hb.2]

@[simp] theorem scan_open_string {s : Text} (h : stringBody? s = none) :
    scan ('"' :: s) = .error ⟨.string, s.length + 1⟩ := by
  rw [scan, if_neg (by decide), if_neg (by decide), if_neg (by simp), if_pos (by decide)]
  split
  next => rfl
  next r hr => simp [h] at hr

@[simp] theorem scan_punctuation {c : Char} (h : isPunctuation c = true) (s : Text) :
    scan (c :: s) = (scan s).map (punctuation c :: ·) := by
  obtain ⟨hb, hh, hs, hq, -⟩ := isPunctuation_cases h
  rw [scan, if_neg (by simp [hb]), if_neg (by simp [hh]), if_neg (by simp [hs]),
    if_neg (by simp [hq]), if_pos h]

theorem scan_word {c : Char} {s : Text} (hc : endsWord c = false)
    (hs : ¬(c = '/' ∧ s.head? = some '*')) :
    scan (c :: s) = (scan (wordRest s).2).map (word (c :: (wordRest s).1) :: ·) := by
  simp only [endsWord, Bool.or_eq_false_iff, beq_eq_false_iff_ne] at hc
  rw [scan, if_neg (by simp [hc]), if_neg (by simp [hc]), if_neg (by simpa using hs),
    if_neg (by simp [hc]), if_neg (by simp [hc])]

/-- The text has no mark that ends a bracket comment. -/
def Unclosing (s : Text) : Prop := s.IsChain fun a b => ¬(a = '*' ∧ b = '/')

theorem afterComment?_append {s : Text} (h : Unclosing s) (t : Text) :
    afterComment? (s ++ '*' :: '/' :: t) = some t := by
  induction s with
  | nil => rfl
  | cons c s ih =>
    have hrest := ih (List.IsChain.tail h)
    cases s with
    | nil => by_cases hc : c = '*' <;> simp [afterComment?, hc]
    | cons d s =>
      have hcd : ¬(c = '*' ∧ d = '/') := (List.isChain_cons_cons.1 h).1
      rw [List.cons_append, List.cons_append, afterComment?]
      · exact hrest
      · rintro t' rfl heq
        exact hcd ⟨rfl, (List.cons.inj heq).1⟩

/-- The scanner takes the tokens off the front of the text and stands at the rest. -/
inductive Reads : Text → List Token → Text → Prop
  | done {r} : Reads r [] r
  | blank {c s ts r} : Text.isBlank c = true → Reads s ts r → Reads (c :: s) ts r
  | hash {s ts r} : Reads (s.dropWhile (· != '\n')) ts r → Reads ('#' :: s) ts r
  | comment {s t ts r} : '\n' ∉ s → Unclosing s → Reads t ts r →
      Reads ('/' :: '*' :: (s ++ '*' :: '/' :: t)) ts r
  | string {s b t ts r} : stringBody? s = some (b, t) → Reads t ts r →
      Reads ('"' :: s) (string b :: ts) r
  | punctuation {c s ts r} : isPunctuation c = true → Reads s ts r →
      Reads (c :: s) (punctuation c :: ts) r
  | word {c s ts r} : endsWord c = false → ¬(c = '/' ∧ s.head? = some '*') →
      Reads (wordRest s).2 ts r → Reads (c :: s) (word (c :: (wordRest s).1) :: ts) r

theorem Reads.trans {s t r : Text} {ts us : List Token} (h : Reads s ts t) (h' : Reads t us r) :
    Reads s (ts ++ us) r := by
  induction h with
  | done => exact h'
  | blank hc _ ih => exact .blank hc (ih h')
  | hash _ ih => exact .hash (ih h')
  | comment hn hs _ ih => exact .comment hn hs (ih h')
  | string hb _ ih => exact .string hb (ih h')
  | punctuation hc _ ih => exact .punctuation hc (ih h')
  | word hc hs _ ih => exact .word hc hs (ih h')

/-- The judgment is sound for the scanner. -/
theorem Reads.scan_eq {s r : Text} {ts : List Token} (h : Reads s ts r) :
    scan s = (scan r).map (ts ++ ·) := by
  induction h with
  | @done r => cases scan r <;> rfl
  | blank hc _ ih => simp [hc, ih]
  | hash _ ih => simp [ih]
  | comment _ hs _ ih => simp [afterComment?_append hs, ih]
  | @string _ _ _ _ r hb _ ih => rw [scan_string hb, ih]; cases scan r <;> rfl
  | @punctuation _ _ _ r hc _ ih => rw [scan_punctuation hc, ih]; cases scan r <;> rfl
  | @word _ _ _ r hc hs _ ih => rw [scan_word hc hs, ih]; cases scan r <;> rfl

theorem Reads.scan_eq_ok {s : Text} {ts : List Token} (h : Reads s ts []) : scan s = .ok ts := by
  rw [h.scan_eq, scan]
  simp [Except.map]

/-- The text is read as the same tokens whatever follows it. -/
def Writes (s : Text) (ts : List Token) : Prop := ∀ r, Reads (s ++ r) ts r

/-- The same for a text that must be followed by a line feed. -/
def WritesLine (s : Text) (ts : List Token) : Prop := ∀ r, Reads (s ++ '\n' :: r) ts r

@[simp] theorem writes_nil : Writes [] [] := fun _ => .done

theorem Writes.scan_eq_ok {s : Text} {ts : List Token} (h : Writes s ts) : scan s = .ok ts := by
  have hreads := h []
  rw [List.append_nil] at hreads
  exact hreads.scan_eq_ok

theorem Writes.append {s t : Text} {ts us : List Token} (h : Writes s ts) (h' : Writes t us) :
    Writes (s ++ t) (ts ++ us) := by
  intro r
  rw [List.append_assoc]
  exact (h (t ++ r)).trans (h' r)

theorem writes_blank {s : Text} (h : Text.allBlank s = true) : Writes s [] := by
  intro r
  induction s with
  | nil => exact .done
  | cons c s ih =>
    rw [Text.allBlank, List.all_cons, Bool.and_eq_true] at h
    exact .blank h.1 (ih h.2)

theorem writes_punctuation {c : Char} (h : isPunctuation c = true) :
    Writes [c] [punctuation c] := fun _ => .punctuation h .done

/-- A word without any character that could end it or start a comment. -/
def IsKeyword (w : Text) : Prop :=
  w ≠ [] ∧ w.all (fun c => !endsWord c && c != '/') = true

instance (w : Text) : Decidable (IsKeyword w) := inferInstanceAs (Decidable (_ ∧ _))

theorem IsKeyword.of_mem {w : Text} (h : IsKeyword w) :
    ∀ c ∈ w, endsWord c = false ∧ c ≠ '/' := by
  intro c hc
  simpa using List.all_eq_true.1 h.2 c hc

theorem wordRest_append {w t : Text} {c : Char} (hw : ∀ d ∈ w, endsWord d = false ∧ d ≠ '/')
    (hc : endsWord c = true) : wordRest (w ++ c :: t) = (w, c :: t) := by
  induction w with
  | nil => simp [wordRest, hc]
  | cons d w ih =>
    have hd := hw d (by simp)
    rw [List.cons_append, wordRest, ih fun x hx => hw x (by simp [hx])]
    simp [hd.1, hd.2]

/-- A keyword is read whole when the text after it starts with a character that ends words. -/
theorem Writes.keyword {w s : Text} {c : Char} {ts : List Token} (hw : IsKeyword w)
    (hc : endsWord c = true) (h : Writes (c :: s) ts) : Writes (w ++ c :: s) (word w :: ts) := by
  have hchars := hw.of_mem
  obtain ⟨d, v, rfl⟩ := List.exists_cons_of_ne_nil hw.1
  have hd := hchars d (by simp)
  intro r
  have hrest : wordRest (v ++ c :: (s ++ r)) = (v, c :: (s ++ r)) :=
    wordRest_append (fun x hx => hchars x (by simp [hx])) hc
  have hread : Reads (d :: (v ++ c :: (s ++ r))) (word (d :: v) :: ts) r := by
    have hafter : Reads (wordRest (v ++ c :: (s ++ r))).2 ts r := by
      rw [hrest]
      exact h r
    have hstep := Reads.word hd.1 (fun hslash => hd.2 hslash.1) hafter
    rwa [hrest] at hstep
  simpa using hread

theorem writes_keyword_space {w : Text} (hw : IsKeyword w) : Writes (w ++ [' ']) [word w] :=
  Writes.keyword hw (by decide) (writes_blank (by decide))

/-- The token of a quoted string. -/
def quoted (s : Text) : Token := string (s.flatMap quoteChar)

theorem quoteChar_cases (c : Char) :
    quoteChar c = ['\\', c] ∨ quoteChar c = [c] ∧ c ≠ '\\' ∧ c ≠ '"' := by
  by_cases hc : c = '\\' ∨ c = '"'
  · exact .inl (by rcases hc with rfl | rfl <;> rfl)
  · rw [not_or] at hc
    exact .inr ⟨by simp [quoteChar, hc.1, hc.2], hc⟩

@[simp] theorem stringBody?_flatMap_quoteChar (s r : Text) :
    stringBody? (s.flatMap quoteChar ++ '"' :: r) = some (s.flatMap quoteChar, r) := by
  induction s with
  | nil => rfl
  | cons c s ih =>
    rw [List.flatMap_cons, List.append_assoc]
    rcases quoteChar_cases c with hquote | ⟨hquote, hslash, hmark⟩
    · rw [hquote, List.cons_append, List.singleton_append, stringBody?, ih]
      rfl
    · rw [hquote, List.singleton_append, stringBody?.eq_5 _ _ hmark (fun h _ => hslash h)
        (fun _ _ h _ => hslash h), ih]
      rfl

/-- Whatever its characters, a quoted string is read as one token. -/
theorem writes_quote (s : Text) : Writes (quote s) [quoted s] := by
  intro r
  have hbody := stringBody?_flatMap_quoteChar s r
  simpa [quote, quoted] using Reads.string hbody .done

theorem writes_comment {s : Text} (hn : '\n' ∉ s) (hs : Unclosing s) :
    Writes ("/*".toList ++ s ++ "*/".toList) [] := by
  intro r
  simpa using Reads.comment hn hs (Reads.done (r := r))

theorem Writes.line {s : Text} {ts : List Token} (h : Writes s ts) : WritesLine s ts := by
  intro r
  simpa using (h ('\n' :: r)).trans (.blank (by decide) .done)

theorem Writes.append_line {s t : Text} {ts us : List Token} (h : Writes s ts)
    (h' : WritesLine t us) : WritesLine (s ++ t) (ts ++ us) := by
  intro r
  rw [List.append_assoc]
  exact (h (t ++ '\n' :: r)).trans (h' r)

/-- A line that starts with a hash sign has no tokens. -/
theorem writesLine_remark {l : Text} (hl : l.head? = some '#') (hn : '\n' ∉ l) :
    WritesLine l [] := by
  obtain ⟨s, rfl⟩ := List.head?_eq_some_iff.1 hl
  have hs : '\n' ∉ s := fun h => hn (List.mem_cons_of_mem _ h)
  intro r
  have hdrop : (s ++ '\n' :: r).dropWhile (· != '\n') = '\n' :: r := by
    rw [List.dropWhile_append_of_pos (by simpa using fun c hc => ne_of_mem_of_not_mem hc hs)]
    simp
  have hfeed : Reads ('\n' :: r) [] r := .blank (by decide) .done
  exact .hash (hdrop.symm ▸ hfeed)

/-- Lines that stand one below the other, each ended by a line feed. -/
def WritesLines (ls : List Text) (ts : List Token) : Prop :=
  Writes (ls.flatMap (· ++ ['\n'])) ts

@[simp] theorem writesLines_nil : WritesLines [] [] := writes_nil

theorem WritesLines.cons {l : Text} {ls : List Text} {ts us : List Token} (h : WritesLine l ts)
    (h' : WritesLines ls us) : WritesLines (l :: ls) (ts ++ us) := by
  have hl : Writes (l ++ ['\n']) ts := by
    intro r
    simpa using h r
  exact hl.append h'

theorem WritesLines.append {ls ms : List Text} {ts us : List Token} (h : WritesLines ls ts)
    (h' : WritesLines ms us) : WritesLines (ls ++ ms) (ts ++ us) := by
  unfold WritesLines at *
  rw [List.flatMap_append]
  exact Writes.append h h'

theorem writesLines_flatMap {α : Type*} {f : α → List Text} {g : α → List Token} {xs : List α}
    (h : ∀ x ∈ xs, WritesLines (f x) (g x)) : WritesLines (xs.flatMap f) (xs.flatMap g) := by
  induction xs with
  | nil => exact writesLines_nil
  | cons x xs ih => exact (h x (by simp)).append (ih fun y hy => h y (by simp [hy]))

/-- Lines without tokens have none together. -/
theorem writesLines_of_forall {ls : List Text} (h : ∀ l ∈ ls, WritesLine l []) :
    WritesLines ls [] := by
  induction ls with
  | nil => exact writesLines_nil
  | cons l ls ih => exact (WritesLines.cons (h l (by simp)) (ih fun m hm => h m (by simp [hm])))

/-! Text for comments keeps to one line and never ends the comment around it. -/

@[simp] theorem newline_notMem_commentText (s : Text) : '\n' ∉ commentText s := by
  intro h
  rcases Text.mem_join h with hs | ⟨w, hw, hc⟩
  · exact absurd hs (by decide)
  · exact absurd ((Text.mem_words hw).2.2 '\n' hc) (by decide)

@[simp] theorem head?_breakCommentEnds (s : Text) : (breakCommentEnds s).head? = s.head? := by
  fun_cases breakCommentEnds s <;> rfl

@[simp] theorem unclosing_breakCommentEnds (s : Text) : Unclosing (breakCommentEnds s) := by
  fun_induction breakCommentEnds s with
  | case1 => exact List.isChain_nil
  | case2 s ih =>
    refine List.isChain_cons_cons.2 ⟨by simp, List.isChain_cons_cons.2 ⟨by simp, ?_⟩⟩
    exact ih.cons fun d _ h => absurd h.1 (by decide)
  | case3 c s hne ih =>
    refine ih.cons fun d hd h => ?_
    rw [head?_breakCommentEnds, h.2] at hd
    obtain ⟨t, rfl⟩ := List.head?_eq_some_iff.1 hd
    exact hne t h.1 rfl

theorem Unclosing.append {s t : Text} (hs : Unclosing s) (ht : Unclosing t)
    (h : s.getLast? ≠ some '*' ∨ t.head? ≠ some '/') : Unclosing (s ++ t) := by
  refine List.IsChain.append hs ht fun a ha b hb hab => ?_
  rcases h with h | h
  · exact h (hab.1 ▸ ha)
  · exact h (hab.2 ▸ hb)

@[simp] theorem unclosing_commentText (s : Text) : Unclosing (commentText s) := by
  have hwords : ∀ w ∈ Text.words (breakCommentEnds s), Unclosing w := fun w hw =>
    List.IsChain.infix (unclosing_breakCommentEnds s) (Text.mem_words hw).1
  unfold commentText
  generalize Text.words (breakCommentEnds s) = ws at hwords
  fun_induction Text.join [' '] ws with
  | case1 => exact List.isChain_nil
  | case2 w => exact hwords w (by simp)
  | case3 w ws _ ih =>
    have hw : Unclosing (w ++ [' ']) :=
      (hwords w (by simp)).append (List.isChain_singleton _) (.inr (by decide))
    exact hw.append (ih fun v hv => hwords v (by simp [hv])) (.inl (by simp))

end MailFilter.Sieve.Token
