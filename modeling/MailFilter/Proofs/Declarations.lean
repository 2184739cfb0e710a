import MailFilter.Proofs.Reading
import MailFilter.Sieve.Combine
import Mathlib.Data.List.DropRight

/-!
# Lines that declare extensions

Combining scripts drops every line that starts with `require [`, wherever it stands. Strings may
span lines, so such a line can lie inside a string. This module says exactly when that happens: a
text that is read without the word `require` among its tokens has a line of this kind only inside
one of its strings, below the first line of the string; and a text without lines of this kind has
no such string.
-/
namespace MailFilter.Sieve

open Token

theorem trimRight_append {s t : Text} {c : Char} (h : Text.isBlank c = false) :
    Text.trimRight (s ++ c :: t) = s ++ c :: Text.trimRight t := by
  change List.rdropWhile Text.isBlank (s ++ c :: t) = s ++ c :: List.rdropWhile Text.isBlank t
  induction t using List.reverseRecOn with
  | nil => simpa using List.rdropWhile_concat_neg Text.isBlank s c (by simp [h])
  | append_singleton t d ih =>
    have hconcat : s ++ c :: (t ++ [d]) = (s ++ c :: t) ++ [d] := by simp
    rw [hconcat, List.rdropWhile_concat, List.rdropWhile_concat, ih]
    split
    · rfl
    · exact hconcat.symm

/-- Whether a line declares extensions is decided at its first character that is not blank. -/
theorem isRequireLine_iff (l : Text) :
    isRequireLine l = true ↔ "require [".toList <+: l.dropWhile Text.isBlank := by
  have hmark : "require [".toList = "require ".toList ++ '[' :: [] := rfl
  rw [isRequireLine, Text.startsWith, List.isPrefixOf_iff_prefix, Text.trim, Text.trimLeft]
  constructor
  · intro h
    exact h.trans (List.rdropWhile_prefix _ _)
  · rintro ⟨t, ht⟩
    rw [← ht, hmark, List.append_assoc, List.cons_append, List.nil_append,
      trimRight_append (by decide)]
    exact ⟨Text.trimRight t, by simp⟩

@[simp] theorem isRequireLine_nil : isRequireLine [] = false := by decide

@[simp] theorem isRequireLine_blank {c : Char} (h : Text.isBlank c = true) (l : Text) :
    isRequireLine (c :: l) = isRequireLine l := by
  rw [Bool.eq_iff_iff, isRequireLine_iff, isRequireLine_iff, List.dropWhile_cons_of_pos h]

theorem isRequireLine_cons {c : Char} (hb : Text.isBlank c = false) (hr : c ≠ 'r') (l : Text) :
    isRequireLine (c :: l) = false := by
  rw [← Bool.not_eq_true, isRequireLine_iff, List.dropWhile_cons_of_neg (by simp [hb])]
  intro h
  exact hr (List.cons_prefix_cons.1 h).1.symm

/-- A longer line declares extensions if its start does. -/
theorem isRequireLine_append {l : Text} (h : isRequireLine l = true) (t : Text) :
    isRequireLine (l ++ t) = true := by
  rw [isRequireLine_iff] at h ⊢
  have hne : l.dropWhile Text.isBlank ≠ [] := by
    intro hnil
    rw [hnil] at h
    exact absurd h (by decide)
  rw [List.dropWhile_append, if_neg (by simpa using hne)]
  exact h.trans (List.prefix_append _ _)

/-- What follows a quote cannot complete the start of a declaration. -/
theorem isRequireLine_append_quote {l : Text} (h : isRequireLine l = false) (t : Text) :
    isRequireLine (l ++ '"' :: t) = false := by
  induction l with
  | nil => exact isRequireLine_cons (by decide) (by decide) t
  | cons c l ih =>
    cases hc : Text.isBlank c with
    | true =>
      rw [isRequireLine_blank hc] at h
      rw [List.cons_append, isRequireLine_blank hc, ih h]
    | false =>
      rw [← Bool.not_eq_true, isRequireLine_iff, List.dropWhile_cons_of_neg (by simp [hc])] at h
      rw [← Bool.not_eq_true, isRequireLine_iff, List.cons_append,
        List.dropWhile_cons_of_neg (by simp [hc]), ← List.cons_append]
      intro hlong
      rcases List.prefix_or_prefix_of_prefix hlong (List.prefix_append _ _) with hshort | ⟨u, hu⟩
      · exact h hshort
      · have hquote : '"' ∈ "require [".toList := by
          cases u with
          | nil =>
            rw [List.append_nil] at hu
            exact absurd (hu ▸ List.prefix_rfl) h
          | cons d u =>
            rw [← hu, List.prefix_append_right_inj] at hlong
            rw [← hu, (List.cons_prefix_cons.1 hlong).1]
            simp
        exact absurd hquote (by decide)

/-- No line declares extensions. -/
def Undeclaring (s : Text) : Prop := ∀ l ∈ Text.splitOn '\n' s, isRequireLine l = false

/-- Some line of a string other than its first declares extensions. -/
def hidesDeclaration (body : Text) : Bool := (Text.splitOn '\n' body).tail.any isRequireLine

@[simp] theorem undeclaring_nil : Undeclaring [] := by
  intro l hl
  have hnil : l = [] := by simpa [Text.splitOn, Text.splitWhere] using hl
  rw [hnil, isRequireLine_nil]

@[simp] theorem undeclaring_append_newline {s t : Text} :
    Undeclaring (s ++ '\n' :: t) ↔ Undeclaring s ∧ Undeclaring t := by
  simp only [Undeclaring, Text.splitOn_append_cons, List.mem_append, or_imp, forall_and]

/-- Text without a line feed is put in front of the first line. -/
theorem splitOn_append_of_notMem {c : Char} {s : Text} (hs : c ∉ s) (t : Text) :
    ∃ l ls, Text.splitOn c t = l :: ls ∧ Text.splitOn c (s ++ t) = (s ++ l) :: ls := by
  induction s with
  | nil =>
    obtain ⟨l, ls, hl⟩ := List.exists_cons_of_ne_nil (Text.splitOn_ne_nil c t)
    exact ⟨l, ls, hl, hl⟩
  | cons d s ih =>
    rw [List.mem_cons, not_or] at hs
    obtain ⟨l, ls, ht, hst⟩ := ih hs.2
    have hd : (d == c) = false := by simpa using Ne.symm hs.1
    obtain ⟨w, ws, hw, hcons⟩ := Text.splitWhere_cons_neg (p := (· == c)) hd (s ++ t)
    rw [Text.splitOn] at hst
    rw [hst, List.cons.injEq] at hw
    obtain ⟨rfl, rfl⟩ := hw
    exact ⟨l, ls, ht, hcons⟩

theorem Undeclaring.append {s t : Text} (hs : '\n' ∉ s) (ht : Undeclaring t)
    (hfirst : ∀ l, isRequireLine (s ++ l) = false) : Undeclaring (s ++ t) := by
  obtain ⟨l, ls, hl, hst⟩ := splitOn_append_of_notMem hs t
  intro m hm
  rw [hst] at hm
  rcases List.mem_cons.1 hm with rfl | hm
  · exact hfirst l
  · exact ht m (by simp [hl, hm])

theorem newline_notMem_of_mem_splitOn {s l : Text} (h : l ∈ Text.splitOn '\n' s) : '\n' ∉ l :=
  fun hn => by simpa using Text.not_of_mem_splitWhere h '\n' hn

/-- The lines of a string stay as they are inside a script, except that the last one goes on
behind the closing quote. -/
theorem undeclaring_join_quote {ls : List Text} {t : Text} (hne : ls ≠ [])
    (hls : ∀ l ∈ ls, '\n' ∉ l ∧ isRequireLine l = false) (ht : Undeclaring t) :
    Undeclaring (Text.join ['\n'] ls ++ '"' :: t) := by
  induction ls with
  | nil => exact absurd rfl hne
  | cons l ls ih =>
    have hl := hls l (by simp)
    by_cases hnil : ls = []
    · subst hnil
      have hfeed : '\n' ∉ l ++ ['"'] := by simp [hl.1]
      have hfirst : ∀ m, isRequireLine (l ++ ['"'] ++ m) = false := by
        intro m
        simpa using isRequireLine_append_quote hl.2 m
      simpa [Text.join] using Undeclaring.append hfeed ht hfirst
    · rw [Text.join_cons hnil, List.append_assoc, List.append_assoc, List.singleton_append,
        undeclaring_append_newline]
      have hsplit : Text.splitOn '\n' l = [l] := Text.splitOn_of_not_mem hl.1
      exact ⟨by simpa [Undeclaring, hsplit] using hl.2,
        ih hnil fun m hm => hls m (by simp [hm])⟩

theorem undeclaring_string {b t : Text} (hb : hidesDeclaration b = false) (ht : Undeclaring t) :
    Undeclaring ('"' :: (b ++ '"' :: t)) := by
  obtain ⟨l, ls, hsplit⟩ := List.exists_cons_of_ne_nil (Text.splitOn_ne_nil '\n' b)
  have hjoin : Text.join ['\n'] (l :: ls) = b := by rw [← hsplit, Text.join_splitOn]
  have hl : '\n' ∉ l := newline_notMem_of_mem_splitOn (by rw [hsplit]; simp)
  have hopen : ∀ m, isRequireLine ('"' :: m) = false :=
    isRequireLine_cons (by decide) (by decide)
  by_cases hnil : ls = []
  · subst hnil
    have hfeed : '\n' ∉ '"' :: l ++ ['"'] := by simp [hl]
    rw [← hjoin]
    simpa [Text.join] using Undeclaring.append hfeed ht fun m => hopen _
  · have hlines : ∀ m ∈ ls, '\n' ∉ m ∧ isRequireLine m = false := by
      intro m hm
      refine ⟨newline_notMem_of_mem_splitOn (by rw [hsplit]; simp [hm]), ?_⟩
      have hany : ls.any isRequireLine = false := by simpa [hidesDeclaration, hsplit] using hb
      exact List.any_eq_false.1 hany m hm |> Bool.eq_false_iff.2
    have hfirst : Undeclaring ('"' :: l) := by
      have hline : '\n' ∉ '"' :: l := by simp [hl]
      simpa [Undeclaring, hline] using hopen l
    rw [← hjoin, Text.join_cons hnil]
    simpa using undeclaring_append_newline.2 ⟨hfirst, undeclaring_join_quote hnil hlines ht⟩

theorem stringBody?_eq {s b t : Text} (h : stringBody? s = some (b, t)) : s = b ++ '"' :: t := by
  fun_induction stringBody? s generalizing b with
  | case1 => simp at h
  | case2 s => simp at h; simp [h]
  | case3 => simp at h
  | case4 c s ih =>
    obtain ⟨⟨b', t'⟩, hb, he⟩ := Option.map_eq_some_iff.1 h
    obtain ⟨rfl, rfl⟩ := Prod.mk.inj he
    simpa using ih hb
  | case5 c s _ _ _ ih =>
    obtain ⟨⟨b', t'⟩, hb, he⟩ := Option.map_eq_some_iff.1 h
    obtain ⟨rfl, rfl⟩ := Prod.mk.inj he
    simpa using ih hb

@[simp] theorem wordRest_eq (s : Text) : (wordRest s).1 ++ (wordRest s).2 = s := by
  induction s with
  | nil => rfl
  | cons c s ih =>
    unfold wordRest
    split
    · rfl
    · simpa using ih

theorem endsWord_of_mem_wordRest {s : Text} : ∀ c ∈ (wordRest s).1, endsWord c = false := by
  induction s with
  | nil => simp [wordRest]
  | cons c s ih =>
    unfold wordRest
    split
    · simp
    next hc =>
      intro d hd
      rcases List.mem_cons.1 hd with rfl | hd
      · simp only [Bool.or_eq_true, not_or] at hc
        simpa using hc.1
      · exact ih d hd

/-- What comes after a word is nothing, a character that ends words or a slash. -/
theorem head_wordRest {s : Text} : ∀ c ∈ (wordRest s).2.head?, endsWord c = true ∨ c = '/' := by
  induction s with
  | nil => simp [wordRest]
  | cons c s ih =>
    unfold wordRest
    split
    next hc =>
      intro d hd
      obtain rfl : c = d := by simpa using hd
      simp only [Bool.or_eq_true, Bool.and_eq_true, beq_iff_eq] at hc
      exact hc.imp id And.left
    · exact ih

theorem isBlank_eq_false_of_endsWord {c : Char} (h : endsWord c = false) :
    Text.isBlank c = false := by
  by_contra hb
  simp [endsWord_of_isBlank (by simpa using hb)] at h

/-- A word that starts a declaring line is the word `require`. -/
theorem eq_require_of_isRequireLine {w l : Text} (hw : w ≠ [])
    (hchars : ∀ c ∈ w, endsWord c = false) (hl : ∀ c ∈ l.head?, endsWord c = true ∨ c = '/')
    (h : isRequireLine (w ++ l) = true) : w = "require".toList := by
  have hmark : "require [".toList = "require".toList ++ " [".toList := rfl
  have hdrop : (w ++ l).dropWhile Text.isBlank = w ++ l := by
    obtain ⟨c, v, rfl⟩ := List.exists_cons_of_ne_nil hw
    have hc := isBlank_eq_false_of_endsWord (hchars c (by simp))
    simp [hc]
  rw [isRequireLine_iff, hdrop, hmark] at h
  rcases List.prefix_or_prefix_of_prefix ((List.prefix_append _ _).trans h)
    (List.prefix_append w l) with ⟨u, hu⟩ | ⟨u, hu⟩
  · cases u with
    | nil => simpa using hu.symm
    | cons d u =>
      -- the word would go on with the blank of the mark
      rw [← hu, List.append_assoc, List.prefix_append_right_inj] at h
      have hd : ' ' = d := (List.cons_prefix_cons.1 h).1
      have hends := hchars d (by rw [← hu]; simp)
      exact absurd hends (by rw [← hd]; decide)
  · cases u with
    | nil => simpa using hu
    | cons d u =>
      -- the word would break off inside the mark
      rw [← hu, List.append_assoc, List.prefix_append_right_inj] at h
      obtain ⟨m, rfl⟩ : ∃ m, l = d :: m := by
        obtain ⟨v, hv⟩ := h
        exact ⟨_, hv.symm⟩
      have hkeyword : IsKeyword "require".toList := by decide
      have hd := hkeyword.of_mem d (by rw [← hu]; simp)
      rcases hl d (by simp) with hends | hslash
      · simp [hd.1] at hends
      · exact absurd hslash hd.2

/-- A text that is read without the word `require` has a declaring line only inside a string. -/
theorem undeclaring_of_reads {s r : Text} {ts : List Token} (h : Reads s ts r)
    (hword : word "require".toList ∉ ts)
    (hstrings : ∀ b, string b ∈ ts → hidesDeclaration b = false) (hr : Undeclaring r) :
    Undeclaring s := by
  induction h with
  | done => exact hr
  | @blank c s _ _ hc _ ih =>
    have hs := ih hword hstrings hr
    by_cases hfeed : c = '\n'
    · subst hfeed
      exact undeclaring_append_newline.2 ⟨undeclaring_nil, hs⟩
    · obtain ⟨l, ls, hl, hcons⟩ :=
        splitOn_append_of_notMem (s := [c]) (by simpa using Ne.symm hfeed) s
      intro m hm
      rw [← List.singleton_append, hcons] at hm
      rcases List.mem_cons.1 hm with rfl | hm
      · rw [List.singleton_append, isRequireLine_blank hc]
        exact hs l (by simp [hl])
      · exact hs m (by simp [hl, hm])
  | @hash s _ _ _ ih =>
    have hfeed : '\n' ∉ '#' :: s.takeWhile (· != '\n') := by
      intro hn
      rcases List.mem_cons.1 hn with hn | hn
      · exact absurd hn (by decide)
      · simpa using List.mem_takeWhile_imp hn
    rw [← List.takeWhile_append_dropWhile (p := (· != '\n')) (l := s), ← List.cons_append]
    exact (ih hword hstrings hr).append hfeed fun l => isRequireLine_cons (by decide) (by decide) _
  | @comment s t _ _ hn _ _ ih =>
    have hfeed : '\n' ∉ '/' :: '*' :: (s ++ ['*', '/']) := by simp [hn]
    have hlines := (ih hword hstrings hr).append hfeed
      fun l => isRequireLine_cons (by decide) (by decide) _
    simpa using hlines
  | string hb _ ih =>
    rw [stringBody?_eq hb]
    simp only [List.mem_cons, not_or] at hword
    exact undeclaring_string (hstrings _ (by simp))
      (ih hword.2 (fun b hb => hstrings b (by simp [hb])) hr)
  | @punctuation c s _ _ hc _ ih =>
    obtain ⟨hblank, -, -, -, hletter⟩ := isPunctuation_cases hc
    simp only [List.mem_cons, not_or] at hword
    have hfeed : '\n' ∉ [c] := by
      intro hn
      rw [← List.mem_singleton.1 hn] at hblank
      exact absurd hblank (by decide)
    exact (ih hword.2 (fun b hb => hstrings b (by simp [hb])) hr).append hfeed
      fun l => isRequireLine_cons hblank hletter _
  | @word c s _ _ hc _ _ ih =>
    simp only [List.mem_cons, not_or] at hword
    have hrest := ih hword.2 (fun b hb => hstrings b (by simp [hb])) hr
    have hchars : ∀ d ∈ c :: (wordRest s).1, endsWord d = false := by
      intro d hd
      rcases List.mem_cons.1 hd with rfl | hd
      · exact hc
      · exact endsWord_of_mem_wordRest d hd
    have hfeed : '\n' ∉ c :: (wordRest s).1 := fun hn =>
      absurd (isBlank_eq_false_of_endsWord (hchars _ hn)) (by decide)
    obtain ⟨l, ls, hl, hcons⟩ := splitOn_append_of_notMem hfeed (wordRest s).2
    have hhead : ∀ d ∈ l.head?, endsWord d = true ∨ d = '/' := by
      intro d hd
      obtain ⟨m, rfl⟩ := List.head?_eq_some_iff.1 hd
      obtain ⟨t, ht⟩ := (Text.splitWhere_parts hl).1
      exact head_wordRest d (by rw [← ht]; rfl)
    intro m hm
    rw [← wordRest_eq s, ← List.cons_append, hcons] at hm
    rcases List.mem_cons.1 hm with rfl | hm
    · by_contra hline
      have heq := eq_require_of_isRequireLine (by simp) hchars hhead (by simpa using hline)
      exact hword.1 (by rw [heq])
    · exact hrest m (by simp [hl, hm])

theorem map_eq_ok {ε α β : Type*} {x : Except ε α} {f : α → β} {b : β} (h : x.map f = .ok b) :
    ∃ a, x = .ok a ∧ f a = b := by
  cases x with
  | error e => cases h
  | ok a => exact ⟨a, rfl, Except.ok.inj h⟩

theorem suffix_of_afterComment? {s t : Text} (h : afterComment? s = some t) : t <:+ s := by
  fun_induction afterComment? s with
  | case1 => cases h
  | case2 s =>
    obtain rfl := Option.some.inj h
    exact (List.suffix_cons _ _).trans (List.suffix_cons _ _)
  | case3 c s _ ih => exact (ih h).trans (List.suffix_cons _ _)

/-- Every string token stands in the text between its quotes. -/
theorem infix_of_mem_scan {s b : Text} {ts : List Token} (h : scan s = .ok ts)
    (hb : string b ∈ ts) : '"' :: b ++ ['"'] <:+: s := by
  fun_induction scan s generalizing ts with
  | case1 => simp [← Except.ok.inj h] at hb
  | case2 c s _ ih => exact List.infix_cons (ih h hb)
  | case3 c s _ _ ih => exact List.infix_cons ((ih h hb).trans (List.dropWhile_suffix _).isInfix)
  | case4 => simp at h
  | case5 c s _ _ _ r hr ih =>
    have hsuffix := (suffix_of_afterComment? hr).trans (List.drop_suffix 1 s)
    exact List.infix_cons ((ih h hb).trans hsuffix.isInfix)
  | case6 => simp at h
  | case7 c s _ _ _ hq body r hr ih =>
    obtain ⟨us, hus, rfl⟩ := map_eq_ok h
    obtain rfl : c = '"' := by simpa using hq
    have htext := stringBody?_eq hr
    rcases List.mem_cons.1 hb with heq | hb
    · obtain rfl := Token.string.inj heq
      exact ⟨[], r, by simp [htext]⟩
    · have hsuffix : r <:+ s := ⟨body ++ ['"'], by simp [htext]⟩
      exact List.infix_cons ((ih hus hb).trans hsuffix.isInfix)
  | case8 c s _ _ _ _ _ ih =>
    obtain ⟨us, hus, rfl⟩ := map_eq_ok h
    exact List.infix_cons (ih hus (by simpa using hb))
  | case9 c s _ _ _ _ _ ih =>
    obtain ⟨us, hus, rfl⟩ := map_eq_ok h
    have hsuffix : (wordRest s).2 <:+ s := ⟨(wordRest s).1, wordRest_eq s⟩
    exact List.infix_cons ((ih hus (by simpa using hb)).trans hsuffix.isInfix)

theorem isRequireLine_of_undeclaring_join {ls : List Text} {t : Text}
    (hls : ∀ l ∈ ls, '\n' ∉ l) (h : Undeclaring (Text.join ['\n'] ls ++ t)) :
    ∀ l ∈ ls, isRequireLine l = false := by
  induction ls with
  | nil => simp
  | cons l ls ih =>
    have hl := hls l (by simp)
    by_cases hnil : ls = []
    · subst hnil
      obtain ⟨m, ms, -, hcons⟩ := splitOn_append_of_notMem hl t
      have hfirst : isRequireLine (l ++ m) = false := h (l ++ m) (by simp [Text.join, hcons])
      intro k hk
      obtain rfl : k = l := by simpa using hk
      by_contra hline
      simp [isRequireLine_append (by simpa using hline) m] at hfirst
    · rw [Text.join_cons hnil, List.append_assoc, List.append_assoc, List.singleton_append,
        undeclaring_append_newline] at h
      intro k hk
      rcases List.mem_cons.1 hk with rfl | hk
      · exact h.1 k (by simp [hl])
      · exact ih (fun m hm => hls m (by simp [hm])) h.2 k hk

/-- The lines of a string below its first are starts of lines of the script. -/
theorem not_hidesDeclaration_of_infix {s b : Text} (hs : Undeclaring s) (hb : b <:+: s) :
    hidesDeclaration b = false := by
  obtain ⟨p, t, rfl⟩ := hb
  obtain ⟨l, ls, hsplit⟩ := List.exists_cons_of_ne_nil (Text.splitOn_ne_nil '\n' b)
  have hjoin : Text.join ['\n'] (l :: ls) = b := by rw [← hsplit, Text.join_splitOn]
  have hfeed : ∀ m ∈ ls, '\n' ∉ m := fun m hm =>
    newline_notMem_of_mem_splitOn (by rw [hsplit]; simp [hm])
  rw [hidesDeclaration, hsplit, List.tail_cons, List.any_eq_false]
  by_cases hnil : ls = []
  · simp [hnil]
  · rw [← hjoin, Text.join_cons hnil, List.append_assoc, List.append_assoc, List.append_assoc,
      List.singleton_append, ← List.append_assoc, undeclaring_append_newline] at hs
    intro m hm
    simpa using isRequireLine_of_undeclaring_join hfeed hs.2 m hm

end MailFilter.Sieve
