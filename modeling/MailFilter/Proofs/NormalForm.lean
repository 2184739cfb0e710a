import MailFilter.Proofs.Splicing
import MailFilter.Sieve.Check

/-!
# Token lists as a normal form

The tokens of a script are well formed: single punctuation characters, complete strings and words
that nothing ends early. Well-formed tokens can be written down with a space between neighbours and
are read again as they were, and it makes no difference when blanks, remarks or comments are put
into the spaces. Whatever is computed from the tokens, the verdict on a script above all, therefore
does not depend on how the script is laid out.
-/
namespace MailFilter.Sieve

namespace Token

/-! ## Well-formed tokens -/

/-- The inside of a string: a backslash takes the character behind it along, and no other character
is a quote. The first quote that can end the string is then the one behind it. -/
inductive IsBody : Text → Prop
  | nil : IsBody []
  | escape (c : Char) {b : Text} : IsBody b → IsBody ('\\' :: c :: b)
  | plain {c : Char} {b : Text} : c ≠ '"' → c ≠ '\\' → IsBody b → IsBody (c :: b)

/-- A bracket comment starts nowhere in the text. -/
def Uncommented (s : Text) : Prop := s.IsChain fun a b => ¬(a = '/' ∧ b = '*')

structure IsWord (w : Text) : Prop where
  ne_nil : w ≠ []
  chars : ∀ c ∈ w, Text.isBlank c = false ∧ isPunctuation c = false ∧ c ≠ '"' ∧ c ≠ '#'
  uncommented : Uncommented w

def WellFormed : Token → Prop
  | punctuation c => isPunctuation c = true
  | string body => IsBody body
  | word w => IsWord w

theorem endsWord_eq_false_iff {c : Char} :
    endsWord c = false ↔
      Text.isBlank c = false ∧ isPunctuation c = false ∧ c ≠ '"' ∧ c ≠ '#' := by
  simp [endsWord, and_assoc]

theorem isBody_of_stringBody? {s b r : Text} (h : stringBody? s = some (b, r)) : IsBody b :=
  stringBody?_induction (motive := fun _ b _ => IsBody b) (fun _ => .nil)
    (fun c _ _ _ hb => .escape c hb) (fun _ _ _ _ hquote hslash hb => .plain hquote hslash hb) h

/-- What is read of a word, behind a first character that belongs to it. -/
theorem isWord_wordRest {c : Char} {s : Text} (hc : endsWord c = false)
    (hs : ¬(c = '/' ∧ s.head? = some '*')) : IsWord (c :: (wordRest s).1) := by
  induction s generalizing c with
  | nil =>
    refine ⟨by simp, fun d hd => ?_, List.isChain_singleton c⟩
    obtain rfl : d = c := by simpa [wordRest] using hd
    exact endsWord_eq_false_iff.1 hc
  | cons d s ih =>
    rw [wordRest]
    split
    next => exact ⟨by simp, by simpa using endsWord_eq_false_iff.1 hc, List.isChain_singleton c⟩
    next hd =>
      simp only [Bool.or_eq_true, Bool.and_eq_true, beq_iff_eq, not_or, Bool.not_eq_true] at hd
      have hrest := ih hd.1 hd.2
      have hchain : Uncommented (c :: d :: (wordRest s).1) :=
        List.isChain_cons_cons.2 ⟨by simpa using hs, hrest.uncommented⟩
      refine ⟨by simp, fun x hx => ?_, hchain⟩
      rcases List.mem_cons.1 hx with rfl | hx
      · exact endsWord_eq_false_iff.1 hc
      · exact hrest.chars x hx

/-- Only well-formed tokens are read. -/
theorem wellFormed_of_scan {s : Text} {ts : List Token} (h : scan s = .ok ts) :
    ∀ t ∈ ts, t.WellFormed := by
  fun_induction scan s generalizing ts with
  | case1 =>
    obtain rfl := Except.ok.inj h
    simp
  | case2 c s hc ih => exact ih h
  | case3 c s _ hc ih => exact ih h
  | case4 => cases h
  | case5 c s _ _ hc r hr ih => exact ih h
  | case6 => cases h
  | case7 c s _ _ _ hc b r hr ih =>
    obtain ⟨us, hus, rfl⟩ := map_eq_ok h
    exact List.forall_mem_cons.2 ⟨isBody_of_stringBody? hr, ih hus⟩
  | case8 c s _ _ _ _ hc ih =>
    obtain ⟨us, hus, rfl⟩ := map_eq_ok h
    exact List.forall_mem_cons.2 ⟨hc, ih hus⟩
  | case9 c s hblank hhash hcomment hquote hmark ih =>
    obtain ⟨us, hus, rfl⟩ := map_eq_ok h
    have hc : endsWord c = false := by
      simp only [Bool.not_eq_true] at hblank hhash hquote hmark
      simp [endsWord, hblank, hhash, hquote, hmark]
    exact List.forall_mem_cons.2 ⟨isWord_wordRest hc (by simpa using hcomment), ih hus⟩

/-! ## Reading a token that is written down -/

theorem stringBody?_of_isBody {b : Text} (h : IsBody b) (r : Text) :
    stringBody? (b ++ '"' :: r) = some (b, r) := by
  induction h with
  | nil => rfl
  | escape c _ ih =>
    rw [List.cons_append, List.cons_append, stringBody?, ih]
    rfl
  | plain hquote hslash _ ih =>
    rw [List.cons_append, stringBody?_plain hquote hslash, ih]
    rfl

/-- No word runs on into the text. -/
def StopsWords (r : Text) : Prop := ∀ c ∈ r.head?, endsWord c = true

theorem wordRest_eq_of_stopsWords {r : Text} (h : StopsWords r) : wordRest r = ([], r) := by
  cases r with
  | nil => rfl
  | cons c r => rw [wordRest, if_pos (by simp [h c rfl])]

/-- No bracket comment starts in a word or where it ends. -/
theorem IsWord.not_comment {c : Char} {w r : Text} (hw : IsWord (c :: w)) (hr : StopsWords r) :
    ¬(c = '/' ∧ (w ++ r).head? = some '*') := by
  rintro ⟨rfl, hstar⟩
  cases w with
  | nil => exact absurd (hr '*' hstar) (by decide)
  | cons d w =>
    obtain rfl : d = '*' := by simpa using hstar
    exact (List.isChain_cons_cons.1 hw.uncommented).1 ⟨rfl, rfl⟩

theorem IsWord.endsWord_head {c : Char} {w : Text} (hw : IsWord (c :: w)) : endsWord c = false :=
  endsWord_eq_false_iff.2 (hw.chars c (by simp))

theorem IsWord.wordRest_append {c : Char} {w r : Text} (hw : IsWord (c :: w))
    (hr : StopsWords r) : wordRest (w ++ r) = (w, r) := by
  induction w generalizing c with
  | nil => exact wordRest_eq_of_stopsWords hr
  | cons d w ih =>
    have htail : IsWord (d :: w) :=
      ⟨by simp, fun x hx => hw.chars x (List.mem_cons_of_mem c hx), hw.uncommented.tail⟩
    have hd := htail.endsWord_head
    have hslash := htail.not_comment hr
    rw [List.cons_append, wordRest, if_neg (by simpa [hd] using hslash), ih htail]

/-- A well-formed token is read off the front of a text, unless a word could run on. -/
theorem scan_text_append {t : Token} (ht : t.WellFormed) {r : Text} (hr : StopsWords r) :
    scan (t.text ++ r) = (scan r).map (t :: ·) := by
  cases t with
  | punctuation c => exact scan_punctuation ht r
  | string b =>
    have hbody := stringBody?_of_isBody ht r
    rw [text, List.cons_append, List.cons_append, List.append_assoc, List.singleton_append,
      scan_string hbody]
  | word w =>
    have hword : IsWord w := ht
    obtain ⟨c, v, rfl⟩ := List.exists_cons_of_ne_nil hword.ne_nil
    rw [text, List.cons_append, scan_word hword.endsWord_head (hword.not_comment hr),
      hword.wordRest_append hr]

/-! ## Layouts -/

instance (s : Text) : Decidable (Unclosing s) := inferInstanceAs (Decidable (s.IsChain _))

/-- Text without tokens that may stand between two tokens: blanks, a line behind a hash sign, or a
bracket comment. -/
inductive Filler where
  | blanks (s : Text) (h : Text.allBlank s = true)
  | remark (s : Text) (h : '\n' ∉ s)
  | comment (s : Text) (h : Unclosing s)

def Filler.text : Filler → Text
  | blanks s _ => s
  | remark s _ => '#' :: s ++ ['\n']
  | comment s _ => "/*".toList ++ s ++ "*/".toList

/-- Fillers between two tokens, with a space around each of them. -/
def gap (fs : List Filler) : Text := ' ' :: fs.flatMap (·.text ++ [' '])

/-- The tokens one after the other with gaps between them. A gap that is not given is a space. -/
def layout : List Token → List (List Filler) → Text
  | [], _ => []
  | [t], _ => t.text
  | t :: u :: ts, gaps => t.text ++ gap (gaps.headD []) ++ layout (u :: ts) gaps.tail

@[simp] theorem layout_nil (ts : List Token) : layout ts [] = Text.join [' '] (ts.map text) := by
  induction ts with
  | nil => rfl
  | cons t ts ih =>
    cases ts with
    | nil => rfl
    | cons u ts =>
      rw [layout, List.tail_nil, ih]
      simp [gap, Text.join]

@[simp] theorem scan_filler (f : Filler) (r : Text) : scan (f.text ++ r) = scan r := by
  cases f with
  | blanks s h => rw [Filler.text, (writes_blank h r).scan_eq, map_nil_append]
  | remark s h =>
    have hline : WritesLine ('#' :: s) [] := writesLine_remark rfl (by simpa using h)
    rw [Filler.text, List.append_assoc, List.singleton_append, (hline r).scan_eq, map_nil_append]
  | comment s h => simpa [Filler.text] using scan_comment (afterComment?_append h r)

@[simp] theorem scan_gap (fs : List Filler) (r : Text) : scan (gap fs ++ r) = scan r := by
  rw [gap, List.cons_append, scan_blank (by decide)]
  induction fs with
  | nil => rfl
  | cons f fs ih =>
    rw [List.flatMap_cons, List.append_assoc, List.append_assoc, scan_filler, List.singleton_append,
      scan_blank (by decide), ih]

theorem stopsWords_gap (fs : List Filler) (r : Text) : StopsWords (gap fs ++ r) := by
  intro c hc
  obtain rfl : ' ' = c := by simpa [gap] using hc
  decide

/-- Well-formed tokens are read again as they were, however they are laid out. -/
theorem scan_layout {ts : List Token} (hts : ∀ t ∈ ts, t.WellFormed) (gaps : List (List Filler)) :
    scan (layout ts gaps) = .ok ts := by
  induction ts generalizing gaps with
  | nil => simp [layout]
  | cons t ts ih =>
    obtain ⟨ht, hts⟩ := List.forall_mem_cons.1 hts
    cases ts with
    | nil =>
      have hread := scan_text_append ht (r := []) (by simp [StopsWords])
      rwa [List.append_nil, scan_nil] at hread
    | cons u ts =>
      simp [layout, scan_text_append ht (stopsWords_gap _ _), ih hts, Except.map]

end Token

open Token

theorem problems_eq_of_scan {s : Text} {ts : List Token} (h : scan s = .ok ts) :
    problems s = Token.problems ts := by
  rw [problems, h]

theorem countIfs_eq_of_scan {s : Text} {ts : List Token} (h : scan s = .ok ts) :
    countIfs s = .ok (Token.countIfs ts) := by
  rw [countIfs, h]
  rfl

/-- The tokens of a script are a normal form of it: each of them is well formed, and every layout of
them, the plain one with single spaces included, is read as the same tokens again. Two scripts with
the same tokens have the same problems and the same number of `if` commands. -/
theorem scan_eq_ok_layout {s : Text} {ts : List Token} (h : scan s = .ok ts) :
    (∀ t ∈ ts, t.WellFormed) ∧
      scan (Text.join [' '] (ts.map Token.text)) = .ok ts ∧
      (∀ gaps, scan (layout ts gaps) = .ok ts ∧ problems (layout ts gaps) = problems s) ∧
      ∀ s', scan s' = .ok ts → problems s' = problems s ∧ countIfs s' = countIfs s := by
  have hformed := wellFormed_of_scan h
  have hsame {s' : Text} (h' : scan s' = .ok ts) :
      problems s' = problems s ∧ countIfs s' = countIfs s :=
    ⟨(problems_eq_of_scan h').trans (problems_eq_of_scan h).symm,
      (countIfs_eq_of_scan h').trans (countIfs_eq_of_scan h).symm⟩
  refine ⟨hformed, ?_, fun gaps => ?_, fun s' h' => hsame h'⟩
  · rw [← layout_nil]
    exact scan_layout hformed []
  · have hread := scan_layout hformed gaps
    exact ⟨hread, (hsame hread).1⟩

/-- A script without a space too many: words that end in a slash or start like the end of a comment,
a string with an escaped quote and a comment mark, and a comment at the end of a word. -/
def tightScript : Text := "a/\"b\\\"/*\";*/c#d\n\\[e/* f */]".toList

def tightTokens : List Token :=
  [word "a/".toList, string "b\\\"/*".toList, punctuation ';', word "*/c".toList,
    word "\\".toList, punctuation '[', word "e".toList, punctuation ']']

theorem scan_eq_ok_layout_tightScript :
    let gaps : List (List Filler) :=
      [[.comment "\"* \n".toList (by decide), .remark "/* \"".toList (by decide)], [],
        [.blanks "\t\r\n".toList (by decide)]]
    scan tightScript = .ok tightTokens ∧ scan (layout tightTokens gaps) = .ok tightTokens ∧
      problems (layout tightTokens gaps) = problems tightScript := by
  intro gaps
  have hscan : scan tightScript = .ok tightTokens := by decide +kernel
  exact ⟨hscan, (scan_eq_ok_layout hscan).2.2.1 gaps⟩

end MailFilter.Sieve
