import MailFilter.Proofs.Combination

/-!
# Reading across line ends

Reading starts afresh behind a line feed: a text that is read to its end and ends with a line feed
contributes its own tokens and nothing else, whatever is put behind it, and a fault behind it is met
at its place in the whole. Combined scripts are made of portions that end in this way, so a portion
without tokens can be put between two others, or taken away, and nobody who reads the script will
notice. The portion of a filter that is switched off is one, whatever its strings contain.
-/
namespace MailFilter.Sieve

namespace Token

/-- The text is empty or ends with a line feed. -/
def EndsLine (s : Text) : Prop := ∀ c ∈ s.getLast?, c = '\n'

@[simp] theorem endsLine_nil : EndsLine [] := by simp [EndsLine]

@[simp] theorem endsLine_concat (s : Text) : EndsLine (s ++ ['\n']) := by simp [EndsLine]

/-- What is left of a text ends as the text does. -/
theorem EndsLine.suffix {s t : Text} (h : EndsLine s) (ht : t <:+ s) : EndsLine t := by
  obtain ⟨u, rfl⟩ := ht
  intro c hc
  refine h c ?_
  rw [List.getLast?_append, Option.mem_def.1 hc]
  rfl

/-- Behind any other first character there is a line feed. -/
theorem EndsLine.newline_mem {c : Char} {s : Text} (h : EndsLine (c :: s)) (hc : c ≠ '\n') :
    '\n' ∈ s := by
  cases s with
  | nil => exact absurd (h c rfl) hc
  | cons d s =>
    have hlast := h ((d :: s).getLast (by simp)) (by simp [List.getLast?_eq_getLast_of_ne_nil])
    rw [← hlast]
    exact List.getLast_mem _

theorem afterComment?_append_right {s r : Text} (h : afterComment? s = some r) (b : Text) :
    afterComment? (s ++ b) = some (r ++ b) := by
  fun_induction afterComment? s with
  | case1 => cases h
  | case2 s =>
    obtain rfl := Option.some.inj h
    rfl
  | case3 c s hne ih =>
    rw [List.cons_append, afterComment?]
    · exact ih h
    · intro t hc hs
      cases s with
      | nil => simp [afterComment?] at h
      | cons d s => exact hne s hc (by rw [(List.cons.inj hs).1])

/-- A character is no backslash if it is neither one at the end nor one with a character behind. -/
theorem ne_backslash {c : Char} {s : Text} (hlast : c = '\\' → s = [] → False)
    (hslash : ∀ d u, c = '\\' → s = d :: u → False) : c ≠ '\\' := by
  rintro rfl
  cases s with
  | nil => exact hlast rfl rfl
  | cons d u => exact hslash d u rfl rfl

/-- Along a string that is read to its closing quote, every step is the quote, an escape or a plain
character. -/
theorem stringBody?_induction {motive : Text → Text → Text → Prop}
    (close : ∀ r, motive ('"' :: r) [] r)
    (escape : ∀ c s x r, motive s x r → motive ('\\' :: c :: s) ('\\' :: c :: x) r)
    (plain : ∀ c s x r, c ≠ '"' → c ≠ '\\' → motive s x r → motive (c :: s) (c :: x) r)
    {s x r : Text} (h : stringBody? s = some (x, r)) : motive s x r := by
  fun_induction stringBody? s generalizing x with
  | case1 => cases h
  | case2 s =>
    obtain ⟨rfl, rfl⟩ := Prod.mk.inj (Option.some.inj h)
    exact close s
  | case3 => cases h
  | case4 c s ih =>
    obtain ⟨⟨y, t⟩, hy, heq⟩ := Option.map_eq_some_iff.1 h
    obtain ⟨rfl, rfl⟩ := Prod.mk.inj heq
    exact escape c s y t (ih hy)
  | case5 c s hquote hlast hslash ih =>
    obtain ⟨⟨y, t⟩, hy, heq⟩ := Option.map_eq_some_iff.1 h
    obtain ⟨rfl, rfl⟩ := Prod.mk.inj heq
    exact plain c s y t hquote (ne_backslash hlast hslash) (ih hy)

@[simp] theorem stringBody?_plain {c : Char} (hquote : c ≠ '"') (hslash : c ≠ '\\') (s : Text) :
    stringBody? (c :: s) = (stringBody? s).map fun p => (c :: p.1, p.2) :=
  stringBody?.eq_5 c s hquote (fun h _ => hslash h) (fun _ _ h _ => hslash h)

theorem stringBody?_append_right {s x r : Text} (h : stringBody? s = some (x, r)) (b : Text) :
    stringBody? (s ++ b) = some (x, r ++ b) := by
  refine stringBody?_induction (motive := fun s x r => stringBody? (s ++ b) = some (x, r ++ b))
    ?_ ?_ ?_ h
  · intro r
    rfl
  · intro c s x r ih
    rw [List.cons_append, List.cons_append, stringBody?, ih]
    rfl
  · intro c s x r hquote hslash ih
    rw [List.cons_append, stringBody?_plain hquote hslash, ih]
    rfl

/-- A word that ends inside a text ends at the same place in every longer one. -/
theorem wordRest_append_right {s : Text} (h : ∃ c ∈ s, endsWord c = true) (b : Text) :
    wordRest (s ++ b) = ((wordRest s).1, (wordRest s).2 ++ b) := by
  induction s with
  | nil => simp at h
  | cons c s ih =>
    cases hc : endsWord c with
    | true => simp [wordRest, hc]
    | false =>
      have hs : ∃ d ∈ s, endsWord d = true := by simpa [hc] using h
      have hhead : (s ++ b).head? = s.head? := by
        obtain ⟨d, hd, -⟩ := hs
        exact List.head?_append_of_ne_nil s (List.ne_nil_of_mem hd)
      rw [List.cons_append, wordRest, wordRest, hhead, ih hs]
      split
      · rfl
      · rfl

@[simp] theorem scan_nil : scan [] = .ok [] := by rw [scan]

theorem map_nil_append (x : Except Unterminated (List Token)) : x.map ([] ++ ·) = x := by
  cases x <;> rfl

/-- Reading a text that ends with a line feed says all about it: what is put behind it is read as
if it stood alone. -/
theorem scan_append {a : Text} {ts : List Token} (h : scan a = .ok ts) (ha : EndsLine a)
    (b : Text) : scan (a ++ b) = (scan b).map (ts ++ ·) := by
  have hmap (t : Token) (us : List Token) :
      ((scan b).map (us ++ ·)).map (t :: ·) = (scan b).map (t :: us ++ ·) := by
    cases scan b <;> rfl
  fun_induction scan a generalizing ts with
  | case1 =>
    obtain rfl := Except.ok.inj h
    rw [List.nil_append, map_nil_append]
  | case2 c s hc ih =>
    rw [List.cons_append, scan_blank hc]
    exact ih h (ha.suffix (List.suffix_cons _ _))
  | case3 c s _ hc ih =>
    obtain rfl : c = '#' := by simpa using hc
    have hdrop : (s ++ b).dropWhile (· != '\n') = s.dropWhile (· != '\n') ++ b := by
      have hfeed := ha.newline_mem (by decide)
      rw [List.dropWhile_append, if_neg]
      simpa using hfeed
    rw [List.cons_append, scan_hash, hdrop]
    exact ih h (ha.suffix ((List.dropWhile_suffix _).trans (List.suffix_cons _ _)))
  | case4 => cases h
  | case5 c s _ _ hc r hr ih =>
    obtain ⟨rfl, hhead⟩ : c = '/' ∧ s.head? = some '*' := by simpa using hc
    obtain ⟨s, rfl⟩ := List.head?_eq_some_iff.1 hhead
    rw [List.drop_one, List.tail_cons] at hr
    have hsuffix : r <:+ '/' :: '*' :: s :=
      ((suffix_of_afterComment? hr).trans (List.suffix_cons _ _)).trans (List.suffix_cons _ _)
    rw [List.cons_append, List.cons_append, scan_comment (afterComment?_append_right hr b)]
    exact ih h (ha.suffix hsuffix)
  | case6 => cases h
  | case7 c s _ _ _ hc x r hr ih =>
    obtain rfl : c = '"' := by simpa using hc
    obtain ⟨us, hus, rfl⟩ := map_eq_ok h
    have hsuffix : r <:+ '"' :: s := ⟨'"' :: x ++ ['"'], by simp [stringBody?_eq hr]⟩
    rw [List.cons_append, scan_string (stringBody?_append_right hr b),
      ih hus (ha.suffix hsuffix), hmap]
  | case8 c s _ _ _ _ hc ih =>
    obtain ⟨us, hus, rfl⟩ := map_eq_ok h
    rw [List.cons_append, scan_punctuation hc, ih hus (ha.suffix (List.suffix_cons _ _)), hmap]
  | case9 c s hblank hhash hcomment hquote hmark ih =>
    obtain ⟨us, hus, rfl⟩ := map_eq_ok h
    have hc : endsWord c = false := by
      simp only [Bool.not_eq_true] at hblank hhash hquote hmark
      simp [endsWord, hblank, hhash, hquote, hmark]
    have hfeed : '\n' ∈ s := ha.newline_mem (by rintro rfl; exact absurd hc (by decide))
    have hrest := wordRest_append_right ⟨'\n', hfeed, by decide⟩ b
    have hhead : (s ++ b).head? = s.head? :=
      List.head?_append_of_ne_nil s (List.ne_nil_of_mem hfeed)
    have hslash : ¬(c = '/' ∧ (s ++ b).head? = some '*') := by simpa [hhead] using hcomment
    have hsuffix : (wordRest s).2 <:+ c :: s := ⟨c :: (wordRest s).1, by simp⟩
    rw [List.cons_append, scan_word hc hslash, hrest, ih hus (ha.suffix hsuffix), hmap]

theorem map_eq_error {x : Except Unterminated (List Token)} {f : List Token → List Token}
    {u : Unterminated} (h : x.map f = .error u) : x = .error u := by
  cases x with
  | error u' => exact congrArg Except.error (Except.error.inj h)
  | ok ts => cases h

/-- What has no end starts inside the text. -/
theorem remaining_le_length {s : Text} {u : Unterminated} (h : scan s = .error u) :
    u.remaining ≤ s.length := by
  fun_induction scan s with
  | case1 => cases h
  | case2 c s hc ih => exact Nat.le_succ_of_le (ih h)
  | case3 c s _ hc ih =>
    exact Nat.le_succ_of_le ((ih h).trans (length_dropWhile_le (· != '\n') s))
  | case4 c s =>
    obtain rfl := Except.error.inj h
    exact Nat.le_refl _
  | case5 c s _ _ hc r hr ih =>
    have hlength := length_afterComment? hr
    have hrest := ih h
    simp only [List.length_drop, List.length_cons] at hlength ⊢
    omega
  | case6 c s =>
    obtain rfl := Except.error.inj h
    exact Nat.le_refl _
  | case7 c s _ _ _ hc x r hr ih =>
    have hlength := length_stringBody? hr
    have hrest := ih (map_eq_error h)
    simp only [List.length_cons]
    omega
  | case8 c s _ _ _ _ hc ih => exact Nat.le_succ_of_le (ih (map_eq_error h))
  | case9 c s _ _ _ _ _ ih =>
    exact Nat.le_succ_of_le ((ih (map_eq_error h)).trans (length_wordRest s))

/-- A text that is read to its end and ends with a line feed can be read apart from what is put
behind it: the tokens of the two follow each other, and a fault of the second is met where it stands
in the whole. -/
theorem scan_append_of_endsLine {a : Text} {ts : List Token} (h : scan a = .ok ts)
    (ha : EndsLine a) (b : Text) :
    (∀ us, scan b = .ok us → scan (a ++ b) = .ok (ts ++ us)) ∧
      ∀ u, scan b = .error u →
        scan (a ++ b) = .error u ∧
          u.offset (a ++ b).length = a.length + u.offset b.length ∧
          u.message (a ++ b).length = "unterminated ".toList ++ u.kind.name ++
            " at offset ".toList ++ Text.ofNat (a.length + u.offset b.length) := by
  have happend := scan_append h ha b
  refine ⟨fun us hus => ?_, fun u hu => ?_⟩
  · rw [happend, hus]
    rfl
  · have hoffset : u.offset (a ++ b).length = a.length + u.offset b.length := by
      have hlength := remaining_le_length hu
      rw [Unterminated.offset, Unterminated.offset, List.length_append]
      omega
    refine ⟨?_, hoffset, ?_⟩
    · rw [happend, hu]
      rfl
    · unfold Unterminated.message
      rw [hoffset]

theorem scan_append_remarkLine :
    let a := "stop; /* \" */ # \"\n".toList
    let b := " keep \"x\\\"".toList
    EndsLine a ∧ scan a = .ok [word "stop".toList, punctuation ';'] ∧
      scan (a ++ "keep;".toList) =
        .ok [word "stop".toList, punctuation ';', word "keep".toList, punctuation ';'] ∧
      scan b = .error ⟨.string, 4⟩ ∧ scan (a ++ b) = .error ⟨.string, 4⟩ ∧
      Unterminated.message ⟨.string, 4⟩ b.length = "unterminated string at offset 6".toList ∧
      Unterminated.message ⟨.string, 4⟩ (a ++ b).length =
        "unterminated string at offset 24".toList := by
  intro a b
  have hline : EndsLine a := endsLine_concat "stop; /* \" */ # \"".toList
  have hscan : scan a = .ok [word "stop".toList, punctuation ';'] := by decide +kernel
  have hkeep : scan "keep;".toList = .ok [word "keep".toList, punctuation ';'] := by decide +kernel
  have hopen : scan b = .error ⟨.string, 4⟩ := by decide +kernel
  obtain ⟨herror, -, hmessage⟩ := (scan_append_of_endsLine hscan hline b).2 _ hopen
  exact ⟨hline, hscan, (scan_append_of_endsLine hscan hline _).1 _ hkeep, hopen, herror,
    by decide +kernel, hmessage.trans (by decide +kernel)⟩

end Token

open Token

/-! Portions of a combined script. -/

namespace Script

/-- What a combined script has below its declaration. -/
def portions (scripts : List Script) : Text := Text.join ['\n'] (scripts.flatMap portion)

theorem scan_combine (name : Text) (scripts : List Script) :
    scan (combine name scripts).content =
      (scan (portions scripts)).map
        (requireTokens (Text.sortedSet (scripts.flatMap required)) ++ ·) :=
  (writes_header (scripts.flatMap required) (portions scripts)).scan_eq

theorem portion_cases (s : Script) : s.portion = [] ∨ ∃ ls, s.portion = ls ++ [[]] := by
  unfold portion
  split
  · exact .inl rfl
  · exact .inr ⟨_, rfl⟩

theorem endsLine_portions (scripts : List Script) : EndsLine (portions scripts) := by
  have hlines : scripts.flatMap portion = [] ∨ ∃ ls, scripts.flatMap portion = ls ++ [[]] := by
    induction scripts with
    | nil => exact .inl rfl
    | cons s scripts ih =>
      rw [List.flatMap_cons]
      rcases ih with hnil | ⟨ls, hls⟩
      · rw [hnil, List.append_nil]
        exact s.portion_cases
      · exact .inr ⟨s.portion ++ ls, by rw [hls, List.append_assoc]⟩
  unfold portions
  rcases hlines with hnil | ⟨ls, hls⟩
  · rw [hnil]
    exact endsLine_nil
  · rw [hls, Text.join_concat_nil]
    cases ls using List.reverseRecOn with
    | nil => simp
    | append_singleton ls l =>
      rw [List.flatMap_append, List.flatMap_singleton, ← List.append_assoc]
      exact endsLine_concat _

/-- Portions are read one after the other. -/
theorem scan_portions_append {A : List Script} {ts : List Token}
    (hA : scan (portions A) = .ok ts) (B : List Script) :
    scan (portions (A ++ B)) = (scan (portions B)).map (ts ++ ·) := by
  by_cases hnone : A.flatMap portion = []
  · have hempty : ts = [] := by
      simpa [portions, hnone, Text.join, eq_comm] using hA
    rw [hempty, map_nil_append, portions, List.flatMap_append, hnone, List.nil_append, portions]
  · by_cases hrest : B.flatMap portion = []
    · have hB : portions B = [] := by rw [portions, hrest]; rfl
      have hAB : portions (A ++ B) = portions A := by
        rw [portions, List.flatMap_append, hrest, List.append_nil, portions]
      simp [hAB, hB, hA, Except.map]
    · have hAB : portions (A ++ B) = portions A ++ '\n' :: portions B := by
        rw [portions, List.flatMap_append, Text.join_append hnone hrest]
        simp [portions]
      rw [hAB, scan_append hA (endsLine_portions A), scan_blank (by decide)]

theorem transparent_of_disabled {d : Entry} (hd : d.enabled = false) : Transparent d := by
  have hnone : activeTokens d = [] := activeTokens_of_inactive (by simp [Entry.isActive, hd])
  intro b hb
  rw [hnone] at hb
  cases hb

/-- The portion of a filter that is switched off has no tokens. -/
@[simp] theorem scan_portions_disabled {d : Entry} (hd : d.enabled = false) :
    scan (portions [ofEntry d]) = .ok [] := by
  have hnone : activeTokens d = [] := activeTokens_of_inactive (by simp [Entry.isActive, hd])
  have hwrites := (writes_portion (transparent_of_disabled hd)).2
  rw [hnone] at hwrites
  simpa [portions] using hwrites.scan_eq_ok

/-- A filter that is not active declares no extensions. -/
@[simp] theorem required_ofEntry_inactive {e : Entry} (h : e.isActive = false) :
    (ofEntry e).required = [] := by
  obtain ⟨l, ms, hlines, -, hremarks⟩ := lines_ofEntry_inactive h
  have hfilter : (l :: ms).filter isRequireLine = [] := by
    rw [List.filter_eq_nil_iff]
    intro k hk
    simp [(hremarks k hk).isRequireLine]
  rw [required, hlines, hfilter, List.flatMap_nil]

/-- A filter that is switched off has no influence on the tokens of a combined script, whatever its
strings contain and wherever it stands. -/
theorem scan_combine_disabled (name : Text) {d : Entry} (hd : d.enabled = false)
    (A B : List Script) {ts us : List Token} (hA : scan (combine name A).content = .ok ts)
    (hAB : scan (combine name (A ++ B)).content = .ok us) :
    scan (combine name (A ++ [ofEntry d] ++ B)).content = .ok us ∧
      (A ++ [ofEntry d] ++ B).flatMap required = (A ++ B).flatMap required := by
  have hrequired : (A ++ [ofEntry d] ++ B).flatMap required = (A ++ B).flatMap required := by
    have hnone : (ofEntry d).required = [] :=
      required_ofEntry_inactive (by simp [Entry.isActive, hd])
    simp [hnone]
  rw [scan_combine] at hA
  obtain ⟨vs, hvs, -⟩ := map_eq_ok hA
  have hspliced : scan (portions (A ++ [ofEntry d] ++ B)) = scan (portions (A ++ B)) := by
    have hnothing := scan_portions_append (scan_portions_disabled hd) B
    rw [List.append_assoc, scan_portions_append hvs, scan_portions_append hvs, hnothing,
      map_nil_append]
  refine ⟨?_, hrequired⟩
  rw [scan_combine, hspliced, hrequired, ← scan_combine name, hAB]

/-- A filter that is switched off and tries to get out of its comment in every string. -/
def hostileFilter : Entry :=
  { name := "a\nrequire [\"reject\"];".toList
    enabled := false
    rules := [{ part := "x\n*/".toList, operator := "is".toList
                value := "\"\nrequire [\"reject\"];\n\n/*".toList }]
    actions := [.deliver "b\n\x7d stop; \"".toList] }

/-- A script with a string over two lines and a last line without an end. -/
def unevenScript : Script :=
  ⟨"u".toList, "require [\"fileinto\"];\nfileinto \"a\n/* b\"; # c".toList⟩

def stoppingScript : Script := ⟨"s".toList, "require [\"fileinto\"];\nstop;".toList⟩

theorem scan_combine_hostileFilter :
    hostileFilter.enabled = false ∧
      scan (combine "m".toList
          ([unevenScript] ++ [ofEntry hostileFilter] ++ [stoppingScript])).content =
        .ok (requireTokens ["fileinto".toList] ++
          [word "fileinto".toList, string "a\n/* b".toList, punctuation ';', word "stop".toList,
            punctuation ';']) := by
  have hfirst : scan (combine "m".toList [unevenScript]).content =
      .ok (requireTokens ["fileinto".toList] ++
        [word "fileinto".toList, string "a\n/* b".toList, punctuation ';']) := by decide +kernel
  have hboth : scan (combine "m".toList ([unevenScript] ++ [stoppingScript])).content =
      .ok (requireTokens ["fileinto".toList] ++
        [word "fileinto".toList, string "a\n/* b".toList, punctuation ';', word "stop".toList,
          punctuation ';']) := by decide +kernel
  exact ⟨rfl, (scan_combine_disabled "m".toList rfl [unevenScript] [stoppingScript] hfirst hboth).1⟩

end Script

end MailFilter.Sieve
