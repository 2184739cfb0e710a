import MailFilter.Decimal.Numeral
import MailFilter.Proofs.Trimming
import MailFilter.Proofs.Wildcards

/-!
# Anchored literals as regular expressions

The patterns here are regular expressions of characters, the anchors `^` and `$`, and counted
repetitions such as `a{2,3}`; every other construct needs one of the metacharacters that keep a
pattern from having a wildcard form. A pattern is searched for anywhere in a subject.

The wildcard form of a pattern describes the same subjects as the pattern exactly when the text
between the anchors is read character by character: it holds no further anchor and no counted
repetition. The conversion does not look for either of them.
-/
namespace MailFilter.Sieve.Regex

/-- How often a character may stand in a row. -/
structure Count where
  least : Nat
  most : Option Nat
  deriving DecidableEq, Repr

def Count.isOrdered (q : Count) : Bool := q.most.all (q.least ≤ ·)

def Count.admits (q : Count) (k : Nat) : Bool := q.least ≤ k && q.most.all (k ≤ ·)

inductive Piece where
  | start
  | stop
  | char (c : Char)
  | repeated (c : Char) (q : Count)
  deriving DecidableEq, Repr

open Piece

/-! Reading. -/

/-- The bounds that stand between braces. Either of two may be missing. -/
def bounds? (s : Text) : Option Count :=
  match Text.splitOn ',' s with
  | [n] => (Numeral.value? 10 n).map fun k => ⟨k, some k⟩
  | [least, most] =>
    if (least ++ most).all Numeral.isDigit then
      some ⟨Numeral.value 10 least, Numeral.value? 10 most⟩
    else none
  | _ => none

/-- The counted repetition at the front of a text, with the text behind it. -/
def count? : Text → Option (Count × Text)
  | '{' :: s =>
    (Text.after? '}' s).bind fun r => (bounds? (Text.before '}' s)).map fun q => (q, r)
  | _ => none

@[simp] theorem count?_closed {m : Text} (h : '}' ∉ m) (r : Text) :
    count? ('{' :: (m ++ '}' :: r)) = (bounds? m).map fun q => (q, r) := by
  simp [count?, h]

@[simp] theorem count?_open {s : Text} (h : '}' ∉ s) : count? ('{' :: s) = none := by
  simp [count?, h]

@[simp] theorem count?_of_head {s : Text} (h : s.head? ≠ some '{') : count? s = none := by
  unfold count?
  split
  · exact absurd rfl h
  · rfl

/-- A counted repetition stands between its braces. -/
theorem count?_eq_some {s r : Text} {q : Count} (h : count? s = some (q, r)) :
    ∃ m, s = '{' :: (m ++ '}' :: r) := by
  by_cases hhead : s.head? = some '{'
  · obtain ⟨u, rfl⟩ := List.head?_eq_some_iff.1 hhead
    by_cases hbrace : '}' ∈ u
    · obtain ⟨m, v, rfl, hm⟩ := List.eq_append_cons_of_mem hbrace
      rw [count?_closed hm] at h
      obtain ⟨q', -, hpair⟩ := Option.map_eq_some_iff.1 h
      exact ⟨m, by rw [(Prod.mk.inj hpair).2]⟩
    · rw [count?_open hbrace] at h
      cases h
  · rw [count?_of_head hhead] at h
    cases h

theorem length_of_count? {s r : Text} {q : Count} (h : count? s = some (q, r)) :
    r.length < s.length := by
  obtain ⟨m, rfl⟩ := count?_eq_some h
  simp only [List.length_append, List.length_cons]
  omega

/-- The pieces of a pattern. There are none when a repetition has nothing to repeat or its bounds
are out of order, or when the pattern uses another metacharacter. -/
def read? : Text → Option (List Piece)
  | [] => some []
  | '^' :: s => (read? s).map (start :: ·)
  | '$' :: s => (read? s).map (stop :: ·)
  | c :: s =>
    if isRegexMeta c || (count? (c :: s)).isSome then none
    else
      match _ : count? s with
      | none => (read? s).map (char c :: ·)
      | some (q, r) => if q.isOrdered then (read? r).map (repeated c q :: ·) else none
termination_by s => s.length
decreasing_by
  · exact Nat.lt_succ_self _
  · exact Nat.lt_succ_self _
  · exact Nat.lt_succ_self _
  · exact Nat.lt_succ_of_lt (length_of_count? (by assumption))

theorem read?_cons {c : Char} (hcaret : c ≠ '^') (hdollar : c ≠ '$') (s : Text) :
    read? (c :: s) =
      if isRegexMeta c || (count? (c :: s)).isSome then none
      else
        match count? s with
        | none => (read? s).map (char c :: ·)
        | some (q, r) => if q.isOrdered then (read? r).map (repeated c q :: ·) else none := by
  rw [read?]
  · split
    · rfl
    · split <;> simp_all
  · exact hcaret
  · exact hdollar

/-! Matching. -/

/-- The pieces describe a beginning of the text. The mark tells whether the text is the whole
subject or stands further back in it. -/
def matchesFrom : List Piece → Bool → Text → Bool
  | [], _, _ => true
  | start :: ps, fresh, t => fresh && matchesFrom ps fresh t
  | stop :: ps, fresh, t => t.isEmpty && matchesFrom ps fresh t
  | char c :: ps, _, t => t.head? == some c && matchesFrom ps false t.tail
  | repeated c q :: ps, fresh, t =>
    (List.range (t.length + 1)).any fun k =>
      q.admits k && (List.replicate k c).isPrefixOf t && matchesFrom ps (fresh && k == 0) (t.drop k)

/-- The pieces describe a part of the subject. -/
def search (ps : List Piece) (t : Text) : Bool :=
  t.tails.any fun u => matchesFrom ps (u.length == t.length) u

/-- What a pattern says of a subject, if it can be read. -/
def verdict? (s t : Text) : Option Bool := (read? s).map (search · t)

/-! The anchor at the end. -/

@[simp] theorem count?_append_dollar (s : Text) :
    count? (s ++ ['$']) = (count? s).map fun p => (p.1, p.2 ++ ['$']) := by
  by_cases hhead : s.head? = some '{'
  · obtain ⟨u, rfl⟩ := List.head?_eq_some_iff.1 hhead
    by_cases hbrace : '}' ∈ u
    · obtain ⟨m, v, rfl, hm⟩ := List.eq_append_cons_of_mem hbrace
      rw [List.cons_append, List.append_assoc, List.cons_append, count?_closed hm,
        count?_closed hm, Option.map_map]
      rfl
    · have hdollar : '}' ∉ u ++ ['$'] := by simp [hbrace]
      rw [List.cons_append, count?_open hbrace, count?_open hdollar]
      rfl
  · have hdollar : (s ++ ['$']).head? ≠ some '{' := by
      cases s with
      | nil => decide
      | cons c u => exact hhead
    rw [count?_of_head hhead, count?_of_head hdollar]
    rfl

theorem read?_cons_append_dollar {c : Char} (hcaret : c ≠ '^') (hdollar : c ≠ '$') (s : Text) :
    read? (c :: s ++ ['$']) =
      if isRegexMeta c || (count? (c :: s)).isSome then none
      else
        match count? s with
        | none => (read? (s ++ ['$'])).map (char c :: ·)
        | some (q, r) =>
          if q.isOrdered then (read? (r ++ ['$'])).map (repeated c q :: ·) else none := by
  rw [List.cons_append, read?_cons hcaret hdollar, ← List.cons_append, count?_append_dollar,
    count?_append_dollar, Option.isSome_map]
  cases count? s <;> rfl

/-- An anchor at the end of a pattern is read as one, whatever stands in front of it. -/
@[simp] theorem read?_append_dollar (s : Text) :
    read? (s ++ ['$']) = (read? s).map (· ++ [stop]) := by
  fun_induction read? s with
  | case1 => simp [read?]
  | case2 s ih =>
    rw [List.cons_append, read?, ih, Option.map_map, Option.map_map]
    rfl
  | case3 s ih =>
    rw [List.cons_append, read?, ih, Option.map_map, Option.map_map]
    rfl
  | case4 c s hcaret hdollar hnone =>
    rw [read?_cons_append_dollar hcaret hdollar, if_pos hnone]
    rfl
  | case5 c s hcaret hdollar hsome hcount ih =>
    rw [read?_cons_append_dollar hcaret hdollar, if_neg hsome, hcount]
    dsimp only
    rw [ih, Option.map_map, Option.map_map]
    rfl
  | case6 c s hcaret hdollar hsome q r hcount hordered ih =>
    rw [read?_cons_append_dollar hcaret hdollar, if_neg hsome, hcount]
    dsimp only
    rw [if_pos hordered, ih, Option.map_map, Option.map_map]
    rfl
  | case7 c s hcaret hdollar hsome q r hcount hordered =>
    rw [read?_cons_append_dollar hcaret hdollar, if_neg hsome, hcount]
    exact if_neg hordered

/-! Literal texts. -/

/-- The text holds no anchor and no counted repetition. -/
def IsLiteral (s : Text) : Prop := '^' ∉ s ∧ '$' ∉ s ∧ ∀ u ∈ s.tails, count? u = none

instance (s : Text) : Decidable (IsLiteral s) := inferInstanceAs (Decidable (_ ∧ _ ∧ _))

@[simp] theorem isLiteral_cons {c : Char} {s : Text} :
    IsLiteral (c :: s) ↔ c ≠ '^' ∧ c ≠ '$' ∧ count? (c :: s) = none ∧ IsLiteral s := by
  rw [IsLiteral, List.tails_cons, List.forall_mem_cons, List.mem_cons, List.mem_cons, not_or,
    not_or, IsLiteral]
  tauto

theorem count?_of_isLiteral {s : Text} (h : IsLiteral s) : count? s = none :=
  h.2.2 s (by simp)

theorem isLiteral_of_forall_notMem {s : Text} (h : ∀ c ∈ s, c ∉ ['^', '$', '{', '}']) :
    IsLiteral s := by
  induction s with
  | nil => decide
  | cons c s ih =>
    have hc := h c List.mem_cons_self
    simp only [List.mem_cons, not_or] at hc
    refine isLiteral_cons.2 ⟨hc.1, hc.2.1, count?_of_head ?_, ih fun d hd => ?_⟩
    · simpa using hc.2.2.1
    · exact h d (List.mem_cons_of_mem c hd)

/-- A literal text is read character by character. -/
theorem read?_of_isLiteral {s : Text} (h : IsLiteral s) (hmeta : ∀ c ∈ s, isRegexMeta c = false) :
    read? s = some (s.map char) := by
  induction s with
  | nil => rw [read?, List.map_nil]
  | cons c s ih =>
    obtain ⟨hcaret, hdollar, hcount, hs⟩ := isLiteral_cons.1 h
    have hc : ¬(isRegexMeta c || (count? (c :: s)).isSome) = true := by
      simp [hmeta c List.mem_cons_self, hcount]
    have hread : read? s = some (s.map char) :=
      ih hs fun d hd => hmeta d (List.mem_cons_of_mem c hd)
    rw [read?_cons hcaret hdollar, if_neg hc, count?_of_isLiteral hs]
    dsimp only
    rw [hread, Option.map_some, List.map_cons]

/-! Words that the pieces take. -/

/-- The pieces take up the word, wherever the anchors stand and however often the repeated
characters are taken. -/
def Takes : List Piece → Text → Prop
  | [], w => w = []
  | start :: ps, w => Takes ps w
  | stop :: ps, w => Takes ps w
  | char c :: ps, w => ∃ u, w = c :: u ∧ Takes ps u
  | repeated c _ :: ps, w => ∃ k u, w = List.replicate k c ++ u ∧ Takes ps u

@[simp] theorem takes_append_stop {ps : List Piece} {w : Text} :
    Takes (ps ++ [stop]) w ↔ Takes ps w := by
  induction ps generalizing w with
  | nil => exact Iff.rfl
  | cons p ps ih => cases p <;> simp only [List.cons_append, Takes, ih]

/-- A run of one character cannot reach over both braces of a repetition. -/
theorem exists_append_of_replicate {c : Char} {k : Nat} {z m r u : Text}
    (h : z ++ '{' :: (m ++ '}' :: r) = List.replicate k c ++ u) : ∃ y, y ≠ [] ∧ u = y ++ r := by
  have hsplit : z ++ '{' :: (m ++ '}' :: r) = (z ++ '{' :: (m ++ ['}'])) ++ r := by simp
  have hrun : ¬z ++ '{' :: (m ++ ['}']) ⊆ List.replicate k c := by
    intro hsub
    have hopen : '{' = c := List.eq_of_mem_replicate (hsub (by simp))
    have hclose : '}' = c := List.eq_of_mem_replicate (hsub (by simp))
    exact absurd (hopen.trans hclose.symm) (by decide)
  rw [hsplit, List.append_eq_append_iff] at h
  obtain ⟨y, hy, -⟩ | ⟨y, hy, hu⟩ := h
  · rw [hy] at hrun
    exact absurd (List.subset_append_left _ y) hrun
  · refine ⟨y, ?_, hu⟩
    rintro rfl
    rw [hy, List.append_nil] at hrun
    exact hrun (List.Subset.refl _)

/-- A pattern takes up no longer text that ends in it, and takes up itself only as a literal:
whatever is not read as a character leaves too much of the text behind. -/
theorem isLiteral_of_takes {s z : Text} {ps : List Piece} (hread : read? s = some ps)
    (h : Takes ps (z ++ s)) : z = [] ∧ IsLiteral s := by
  fun_induction read? s generalizing z ps with
  | case1 =>
    obtain rfl := Option.some.inj hread
    rw [Takes, List.append_nil] at h
    exact ⟨h, by decide⟩
  | case2 s ih =>
    obtain ⟨qs, hqs, rfl⟩ := Option.map_eq_some_iff.1 hread
    rw [Takes, List.append_cons] at h
    have hnil := (ih hqs h).1
    simp at hnil
  | case3 s ih =>
    obtain ⟨qs, hqs, rfl⟩ := Option.map_eq_some_iff.1 hread
    rw [Takes, List.append_cons] at h
    have hnil := (ih hqs h).1
    simp at hnil
  | case4 => cases hread
  | case5 c s hcaret hdollar hsome hcount ih =>
    obtain ⟨qs, hqs, rfl⟩ := Option.map_eq_some_iff.1 hread
    obtain ⟨u, hu, htakes⟩ := h
    cases z with
    | nil =>
      obtain ⟨-, rfl⟩ := List.cons.inj hu
      have hfront : count? (c :: s) = none := by simp_all
      exact ⟨rfl, isLiteral_cons.2 ⟨hcaret, hdollar, hfront, (ih (z := []) hqs htakes).2⟩⟩
    | cons d z =>
      rw [List.cons_append] at hu
      obtain ⟨-, rfl⟩ := List.cons.inj hu
      rw [List.append_cons] at htakes
      have hnil := (ih hqs htakes).1
      simp at hnil
  | case6 c s hcaret hdollar hsome q r hcount hordered ih =>
    obtain ⟨qs, hqs, rfl⟩ := Option.map_eq_some_iff.1 hread
    obtain ⟨k, u, hu, htakes⟩ := h
    obtain ⟨m, rfl⟩ := count?_eq_some hcount
    rw [List.append_cons] at hu
    obtain ⟨y, hy, rfl⟩ := exists_append_of_replicate hu
    exact absurd (ih hqs htakes).1 hy
  | case7 => cases hread

/-! Searching. -/

theorem matchesFrom_char {c : Char} {ps : List Piece} {fresh : Bool} {t : Text} :
    matchesFrom (char c :: ps) fresh t = true ↔
      ∃ u, t = c :: u ∧ matchesFrom ps false u = true := by
  rw [matchesFrom]
  exact head_tail_iff

theorem matchesFrom_repeated {c : Char} {q : Count} {ps : List Piece} {fresh : Bool} {t : Text} :
    matchesFrom (repeated c q :: ps) fresh t = true ↔
      ∃ k u, q.admits k = true ∧ t = List.replicate k c ++ u ∧
        matchesFrom ps (fresh && k == 0) u = true := by
  simp only [matchesFrom, List.any_eq_true, List.mem_range, Bool.and_eq_true,
    List.isPrefixOf_iff_prefix]
  constructor
  · rintro ⟨k, -, ⟨hadmits, u, rfl⟩, hu⟩
    rw [List.drop_left' List.length_replicate] at hu
    exact ⟨k, u, hadmits, rfl, hu⟩
  · rintro ⟨k, u, hadmits, rfl, hu⟩
    refine ⟨k, ?_, ⟨hadmits, List.prefix_append _ u⟩, ?_⟩
    · rw [List.length_append, List.length_replicate]
      omega
    · rwa [List.drop_left' List.length_replicate]

theorem search_iff {ps : List Piece} {t : Text} :
    search ps t = true ↔ ∃ b u, t = b ++ u ∧ matchesFrom ps b.isEmpty u = true := by
  have hfresh (b u : Text) : (u.length == (b ++ u).length) = b.isEmpty := by
    rw [Bool.eq_iff_iff, beq_iff_eq, List.length_append, List.isEmpty_iff_length_eq_zero]
    omega
  simp only [search, List.any_eq_true, List.mem_tails]
  constructor
  · rintro ⟨u, ⟨b, rfl⟩, hu⟩
    exact ⟨b, u, rfl, hfresh b u ▸ hu⟩
  · rintro ⟨b, u, rfl, hu⟩
    exact ⟨u, ⟨b, rfl⟩, (hfresh b u).symm ▸ hu⟩

/-- What is found further back in a subject is found at its start too. -/
theorem matchesFrom_fresh {ps : List Piece} {fresh : Bool} {t : Text}
    (h : matchesFrom ps fresh t = true) : matchesFrom ps true t = true := by
  induction ps generalizing fresh t with
  | nil => rfl
  | cons p ps ih =>
    cases p with
    | start =>
      rw [matchesFrom, Bool.and_eq_true] at h
      rw [matchesFrom, Bool.true_and]
      exact ih h.2
    | stop =>
      rw [matchesFrom, Bool.and_eq_true] at h
      rw [matchesFrom, h.1, Bool.true_and]
      exact ih h.2
    | char c => exact h
    | repeated c q =>
      obtain ⟨k, u, hadmits, rfl, hu⟩ := matchesFrom_repeated.1 h
      refine matchesFrom_repeated.2 ⟨k, u, hadmits, rfl, ?_⟩
      cases hk : k == 0 with
      | true => exact ih hu
      | false => rwa [hk, Bool.and_false] at hu

/-- A match takes up a beginning of the text, and would be a match if the text ended there. -/
theorem exists_takes_of_matchesFrom {ps : List Piece} {fresh : Bool} {t : Text}
    (h : matchesFrom ps fresh t = true) :
    ∃ w, w <+: t ∧ Takes ps w ∧ matchesFrom ps fresh w = true := by
  induction ps generalizing fresh t with
  | nil => exact ⟨[], List.nil_prefix, rfl, rfl⟩
  | cons p ps ih =>
    cases p with
    | start =>
      rw [matchesFrom, Bool.and_eq_true] at h
      obtain ⟨w, hw, htakes, hmatch⟩ := ih h.2
      refine ⟨w, hw, htakes, ?_⟩
      rw [matchesFrom, hmatch, h.1, Bool.true_and]
    | stop =>
      rw [matchesFrom, Bool.and_eq_true, List.isEmpty_iff] at h
      obtain ⟨w, hw, htakes, hmatch⟩ := ih h.2
      obtain rfl : w = [] := List.prefix_nil.1 (h.1 ▸ hw)
      refine ⟨[], List.nil_prefix, htakes, ?_⟩
      rw [matchesFrom, hmatch, List.isEmpty_nil, Bool.true_and]
    | char c =>
      obtain ⟨u, rfl, hu⟩ := matchesFrom_char.1 h
      obtain ⟨w, hw, htakes, hmatch⟩ := ih hu
      exact ⟨c :: w, List.cons_prefix_cons.2 ⟨rfl, hw⟩, ⟨w, rfl, htakes⟩,
        matchesFrom_char.2 ⟨w, rfl, hmatch⟩⟩
    | repeated c q =>
      obtain ⟨k, u, hadmits, rfl, hu⟩ := matchesFrom_repeated.1 h
      obtain ⟨w, hw, htakes, hmatch⟩ := ih hu
      exact ⟨List.replicate k c ++ w, (List.prefix_append_right_inj _).2 hw, ⟨k, w, rfl, htakes⟩,
        matchesFrom_repeated.2 ⟨k, w, hadmits, rfl, hmatch⟩⟩

/-- A literal in front of other pieces takes itself off the text. -/
theorem matchesFrom_literal {c : Text} {ps : List Piece} {fresh : Bool} {t : Text} :
    matchesFrom (c.map char ++ ps) fresh t = true ↔
      ∃ u, t = c ++ u ∧ matchesFrom ps (fresh && c.isEmpty) u = true := by
  induction c generalizing fresh t with
  | nil => simp
  | cons d c ih =>
    rw [List.map_cons, List.cons_append, matchesFrom_char]
    simp [ih]

/-- A subject in which the pieces are found has a part that they take up and in which they are
found as well. -/
theorem exists_takes_of_search {ps : List Piece} {t : Text} (h : search ps t = true) :
    ∃ w, w.length ≤ t.length ∧ Takes ps w ∧ search ps w = true := by
  obtain ⟨b, u, rfl, hu⟩ := search_iff.1 h
  obtain ⟨w, hw, htakes, hmatch⟩ := exists_takes_of_matchesFrom (matchesFrom_fresh hu)
  refine ⟨w, ?_, htakes, search_iff.2 ⟨[], w, rfl, hmatch⟩⟩
  have := hw.length_le
  rw [List.length_append]
  omega

end MailFilter.Sieve.Regex

namespace MailFilter.Sieve.Anchor

open Regex Piece

/-- The pieces of an anchored pattern. -/
def pieces : Anchor → List Piece → List Piece
  | front, ps => start :: ps
  | back, ps => ps ++ [stop]
  | both, ps => start :: ps ++ [stop]

@[simp] theorem read?_pattern (a : Anchor) (c : Text) :
    read? (a.pattern c) = (read? c).map a.pieces := by
  cases a with
  | front => rw [pattern, read?]; rfl
  | back => exact read?_append_dollar c
  | both =>
    rw [pattern, List.cons_append, read?, read?_append_dollar, Option.map_map]
    rfl

@[simp] theorem takes_pieces {a : Anchor} {ps : List Piece} {w : Text} :
    Takes (a.pieces ps) w ↔ Takes ps w := by
  cases a with
  | front => exact Iff.rfl
  | back => simp [pieces]
  | both => simp [pieces, Takes]

/-- An anchored literal is found where the literal stands at the ends in question. -/
@[simp] theorem search_pieces (a : Anchor) (c t : Text) :
    search (a.pieces (c.map char)) t = true ↔ a.Holds c t := by
  have hliteral (fresh : Bool) (u : Text) :
      matchesFrom (c.map char) fresh u = true ↔ c <+: u := by
    rw [← List.append_nil (c.map char), matchesFrom_literal]
    simp only [matchesFrom, and_true]
    exact exists_congr fun v => eq_comm
  have hstop (fresh : Bool) (u : Text) :
      matchesFrom (c.map char ++ [stop]) fresh u = true ↔ u = c := by
    rw [matchesFrom_literal]
    simp [matchesFrom]
  have hstart (ps : List Piece) : search (start :: ps) t = true ↔ matchesFrom ps true t = true := by
    rw [search_iff]
    constructor
    · rintro ⟨b, u, rfl, hu⟩
      rw [matchesFrom, Bool.and_eq_true, List.isEmpty_iff] at hu
      obtain ⟨rfl, hu⟩ := hu
      exact hu
    · intro h
      exact ⟨[], t, rfl, h⟩
  cases a with
  | front => rw [pieces, hstart, hliteral]; rfl
  | back =>
    rw [pieces, search_iff]
    simp only [hstop, exists_eq_right]
    exact exists_congr fun b => eq_comm
  | both => rw [pieces, List.cons_append, hstart, hstop]; rfl

@[simp] theorem holds_self (a : Anchor) (c : Text) : a.Holds c c := by
  cases a with
  | front => exact List.prefix_refl c
  | back => exact List.suffix_refl c
  | both => rfl

/-- A subject no longer than the literal holds it only by being it. -/
theorem Holds.eq_of_length_le {a : Anchor} {c t : Text} (h : a.Holds c t)
    (hlength : t.length ≤ c.length) : t = c := by
  cases a with
  | front => exact (List.IsPrefix.eq_of_length_le h hlength).symm
  | back => exact (List.IsSuffix.eq_of_length_le h hlength).symm
  | both => exact h

end MailFilter.Sieve.Anchor

namespace MailFilter.Sieve

open Regex

/-- The pattern and its wildcard form say the same of every subject exactly when the text between
the anchors is a literal. -/
theorem Anchor.verdict?_eq_covers_iff (a : Anchor) {c : Text}
    (hmeta : ∀ d ∈ c, isRegexMeta d = false) :
    (∀ t, verdict? (a.pattern c) t = some (covers (a.glob c) t)) ↔ IsLiteral c := by
  constructor
  · intro h
    obtain ⟨ps, hps⟩ : ∃ ps, read? c = some ps := by
      cases hread : read? c with
      | some ps => exact ⟨ps, rfl⟩
      | none =>
        have hself := h c
        rw [verdict?, a.read?_pattern, hread] at hself
        cases hself
    have hsearch (t : Text) : search (a.pieces ps) t = true ↔ a.Holds c t := by
      have ht := h t
      rw [verdict?, a.read?_pattern, hps] at ht
      rw [← covers_glob a hmeta t, ← Option.some.inj ht]
    obtain ⟨w, hlength, htakes, hfound⟩ := exists_takes_of_search ((hsearch c).2 (a.holds_self c))
    obtain rfl : w = c := ((hsearch w).1 hfound).eq_of_length_le hlength
    exact (isLiteral_of_takes (z := []) hps (takes_pieces.1 htakes)).2
  · intro h t
    rw [verdict?, a.read?_pattern, read?_of_isLiteral h hmeta, Option.map_some, Option.map_some,
      Option.some.injEq, Bool.eq_iff_iff, a.search_pieces, covers_glob a hmeta]

/-- The patterns with a wildcard form, and those of them whose wildcard form means the same. A
pattern has none exactly when it holds one of ten metacharacters, has no anchor, or has nothing
beside its anchors. The form of any other is found by taking off its anchors, and describes the
subjects in which the pattern is found exactly when what is left is a literal; this is so whenever
it holds neither an anchor nor a brace. -/
theorem literalGlob?_exact (s : Text) :
    (literalGlob? s = none ↔ (∃ c ∈ s, isRegexMeta c = true) ∨
        (s.head? ≠ some '^' ∧ s.getLast? ≠ some '$') ∨ s ∈ bareAnchors) ∧
      ∀ g, literalGlob? s = some g →
        ∃ (a : Anchor) (c : Text), a.Fits c ∧ s = a.pattern c ∧ g = a.glob c ∧
          (∀ d ∈ c, isRegexMeta d = false) ∧
          ((∀ t, verdict? s t = some (covers g t)) ↔ IsLiteral c) ∧
          ((∀ d ∈ c, d ∉ ['^', '$', '{', '}']) → IsLiteral c) := by
  refine ⟨literalGlob?_eq_none_iff, fun g hg => ?_⟩
  obtain ⟨hmeta, a, c, -, hfits, rfl, rfl⟩ := literalGlob?_eq_some_iff.1 hg
  have hcore : ∀ d ∈ c, isRegexMeta d = false := fun d hd => hmeta d (Anchor.mem_pattern hd)
  exact ⟨a, c, hfits, rfl, rfl, hcore, a.verdict?_eq_covers_iff hcore,
    isLiteral_of_forall_notMem⟩

/-- A word behind an anchor. -/
theorem literalGlob?_exact_suspended :
    literalGlob? "^Suspended:".toList = some "Suspended:*".toList ∧
      ∀ t, verdict? "^Suspended:".toList t = some (covers "Suspended:*".toList t) := by
  have hglob : literalGlob? "^Suspended:".toList = some "Suspended:*".toList := by decide
  obtain ⟨a, c, hfits, hpattern, -, -, hagree, hliteral⟩ :=
    (literalGlob?_exact "^Suspended:".toList).2 _ hglob
  refine ⟨hglob, hagree.2 (hliteral ?_)⟩
  have hlast : "^Suspended:".toList.getLast? ≠ some '$' := by decide
  cases a with
  | front =>
    obtain rfl : "Suspended:".toList = c := (List.cons.inj hpattern).2
    decide
  | back => exact absurd (by rw [hpattern]; exact List.getLast?_concat) hlast
  | both => exact absurd (by rw [hpattern]; exact List.getLast?_concat) hlast

/-- A counted repetition between two anchors is taken for a literal: the pattern is found in a text
that its wildcard form does not describe. -/
theorem literalGlob?_counted :
    literalGlob? "^a\x7b2\x7d$".toList = some "a\x7b2\x7d".toList ∧
      verdict? "^a\x7b2\x7d$".toList "aa".toList = some true ∧
      covers "a\x7b2\x7d".toList "aa".toList = false := by
  refine ⟨by decide, by decide +kernel, by decide⟩

end MailFilter.Sieve
