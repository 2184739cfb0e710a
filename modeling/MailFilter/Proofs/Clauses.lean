import MailFilter.Proofs.Execution
import MailFilter.Proofs.SourceText
import MailFilter.Proofs.Splicing
import MailFilter.Proofs.Trimming
import Mathlib.Data.List.Infix

/-!
# Reading clauses

A clause as it is written has a part, an operator phrase and a quoted value. Clauses with joining
words between them are read one by one: the search for the next joining word passes over the value
of a clause, whatever it contains, and stops right behind it. The rules that come out are those of
the clauses, the first of them marked with `or` and every other one with the word in front of it.

The mark of the first rule decides how the rules are joined in a script. It is never `and`, so a
filter whose clauses are all joined by `and` becomes a disjunction.
-/
namespace MailFilter.Clause

open Text

/-- No joining word starts anywhere in the text. -/
def Unjoined (s : Text) : Prop := ∀ t, t <:+ s → startsJoin (lower t) = false

/-- A clause as it is written: the part, what stands between the part and the value, and the value
as it stands between its quotes. -/
structure Form where
  part : Text
  gap : Text
  body : Text
  deriving DecidableEq, Repr

namespace Form

/-- What stands before the value. -/
def head (f : Form) : Text := f.part ++ f.gap

def text (f : Form) : Text := f.head ++ '"' :: (f.body ++ ['"'])

/-- The rule that a clause means behind the given joining word. -/
def rule (f : Form) (join : Text) : Rule :=
  ⟨f.part, phrase (lower (trimLeft f.gap)), Sieve.unescape f.body, join⟩

/-- The part starts with a dollar sign and ends with its only colon, the value ends at its last
quote, and no joining word stands outside the value. -/
structure WellFormed (f : Form) : Prop where
  dollar : f.part.head? = some '$'
  colon : ∃ p, f.part = p ++ [':'] ∧ ':' ∉ p
  unquoted : '"' ∉ f.head
  closed : Sieve.Token.stringBody? (f.body ++ ['"']) = some (f.body, [])
  unjoined : Unjoined f.head

end Form

/-! Reading one clause. -/

/-- Both readers of quoted strings find the same end or none, and one resolves the escapes that the
other keeps. -/
theorem quotedBody_eq_map (s : Text) :
    quotedBody s = (Sieve.Token.stringBody? s).map fun p => Sieve.unescape p.1 := by
  fun_induction Sieve.Token.stringBody? s with
  | case1 => rfl
  | case2 s => rfl
  | case3 => rfl
  | case4 c s ih =>
    rw [quotedBody, ih, Option.map_map, Option.map_map]
    rfl
  | case5 c s hquote hlast hslash ih =>
    have hc : c ≠ '\\' := Sieve.Token.ne_backslash hlast hslash
    have hplain (b : Text) : Sieve.unescape (c :: b) = c :: Sieve.unescape b :=
      Sieve.unescape.eq_3 c b fun _ _ h _ => hc h
    rw [quotedBody.eq_4 c s hquote hslash, ih, Option.map_map, Option.map_map]
    exact congrArg (Option.map · _) (funext fun p => (hplain p.1).symm)

theorem quotedBody_of_stringBody? {s b r : Text} (h : Sieve.Token.stringBody? s = some (b, r)) :
    quotedBody s = some (Sieve.unescape b) := by
  rw [quotedBody_eq_map, h]
  rfl

/-- The first quoted string starts behind the first quote. -/
theorem firstQuoted_append {p : Text} (hp : '"' ∉ p) (r : Text) :
    firstQuoted (p ++ '"' :: r) = quotedBody r := by
  rw [firstQuoted, after?_append hp]

namespace Form

variable {f : Form}

theorem WellFormed.stringBody? (h : f.WellFormed) (t : Text) :
    Sieve.Token.stringBody? (f.body ++ '"' :: t) = some (f.body, t) := by
  simpa using Sieve.Token.stringBody?_append_right h.closed t

theorem text_append (f : Form) (t : Text) :
    f.text ++ t = f.head ++ '"' :: (f.body ++ '"' :: t) := by simp [text]

theorem WellFormed.part_eq (h : f.WellFormed) :
    ∃ p, f.part = '$' :: p ++ [':'] ∧ ':' ∉ '$' :: p := by
  obtain ⟨p, hp, hcolon⟩ := h.colon
  have hfirst := h.dollar
  rw [hp] at hfirst
  cases p with
  | nil => simp at hfirst
  | cons c p =>
    obtain rfl : c = '$' := by simpa using hfirst
    exact ⟨p, hp, hcolon⟩

theorem WellFormed.text_eq (h : f.WellFormed) : ∃ s, f.text = '$' :: s ++ ['"'] := by
  obtain ⟨p, hp, -⟩ := h.part_eq
  exact ⟨p ++ [':'] ++ f.gap ++ '"' :: f.body, by simp [text, head, hp]⟩

@[simp] theorem WellFormed.trim_text (h : f.WellFormed) : trim f.text = f.text := by
  obtain ⟨s, hs⟩ := h.text_eq
  rw [hs]
  exact trim_cons_concat (by decide) (by decide) s

/-- What comes behind a clause has no influence on its rule. -/
theorem WellFormed.read_append (h : f.WellFormed) (t join : Text) :
    read (f.text ++ t) join = some (f.rule join) := by
  obtain ⟨p, hp, hcolon⟩ := h.part_eq
  have hhead : f.head = '$' :: p ++ ':' :: f.gap := by simp [head, hp]
  have hnot : splitNot (f.text ++ t) = (false, f.text ++ t) := by
    have hstart : startsWith (lower (f.text ++ t)) "not ".toList = false := by
      rw [lower, startsWith_lowerAfter (by decide), text_append, hhead]
      rfl
    rw [splitNot, hstart]
    rfl
  have hbefore : before '"' (f.text ++ t) = f.head := by
    rw [text_append, before_append h.unquoted]
  have hpart : before ':' f.head = '$' :: p := by rw [hhead, before_append hcolon]
  have hcontains : f.head.contains ':' = true := by simp [hhead]
  have hrest : trim ((f.text ++ t).drop (('$' :: p).length + 1)) =
      trimLeft f.gap ++ '"' :: (f.body ++ '"' :: trimRight t) := by
    have hdrop : (f.text ++ t).drop (('$' :: p).length + 1) =
        f.gap ++ '"' :: (f.body ++ '"' :: t) := by
      have hsplit : f.text ++ t =
          ('$' :: p ++ [':']) ++ (f.gap ++ '"' :: (f.body ++ '"' :: t)) := by
        simp [text_append, hhead]
      rw [hsplit, List.drop_left' (by simp)]
    have hleft : trimLeft (f.gap ++ '"' :: (f.body ++ '"' :: t)) =
        trimLeft f.gap ++ '"' :: f.body ++ '"' :: t := by
      rw [trimLeft, trimLeft, List.dropWhile_append]
      split
      next hblank =>
        rw [List.isEmpty_iff.1 hblank, List.dropWhile_cons_of_neg (by decide)]
        simp
      next => simp
    rw [hdrop, trim, hleft, Sieve.trimRight_append (by decide)]
    simp
  have hgap : '"' ∉ trimLeft f.gap := by
    intro hmem
    have hsub := (List.dropWhile_sublist _).subset hmem
    exact h.unquoted (List.mem_append_right _ hsub)
  have hquoted : firstQuoted (trimLeft f.gap ++ '"' :: (f.body ++ '"' :: trimRight t)) =
      some (Sieve.unescape f.body) := by
    rw [firstQuoted_append hgap]
    exact quotedBody_of_stringBody? (h.stringBody? _)
  have htrim : trim ('$' :: p ++ [':']) = f.part := by
    rw [trim_cons_concat (by decide) (by decide), hp]
  simp only [read, hnot, hbefore, hcontains, hpart, hrest, hquoted, before_append hgap, htrim,
    if_true, Bool.false_eq_true, if_false, rule]

end Form

/-! The search for a joining word. -/

theorem isPrefixOf_append_of_notMem {c : Char} {p : Text} (h : c ∉ p) (s t : Text) :
    p.isPrefixOf (s ++ c :: t) = p.isPrefixOf s := by
  induction p generalizing s with
  | nil => simp
  | cons x p ih =>
    rw [List.mem_cons, not_or] at h
    cases s with
    | nil =>
      have hx : (x == c) = false := by simpa using Ne.symm h.1
      rw [List.nil_append, List.isPrefixOf_cons_cons, hx]
      rfl
    | cons d s =>
      rw [List.cons_append, List.isPrefixOf_cons_cons, List.isPrefixOf_cons_cons, ih h.2]

/-- A quote behind a text starts no joining word and completes none. -/
theorem startsJoin_lowerAfter_quote (before s t : Text) :
    startsJoin (lowerAfter before (s ++ '"' :: t)) = startsJoin (lower s) := by
  have hquote : '"'.toLower = '"' := by decide
  rw [lower, startsJoin_lowerAfter, startsJoin_lowerAfter, List.map_append, List.map_cons, hquote,
    startsJoin, startsJoin]
  simp only [startsWith]
  rw [isPrefixOf_append_of_notMem (by decide), isPrefixOf_append_of_notMem (by decide)]

/-- No joining word is found before a quote if there is none. The lower-case form may run ahead of
the text at a dotted I, but what is found late there was passed before. -/
theorem startsJoin_drop_lowerAfter {s : Text} (h : Unjoined s) (r before : Text) {k : Nat}
    (hk : k < s.length) :
    startsJoin ((lowerAfter before (s ++ '"' :: r)).drop k) = false := by
  induction s generalizing before k with
  | nil => simp at hk
  | cons c s ih =>
    have hrest : Unjoined s := fun t ht => h t (ht.trans (List.suffix_cons c s))
    cases k with
    | zero =>
      rw [List.drop_zero, startsJoin_lowerAfter_quote]
      exact h _ List.suffix_rfl
    | succ k =>
      have hk' : k < s.length := by simpa using hk
      rw [List.cons_append, lowerAfter_cons]
      rcases lowerPiece_cases before c (s ++ '"' :: r) with ⟨-, hpiece⟩ | ⟨-, d, hpiece, -⟩
      · rw [hpiece, List.cons_append, List.drop_succ_cons]
        cases k with
        | zero => rfl
        | succ k =>
          rw [List.singleton_append, List.drop_succ_cons]
          exact ih hrest _ (by omega)
      · rw [hpiece, List.singleton_append, List.drop_succ_cons]
        exact ih hrest _ hk'

@[simp] theorem joinFrom_quoted_cons {c : Char} (hc : c ≠ '\\') (s low : Text) :
    joinFrom true (c :: s) low = joinFrom (c != '"') s (low.drop 1) + 1 := by
  have hslash : (c == '\\') = false := by simpa using hc
  rw [joinFrom.eq_def]
  simp only [if_true, hslash, Bool.false_eq_true, if_false]

@[simp] theorem joinFrom_opening (s low : Text) :
    joinFrom false ('"' :: s) low = joinFrom true s (low.drop 1) + 1 := by
  rw [joinFrom.eq_def]
  rfl

theorem joinFrom_unquoted_cons {c : Char} (hc : c ≠ '"') (s low : Text) :
    joinFrom false (c :: s) low =
      if startsJoin low then 0 else joinFrom false s (low.drop 1) + 1 := by
  have hquote : (c == '"') = false := by simpa using hc
  rw [joinFrom.eq_def]
  simp only [Bool.false_eq_true, if_false, hquote]

theorem joinFrom_unquoted {s low : Text} (hs : '"' ∉ s)
    (hlow : ∀ k < s.length, startsJoin (low.drop k) = false) (r : Text) :
    joinFrom false (s ++ '"' :: r) low =
      joinFrom true r (low.drop (s.length + 1)) + (s.length + 1) := by
  induction s generalizing low with
  | nil => simp
  | cons c s ih =>
    rw [List.mem_cons, not_or] at hs
    have hfirst : startsJoin low = false := hlow 0 (by simp)
    have hrest : ∀ k < s.length, startsJoin ((low.drop 1).drop k) = false := by
      intro k hk
      rw [List.drop_drop, Nat.add_comm]
      exact hlow (k + 1) (by simpa using hk)
    rw [List.cons_append, joinFrom_unquoted_cons (Ne.symm hs.1), hfirst,
      if_neg Bool.false_ne_true, ih hs.2 hrest, List.drop_drop, List.length_cons, Nat.add_comm 1]
    omega

/-- Inside a string the search goes on to its end. -/
theorem joinFrom_quoted {s b r : Text} (h : Sieve.Token.stringBody? s = some (b, r)) (low : Text) :
    joinFrom true s low = joinFrom false r (low.drop (b.length + 1)) + (b.length + 1) := by
  refine Sieve.Token.stringBody?_induction (motive := fun s b r => ∀ low,
      joinFrom true s low = joinFrom false r (low.drop (b.length + 1)) + (b.length + 1))
    ?_ ?_ ?_ h low
  · intro r low
    exact joinFrom_quoted_cons (by decide) r low
  · intro c s b r ih low
    have hstep : joinFrom true ('\\' :: c :: s) low = joinFrom true s (low.drop 2) + 2 := rfl
    rw [hstep, ih, List.drop_drop, List.length_cons, List.length_cons,
      show b.length + 1 + 1 + 1 = 2 + (b.length + 1) by omega]
    omega
  · intro c s b r hquote hslash ih low
    have hinside : (c != '"') = true := by simpa using hquote
    rw [joinFrom_quoted_cons hslash, hinside, ih, List.drop_drop, List.length_cons,
      show b.length + 1 + 1 = 1 + (b.length + 1) by omega]
    omega

namespace Form

variable {f : Form}

/-- The search passes over a clause. -/
theorem WellFormed.joinFrom_append (h : f.WellFormed) (t : Text) :
    joinFrom false (f.text ++ t) (lower (f.text ++ t)) =
      joinFrom false t ((lower (f.text ++ t)).drop f.text.length) + f.text.length := by
  have hlength : f.text.length = f.body.length + 1 + (f.head.length + 1) := by
    simp [text]
    omega
  have hlow : ∀ k < f.head.length, startsJoin ((lower (f.text ++ t)).drop k) = false := by
    intro k hk
    rw [text_append]
    exact startsJoin_drop_lowerAfter h.unjoined _ _ hk
  generalize lower (f.text ++ t) = low at hlow ⊢
  rw [text_append, joinFrom_unquoted h.unquoted hlow, joinFrom_quoted (h.stringBody? t),
    List.drop_drop, hlength, Nat.add_comm (f.head.length + 1)]
  omega

end Form

/-! Clauses behind joining words. -/

/-- The word joins clauses. -/
def IsJoin (j : Text) : Prop := j = "or".toList ∨ j = "and".toList

/-- Clauses, each behind its joining word. -/
def joined (cs : List (Text × Form)) : Text :=
  cs.flatMap fun c => ' ' :: c.1 ++ ' ' :: c.2.text

@[simp] theorem joined_cons (j : Text) (f : Form) (cs : List (Text × Form)) :
    joined ((j, f) :: cs) = ' ' :: j ++ ' ' :: (f.text ++ joined cs) := by simp [joined]

theorem startsJoin_joined {j : Text} (hj : IsJoin j) (before t : Text) :
    startsJoin (lowerAfter before (' ' :: j ++ ' ' :: t)) = true := by
  rw [startsJoin_lowerAfter]
  rcases hj with rfl | rfl
  · rfl
  · rfl

/-- The first joining word is found where it is. -/
theorem joinFrom_joined {cs : List (Text × Form)} (hj : ∀ c ∈ cs, IsJoin c.1) (before : Text) :
    joinFrom false (joined cs) (lowerAfter before (joined cs)) = 0 := by
  cases cs with
  | nil => rfl
  | cons c cs =>
    obtain ⟨j, f⟩ := c
    rw [joined_cons]
    have hstart := startsJoin_joined (hj (j, f) (by simp)) before (f.text ++ joined cs)
    rw [List.cons_append] at hstart ⊢
    rw [joinFrom_unquoted_cons (by decide), hstart, if_pos rfl]

theorem text_append_joined_ends (f : Form) (cs : List (Text × Form)) :
    ∃ s, f.text ++ joined cs = s ++ ['"'] := by
  induction cs generalizing f with
  | nil => exact ⟨f.head ++ '"' :: f.body, by simp [joined, Form.text]⟩
  | cons c cs ih =>
    obtain ⟨j, g⟩ := c
    obtain ⟨s, hs⟩ := ih g
    exact ⟨f.text ++ ' ' :: j ++ ' ' :: s, by rw [joined_cons, hs]; simp⟩

theorem trim_text_append_joined {f : Form} (h : f.WellFormed) (cs : List (Text × Form)) :
    trim (f.text ++ joined cs) = f.text ++ joined cs := by
  obtain ⟨t, ht⟩ := h.text_eq
  obtain ⟨s, hs⟩ := text_append_joined_ends f cs
  cases s with
  | nil => rw [ht] at hs; simp at hs
  | cons c s =>
    have hc : c = '$' := by
      rw [ht] at hs
      simpa using (List.cons.inj hs).1.symm
    rw [hs, hc]
    exact trim_cons_concat (by decide) (by decide) s

theorem trim_joined_cons {j : Text} (hj : IsJoin j) (f : Form) (cs : List (Text × Form)) :
    trim (joined ((j, f) :: cs)) = j ++ ' ' :: (f.text ++ joined cs) := by
  obtain ⟨s, hs⟩ := text_append_joined_ends f cs
  have hword : ∃ c u, j = c :: u ∧ isBlank c = false := by
    rcases hj with rfl | rfl
    · exact ⟨'o', ['r'], rfl, by decide⟩
    · exact ⟨'a', ['n', 'd'], rfl, by decide⟩
  obtain ⟨c, u, rfl, hc⟩ := hword
  have hblank := trim_blank_append (b := [' ']) (by decide) (c :: u ++ ' ' :: (s ++ ['"']))
  have htrim := trim_cons_concat (d := '"') hc (by decide) (u ++ ' ' :: s)
  rw [joined_cons, hs]
  simp only [List.cons_append, List.append_assoc, List.nil_append] at hblank htrim ⊢
  rw [hblank, htrim]

/-- Capital letters A to Z apart, a joining word is written in one way. -/
theorem isJoin_lower_iff {w : Text} : IsJoin (lower w) ↔ IsJoin (w.map Char.toLower) :=
  or_congr (lowerAfter_eq_iff (by decide)) (lowerAfter_eq_iff (by decide))

/-- A joining word in front is taken off. -/
theorem splitJoin_word {w : Text} (h : IsJoin (lower w)) (t : Text) :
    splitJoin (w ++ ' ' :: t) = (lower w, trim t) := by
  have hstart (p : Text) (hp : ∀ x ∈ p, IsSteady x) :
      startsWith (lower (w ++ ' ' :: t)) p =
        startsWith (w.map Char.toLower ++ ' ' :: t.map Char.toLower) p := by
    rw [lower, startsWith_lowerAfter hp, List.map_append]
    rfl
  have hdrop : (w ++ ' ' :: t).drop (w.length + 1) = t := by
    rw [List.append_cons, List.drop_left' (by simp)]
  rw [splitJoin]
  simp only [hstart "or ".toList (by decide), hstart "and ".toList (by decide)]
  rcases isJoin_lower_iff.1 h with hw | hw
  · have hlower : lower w = "or".toList := (lowerAfter_eq_iff (by decide)).2 hw
    have hlength : w.length = 2 := by simpa using congrArg List.length hw
    rw [hlength] at hdrop
    have hor : startsWith ("or".toList ++ ' ' :: t.map Char.toLower) "or ".toList = true := rfl
    rw [hw, if_pos hor, hdrop, hlower]
  · have hlower : lower w = "and".toList := (lowerAfter_eq_iff (by decide)).2 hw
    have hlength : w.length = 3 := by simpa using congrArg List.length hw
    rw [hlength] at hdrop
    have hor : startsWith ("and".toList ++ ' ' :: t.map Char.toLower) "or ".toList = false := rfl
    have hand : startsWith ("and".toList ++ ' ' :: t.map Char.toLower) "and ".toList = true := rfl
    rw [hw, if_neg (Bool.eq_false_iff.1 hor), if_pos hand, hdrop, hlower]

theorem splitJoin_cons {j : Text} (hj : IsJoin j) {f : Form} (h : f.WellFormed)
    (cs : List (Text × Form)) :
    splitJoin (j ++ ' ' :: (f.text ++ joined cs)) = (j, f.text ++ joined cs) := by
  have hlower : lower j = j := by
    rcases hj with rfl | rfl
    · rfl
    · rfl
  rw [splitJoin_word (by rwa [hlower]), hlower, trim_text_append_joined h]

/-- One step of reading: the clause in front gives its rule, and reading goes on behind it. -/
theorem readFrom_clause {first : Bool} {s j : Text} {f : Form} {cs : List (Text × Form)}
    (hstart : clauseStart first s = (j, f.text ++ joined cs)) (hf : f.WellFormed)
    (hdot : dottedI ∉ f.text) (hj : ∀ c ∈ cs, IsJoin c.1) :
    readFrom first s = .rule (f.rule j) :: readFrom false (joined cs) := by
  have hcut : joinIndex (f.text ++ joined cs) = f.text.length := by
    rw [joinIndex, hf.joinFrom_append, lower, drop_lowerAfter hdot, joinFrom_joined hj,
      Nat.zero_add]
  have hreading : reading f.text j = .rule (f.rule j) := by
    have hread := hf.read_append [] j
    rw [List.append_nil] at hread
    rw [reading, hread]
  have hne : f.text ≠ [] := by simp [Form.text]
  rw [readFrom_eq, hstart]
  simp only [hcut, List.take_left', List.drop_left', hf.trim_text, hreading]
  rw [if_neg (by simp [hne])]

/-- Every clause behind a joining word gives its rule. -/
theorem readFrom_joined {cs : List (Text × Form)} (hj : ∀ c ∈ cs, IsJoin c.1)
    (hf : ∀ c ∈ cs, c.2.WellFormed ∧ dottedI ∉ c.2.text) :
    readFrom false (joined cs) = cs.map fun c => .rule (c.2.rule c.1) := by
  induction cs with
  | nil => rw [readFrom_eq]; rfl
  | cons c cs ih =>
    obtain ⟨j, f⟩ := c
    obtain ⟨hform, hdot⟩ := hf (j, f) (by simp)
    have hjoin := hj (j, f) (by simp)
    have hrest := ih (fun d hd => hj d (by simp [hd])) fun d hd => hf d (by simp [hd])
    have hstart : clauseStart false (joined ((j, f) :: cs)) = (j, f.text ++ joined cs) := by
      rw [clauseStart, if_neg Bool.false_ne_true, trim_joined_cons hjoin]
      exact splitJoin_cons hjoin hform cs
    rw [readFrom_clause hstart hform hdot fun d hd => hj d (by simp [hd]), hrest]
    rfl

theorem filterMap_rule? (rs : List Rule) : (rs.map Reading.rule).filterMap (·.rule?) = rs := by
  rw [List.filterMap_map]
  exact List.filterMap_some

/-- The text of clauses is read as the rules of the clauses, the first of them marked with `or`. -/
theorem parse_clauses {f : Form} {cs : List (Text × Form)} (hj : ∀ c ∈ cs, IsJoin c.1)
    (hf : f.WellFormed ∧ dottedI ∉ f.text)
    (hcs : ∀ c ∈ cs, c.2.WellFormed ∧ dottedI ∉ c.2.text) :
    Rule.parse (f.text ++ joined cs) = f.rule "or".toList :: cs.map fun c => c.2.rule c.1 := by
  have hall : readAll (f.text ++ joined cs) =
      (f.rule "or".toList :: cs.map fun c => c.2.rule c.1).map .rule := by
    have hstart := clauseStart_true (trim_text_append_joined hf.1 cs)
    rw [readAll, readFrom_clause hstart hf.1 hf.2 hj, readFrom_joined hj hcs, List.map_cons,
      List.map_map]
    rfl
  rw [Rule.parse, hall, filterMap_rule?]

/-- Whatever comes behind it, the first clause is read, and its rule is marked with `or`. -/
theorem parse_first_clause {f : Form} (hf : f.WellFormed) (cs : List (Text × Form)) :
    ∃ rs, Rule.parse (f.text ++ joined cs) = f.rule "or".toList :: rs := by
  have hcut := hf.joinFrom_append (joined cs)
  rw [← joinIndex] at hcut
  generalize joinFrom false (joined cs) _ = n at hcut
  have htake : (f.text ++ joined cs).take (joinIndex (f.text ++ joined cs)) =
      f.text ++ (joined cs).take n := by
    rw [hcut, Nat.add_comm, List.take_length_add_append]
  have htrim : trim (f.text ++ (joined cs).take n) = f.text ++ trimRight ((joined cs).take n) := by
    obtain ⟨s, hs⟩ := hf.text_eq
    rw [hs, trim, List.cons_append, List.cons_append, trimLeft_cons (by decide), List.append_assoc,
      ← List.cons_append, List.singleton_append, Sieve.trimRight_append (by decide)]
    simp
  have hne : f.text ++ joined cs ≠ [] := by simp [Form.text]
  rw [Rule.parse, readAll, readFrom_eq, clauseStart_true (trim_text_append_joined hf cs)]
  simp only [hne, if_false, htake, htrim, reading, hf.read_append]
  exact ⟨_, List.filterMap_cons_some rfl⟩

end MailFilter.Clause

namespace MailFilter.Sieve

open Clause Text

/-! How clauses are joined in a script. -/

/-- A first rule that is marked with `or` makes the rules a disjunction. -/
@[simp] theorem ofRules_of_first_or {r : Rule} (h : r.join = "or".toList) (rs : List Rule) :
    Junction.ofRules (r :: rs) = .anyOf := by
  have hmark : Junction.mark r = "or".toList := by
    rw [Junction.mark, h]
    decide
  have hor : (r :: rs).any (fun q => Junction.mark q == "or".toList || Junction.mark q == []) =
      true := by
    rw [List.any_cons, hmark]
    rfl
  rw [Junction.ofRules, hor, Bool.not_true, Bool.and_false, if_neg Bool.false_ne_true]

@[simp] theorem ofRules_cons_cons (r q : Rule) (rs : List Rule) :
    Condition.ofRules (r :: q :: rs) =
      .joined (.ofRules (r :: q :: rs)) ((r :: q :: rs).map Test.ofRule) := rfl

theorem join_and_texts (f : Form) (fs : List Form) :
    join " and ".toList ((f :: fs).map Form.text) =
      f.text ++ joined (fs.map fun g => ("and".toList, g)) := by
  induction fs generalizing f with
  | nil => simp [join, joined]
  | cons g fs ih =>
    rw [List.map_cons, join_cons (by simp), ih, List.map_cons, joined_cons]
    simp

/-- Clauses that are all joined by `and` never become a conjunction: their first rule is marked
with `or`. Unless a dotted I moves the joining words, they become the disjunction of all of them. -/
theorem ofRules_parse_conjunction {f : Form} {fs : List Form} (hfs : fs ≠ [])
    (h : ∀ g ∈ f :: fs, g.WellFormed) :
    (∀ ts, Condition.ofRules (Rule.parse (join " and ".toList ((f :: fs).map Form.text))) ≠
      .joined .allOf ts) ∧
    ((∀ g ∈ f :: fs, dottedI ∉ g.text) →
      Condition.ofRules (Rule.parse (join " and ".toList ((f :: fs).map Form.text))) =
        .joined .anyOf (Test.ofRule (f.rule "or".toList) ::
          fs.map fun g => Test.ofRule (g.rule "and".toList))) := by
  obtain ⟨hf, hrest⟩ := List.forall_mem_cons.1 h
  rw [join_and_texts]
  constructor
  · intro ts
    obtain ⟨rs, hrs⟩ := parse_first_clause hf (fs.map fun g => ("and".toList, g))
    rw [hrs]
    cases rs with
    | nil => exact fun hsingle => by cases hsingle
    | cons r rs =>
      rw [ofRules_cons_cons, ofRules_of_first_or rfl]
      exact fun hjoined => by cases hjoined
  · intro hdot
    obtain ⟨hdotf, hdots⟩ := List.forall_mem_cons.1 hdot
    obtain ⟨g, gs, rfl⟩ := List.exists_cons_of_ne_nil hfs
    have hjoins : ∀ c ∈ (g :: gs).map fun k => ("and".toList, k), IsJoin c.1 :=
      List.forall_mem_map.2 fun k _ => .inr rfl
    have hforms : ∀ c ∈ (g :: gs).map fun k => ("and".toList, k),
        c.2.WellFormed ∧ dottedI ∉ c.2.text :=
      List.forall_mem_map.2 fun k hk => ⟨hrest k hk, hdots k hk⟩
    rw [parse_clauses hjoins ⟨hf, hdotf⟩ hforms, List.map_map, List.map_cons,
      ofRules_cons_cons, ofRules_of_first_or rfl]
    simp [Function.comp_def]

/-- The clauses `$header_subject: contains "cron"` and `$header_from: is "root@example.com"`. -/
def cronClauses : Form × Form :=
  (⟨"$header_subject:".toList, " contains ".toList, "cron".toList⟩,
    ⟨"$header_from:".toList, " is ".toList, "root@example.com".toList⟩)

theorem wellFormed_cronClauses : cronClauses.1.WellFormed ∧ cronClauses.2.WellFormed := by
  have hsubject : ∀ t ∈ cronClauses.1.head.tails, startsJoin (lower t) = false := by decide
  have hsender : ∀ t ∈ cronClauses.2.head.tails, startsJoin (lower t) = false := by decide
  constructor
  · exact ⟨rfl, ⟨"$header_subject".toList, rfl, by decide⟩, by decide, by decide, fun t ht =>
      hsubject t ((List.mem_tails t _).2 ht)⟩
  · exact ⟨rfl, ⟨"$header_from".toList, rfl, by decide⟩, by decide, by decide, fun t ht =>
      hsender t ((List.mem_tails t _).2 ht)⟩

theorem ofRules_parse_cronClauses :
    (∀ g ∈ [cronClauses.1, cronClauses.2], g.WellFormed) ∧
      Condition.ofRules
          (Rule.parse (join " and ".toList ([cronClauses.1, cronClauses.2].map Form.text))) =
        .joined .anyOf [.ofRule (cronClauses.1.rule "or".toList),
          .ofRule (cronClauses.2.rule "and".toList)] := by
  have hforms : ∀ g ∈ [cronClauses.1, cronClauses.2], g.WellFormed :=
    List.forall_mem_cons.2 ⟨wellFormed_cronClauses.1,
      List.forall_mem_singleton.2 wellFormed_cronClauses.2⟩
  exact ⟨hforms, (ofRules_parse_conjunction (List.cons_ne_nil _ _) hforms).2 (by decide)⟩

/-- A message from anybody with the right subject meets the condition of both clauses. -/
theorem conditionHolds_cron_alone :
    let rs := Rule.parse
      "$header_subject: contains \"cron\" and $header_from: is \"root@example.com\"".toList
    (Condition.ofRules rs).text = ("anyof (\n    header :contains \"Subject\" \"cron\",\n" ++
        "    address :is \"From\" \"root@example.com\"\n)").toList ∧
      conditionHolds (fun p => p.pattern == "cron".toList) rs = true := by
  decide +kernel

end MailFilter.Sieve
