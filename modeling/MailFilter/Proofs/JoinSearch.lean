import MailFilter.Proofs.Clauses

/-!
# Where clauses are cut

The conditions of a filter are cut at joining words outside quoted strings. The search for such a
word keeps one position in two texts, the conditions and their lower-case form. The two agree as
long as no dotted I has been passed: behind it the lower-case form is one character longer for each
of them, a joining word is looked for where it is not, and a clause is cut too late.

Without a dotted I the conditions are cut where they should be: every clause has its own characters
and none of its neighbour's.
-/
namespace MailFilter.Clause

open Text

/-! Positions outside quoted strings. -/

/-- Where a position stands: outside quoted strings, inside one, or inside one and behind a
backslash that protects the next character. -/
inductive Zone where
  | outside
  | inside
  | escaped
  deriving DecidableEq, Repr

namespace Zone

/-- The zone in which the search goes on after a whole character of a string. -/
def ofQuoted : Bool → Zone
  | true => inside
  | false => outside

/-- The zone behind one more character. -/
def next : Zone → Char → Zone
  | outside, c => if c == '"' then inside else outside
  | inside, c => if c == '"' then outside else if c == '\\' then escaped else inside
  | escaped, _ => inside

/-- The zone behind a text. -/
def behind (z : Zone) (s : Text) : Zone := s.foldl next z

@[simp] theorem behind_cons (z : Zone) (c : Char) (s : Text) :
    z.behind (c :: s) = (z.next c).behind s := rfl

end Zone

/-- The position lies outside quoted strings. -/
def Outside (s : Text) (i : Nat) : Prop := Zone.behind .outside (s.take i) = .outside

instance (s : Text) (i : Nat) : Decidable (Outside s i) := inferInstanceAs (Decidable (_ = _))

/-- Read from the position on and in lower case, the text begins with a joining word between
blanks. -/
def JoinsAt (s : Text) (i : Nat) : Prop := startsJoin (lower (s.drop i)) = true

instance (s : Text) (i : Nat) : Decidable (JoinsAt s i) := inferInstanceAs (Decidable (_ = _))

/-- The number is the least one with the property, or the bound if there is none below it. -/
structure IsFirst (p : Nat → Prop) (bound i : Nat) : Prop where
  le : i ≤ bound
  not_before : ∀ j < i, ¬p j
  holds : i < bound → p i

instance (p : Nat → Prop) [DecidablePred p] (bound i : Nat) : Decidable (IsFirst p bound i) :=
  decidable_of_iff (i ≤ bound ∧ (∀ j < i, ¬p j) ∧ (i < bound → p i))
    ⟨fun h => ⟨h.1, h.2.1, h.2.2⟩, fun h => ⟨h.le, h.not_before, h.holds⟩⟩

namespace IsFirst

variable {p q : Nat → Prop} {bound i j : Nat}

theorem eq (h : IsFirst p bound i) (h' : IsFirst p bound j) : i = j := by
  rcases Nat.lt_trichotomy i j with hlt | heq | hlt
  · exact absurd (h.holds (Nat.lt_of_lt_of_le hlt h'.le)) (h'.not_before i hlt)
  · exact heq
  · exact absurd (h'.holds (Nat.lt_of_lt_of_le hlt h.le)) (h.not_before j hlt)

theorem bound_zero : IsFirst p 0 0 :=
  ⟨Nat.le_refl 0, fun _ hj => absurd hj (Nat.not_lt_zero _),
    fun hlt => absurd hlt (Nat.lt_irrefl 0)⟩

/-- A search that ends at once. -/
theorem zero (h : p 0) : IsFirst p bound 0 :=
  ⟨Nat.zero_le bound, fun _ hj => absurd hj (Nat.not_lt_zero _), fun _ => h⟩

/-- One step of a search: the first number does not have the property. -/
theorem succ (hzero : ¬p 0) (h : IsFirst (fun k => p (k + 1)) bound i) :
    IsFirst p (bound + 1) (i + 1) := by
  refine ⟨Nat.succ_le_succ h.le, fun j hj => ?_, fun hlt => h.holds (Nat.lt_of_succ_lt_succ hlt)⟩
  cases j with
  | zero => exact hzero
  | succ j => exact h.not_before j (Nat.lt_of_succ_lt_succ hj)

theorem congr (h : IsFirst p bound i) (hpq : ∀ j ≤ i, p j ↔ q j) : IsFirst q bound i :=
  ⟨h.le, fun j hj hq => h.not_before j hj ((hpq j (Nat.le_of_lt hj)).2 hq),
    fun hlt => (hpq i (Nat.le_refl i)).1 (h.holds hlt)⟩

end IsFirst

/-- At the position of both texts the search stops: outside quoted strings, not at an opening quote
and with a joining word in the lower-case form. -/
def StopsAt (z : Zone) (s low : Text) (i : Nat) : Prop :=
  z.behind (s.take i) = .outside ∧ s[i]? ≠ some '"' ∧ startsJoin (low.drop i) = true

@[simp] theorem stopsAt_cons_succ {z : Zone} {c : Char} {s low : Text} {i : Nat} :
    StopsAt z (c :: s) low (i + 1) ↔ StopsAt (z.next c) s (low.drop 1) i := by
  simp [StopsAt]

theorem not_stopsAt_zero {z : Zone} (hz : z ≠ .outside) (s low : Text) : ¬StopsAt z s low 0 :=
  fun h => hz h.1

/-- One step of the search that does not stop. -/
theorem IsFirst.stopsAt_cons {z : Zone} {c : Char} {s low : Text} {i : Nat}
    (hzero : ¬StopsAt z (c :: s) low 0)
    (h : IsFirst (StopsAt (z.next c) s (low.drop 1)) s.length i) :
    IsFirst (StopsAt z (c :: s) low) (c :: s).length (i + 1) :=
  .succ hzero (h.congr fun _ _ => stopsAt_cons_succ.symm)

/-- The search ends at the first position where it can stop. -/
theorem isFirst_joinFrom (quoted : Bool) (s low : Text) :
    IsFirst (StopsAt (.ofQuoted quoted) s low) s.length (joinFrom quoted s low) := by
  have hinside := not_stopsAt_zero (z := .inside) (by decide)
  fun_induction joinFrom quoted s low with
  | case1 quoted low => exact .bound_zero
  | case2 c low hslash =>
    -- A backslash at the very end protects nothing.
    exact .stopsAt_cons (hinside _ _) .bound_zero
  | case3 c low hslash d r ih =>
    obtain rfl := beq_iff_eq.1 hslash
    have hescaped := not_stopsAt_zero (z := .escaped) (by decide) (d :: r) (low.drop 1)
    have hdrop : low.drop 2 = (low.drop 1).drop 1 := by rw [List.drop_drop]
    rw [hdrop] at ih ⊢
    exact .stopsAt_cons (hinside _ _) (.stopsAt_cons hescaped ih)
  | case4 c s low hslash ih =>
    have hnext : Zone.next .inside c = .ofQuoted (c != '"') := by
      by_cases hquote : c = '"'
      · rw [hquote]
        rfl
      · have hne : (c != '"') = true := bne_iff_ne.2 hquote
        rw [hne, Zone.next, if_neg (by simpa using hquote), if_neg hslash, Zone.ofQuoted]
    exact .stopsAt_cons (hinside _ _) (hnext ▸ ih)
  | case5 quoted c s low hquoted hquote ih =>
    obtain rfl := Bool.eq_false_iff.2 hquoted
    obtain rfl := beq_iff_eq.1 hquote
    exact .stopsAt_cons (fun h => h.2.1 rfl) ih
  | case6 quoted c s low hquoted hquote hjoin =>
    obtain rfl := Bool.eq_false_iff.2 hquoted
    exact .zero ⟨rfl, by simpa using hquote, hjoin⟩
  | case7 quoted c s low hquoted hquote hjoin ih =>
    obtain rfl := Bool.eq_false_iff.2 hquoted
    have hnext : Zone.next .outside c = .outside := by simp_all [Zone.next]
    refine .stopsAt_cons (fun h => hjoin h.2.2) ?_
    rwa [Zone.ofQuoted, hnext]

/-! Positions in the lower-case form. -/

/-- The position in the lower-case form that belongs to a position in the text: every dotted I in
front of it counts twice. -/
def lowerPosition (s : Text) (i : Nat) : Nat := i + (s.take i).count dottedI

@[simp] theorem lowerPosition_zero (s : Text) : lowerPosition s 0 = 0 := rfl

@[simp] theorem lowerPosition_dottedI (s : Text) (i : Nat) :
    lowerPosition (dottedI :: s) (i + 1) = lowerPosition s i + 2 := by
  simp only [lowerPosition, List.take_succ_cons, List.count_cons_self]
  omega

@[simp] theorem lowerPosition_cons {c : Char} (h : c ≠ dottedI) (s : Text) (i : Nat) :
    lowerPosition (c :: s) (i + 1) = lowerPosition s i + 1 := by
  simp only [lowerPosition, List.take_succ_cons, List.count_cons_of_ne h]
  omega

@[simp] theorem le_lowerPosition (s : Text) (i : Nat) :
    i ≤ lowerPosition s i := Nat.le_add_right _ _

theorem lowerPosition_eq_self {s : Text} {i : Nat} :
    lowerPosition s i = i ↔ dottedI ∉ s.take i := by
  rw [← List.count_eq_zero, lowerPosition]
  omega

@[simp] theorem joinsAt_cons_succ {c : Char} {s : Text} {i : Nat} :
    JoinsAt (c :: s) (i + 1) ↔ JoinsAt s i := Iff.rfl

/-- Whether a joining word starts a text does not depend on what stands before it. -/
theorem joinsAt_zero_iff {s : Text} (before : Text) :
    JoinsAt s 0 ↔ startsJoin (lowerAfter before s) = true := by
  rw [JoinsAt, List.drop_zero, lower, startsJoin_lowerAfter, startsJoin_lowerAfter]

@[simp] theorem not_joinsAt_dottedI (s : Text) : ¬JoinsAt (dottedI :: s) 0 := by
  have hfirst : startsJoin ((dottedI :: s).map Char.toLower) = false := rfl
  rw [joinsAt_zero_iff [], startsJoin_lowerAfter, hfirst]
  exact Bool.false_ne_true

/-- The joining words of the lower-case form are those of the text. -/
theorem startsJoin_drop_lowerAfter_iff {before s : Text} {k : Nat} :
    startsJoin ((lowerAfter before s).drop k) = true ↔
      ∃ j, JoinsAt s j ∧ k = lowerPosition s j := by
  induction s generalizing before k with
  | nil =>
    have hnone : startsJoin [] ≠ true := by decide
    refine iff_of_false ?_ ?_
    · rwa [lowerAfter, List.drop_nil]
    · rintro ⟨j, hj, -⟩
      rw [JoinsAt, List.drop_nil] at hj
      exact hnone hj
  | cons c s ih =>
    rw [← Nat.or_exists_add_one]
    simp only [joinsAt_cons_succ, lowerPosition_zero]
    rcases lowerPiece_cases before c s with ⟨rfl, hpiece⟩ | ⟨hdot, d, hpiece, -⟩
    · simp only [lowerPosition_dottedI, not_joinsAt_dottedI, false_and, false_or]
      rw [lowerAfter_cons, hpiece]
      rcases k with _ | _ | k
      · exact iff_of_false Bool.false_ne_true (by simp)
      · exact iff_of_false Bool.false_ne_true (by simp)
      · rw [List.cons_append, List.drop_succ_cons, List.singleton_append, List.drop_succ_cons, ih]
        simp only [Nat.add_right_cancel_iff]
    · simp only [lowerPosition_cons hdot]
      cases k with
      | zero =>
        rw [List.drop_zero, ← joinsAt_zero_iff before]
        simp
      | succ k =>
        rw [lowerAfter_cons, hpiece, List.singleton_append, List.drop_succ_cons, ih]
        simp

theorem exists_of_startsWith_word {j s : Text}
    (h : startsWith (s.map Char.toLower) (' ' :: j ++ [' ']) = true) :
    ∃ w t, s = ' ' :: (w ++ ' ' :: t) ∧ w.map Char.toLower = j := by
  have hspace {c : Char} (hc : c.toLower = ' ') : c = ' ' :=
    not_not.1 fun hne => toLower_ne_space hne hc
  obtain ⟨r, hr⟩ := List.isPrefixOf_iff_prefix.1 h
  obtain ⟨u, t, rfl, hu, -⟩ := List.map_eq_append_iff.1 hr.symm
  obtain ⟨v, e, rfl, hv, he⟩ := List.map_eq_append_iff.1 hu
  obtain ⟨c, w, rfl, hc, hw⟩ := List.map_eq_cons_iff.1 hv
  obtain ⟨d, rfl, hd⟩ := List.map_eq_singleton_iff.1 he
  exact ⟨w, t, by rw [hspace hc, hspace hd]; simp, hw⟩

/-- A joining word stands between spaces. -/
theorem JoinsAt.exists_word {s : Text} {i : Nat} (h : JoinsAt s i) :
    ∃ w t, s.drop i = ' ' :: (w ++ ' ' :: t) ∧ IsJoin (lower w) := by
  rw [JoinsAt, lower, startsJoin_lowerAfter, startsJoin, Bool.or_eq_true] at h
  rcases h with h | h
  · obtain ⟨w, t, hs, hw⟩ := exists_of_startsWith_word (j := "or".toList) h
    exact ⟨w, t, hs, isJoin_lower_iff.2 (.inl hw)⟩
  · obtain ⟨w, t, hs, hw⟩ := exists_of_startsWith_word (j := "and".toList) h
    exact ⟨w, t, hs, isJoin_lower_iff.2 (.inr hw)⟩

theorem JoinsAt.getElem? {s : Text} {i : Nat} (h : JoinsAt s i) : s[i]? = some ' ' := by
  obtain ⟨w, t, hs, -⟩ := h.exists_word
  rw [← List.head?_drop, hs, List.head?_cons]

/-! Where the search stops. -/

/-- The position is outside quoted strings, and a joining word starts there. -/
def CutsAt (s : Text) (i : Nat) : Prop := Outside s i ∧ JoinsAt s i

instance (s : Text) (i : Nat) : Decidable (CutsAt s i) := inferInstanceAs (Decidable (_ ∧ _))

/-- What the search finds: the first position outside quoted strings, and not at an opening quote,
that belongs in the lower-case form to a joining word. -/
theorem isFirst_joinIndex (s : Text) :
    IsFirst (fun i => Outside s i ∧ s[i]? ≠ some '"' ∧ ∃ j, JoinsAt s j ∧ i = lowerPosition s j)
      s.length (joinIndex s) :=
  (isFirst_joinFrom false s (lower s)).congr fun _ _ =>
    and_congr_right fun _ => and_congr_right fun _ => startsJoin_drop_lowerAfter_iff

/-- Up to a position without a dotted I in front of it, the search sees the joining words where
they are. -/
theorem cutsAt_iff {s : Text} {i j : Nat} (hdot : dottedI ∉ s.take i) (hj : j ≤ i) :
    CutsAt s j ↔
      Outside s j ∧ s[j]? ≠ some '"' ∧ ∃ k, JoinsAt s k ∧ j = lowerPosition s k := by
  have hself {k : Nat} (hk : k ≤ i) : lowerPosition s k = k :=
    lowerPosition_eq_self.2 fun hmem => hdot ((List.take_prefix_take_left hk).subset hmem)
  constructor
  · rintro ⟨hout, hjoin⟩
    exact ⟨hout, by rw [hjoin.getElem?]; decide, j, hjoin, (hself hj).symm⟩
  · rintro ⟨hout, -, k, hjoin, hk⟩
    have hle : k ≤ j := hk ▸ le_lowerPosition s k
    rw [hself (Nat.le_trans hle hj)] at hk
    exact ⟨hout, hk ▸ hjoin⟩

/-- With no dotted I in front of it, the first joining word outside quoted strings is found. -/
theorem joinIndex_eq {s : Text} {i : Nat} (h : IsFirst (CutsAt s) s.length i)
    (hdot : dottedI ∉ s.take i) : joinIndex s = i :=
  (isFirst_joinIndex s).eq (h.congr fun _ hj => cutsAt_iff hdot hj)

theorem isFirst_cutsAt_joinIndex {s : Text} (hdot : dottedI ∉ s) :
    IsFirst (CutsAt s) s.length (joinIndex s) :=
  (isFirst_joinIndex s).congr fun _ hj =>
    (cutsAt_iff (fun hmem => hdot (List.mem_of_mem_take hmem)) hj).symm

/-- A joining word before all others and outside quoted strings is found exactly when no dotted I
stands in front of it. -/
theorem joinIndex_eq_iff {s : Text} {i : Nat} (hfirst : ∀ j < i, ¬JoinsAt s j)
    (hcut : CutsAt s i) : joinIndex s = i ↔ dottedI ∉ s.take i := by
  have hlt : i < s.length := List.getElem?_eq_some_iff.1 hcut.2.getElem? |>.1
  constructor
  · intro hindex
    obtain ⟨-, -, k, hjoin, hk⟩ := (isFirst_joinIndex s).holds (hindex ▸ hlt)
    rw [hindex] at hk
    have hle : k ≤ i := hk ▸ le_lowerPosition s k
    obtain rfl : k = i := Nat.le_antisymm hle (Nat.le_of_not_lt fun h => hfirst k h hjoin)
    exact lowerPosition_eq_self.1 hk.symm
  · exact joinIndex_eq ⟨Nat.le_of_lt hlt, fun j hj h => hfirst j hj h.2, fun _ => hcut⟩

/-! Cutting conditions into clauses. -/

/-- The text, which stands behind the joining word, is cut into clauses, each with the joining word
that it stands behind. A clause ends where the first joining word outside quoted strings starts, and
the next one has all that follows this word; only blanks around clauses are left out. -/
inductive Division : Text → Text → List (Text × Text) → Prop
  | nothing {j} : Division j [] []
  | last {j s} : s ≠ [] → IsFirst (CutsAt s) s.length s.length → Division j s [(j, s)]
  | cut {j s w t cs} :
      IsFirst (CutsAt (s ++ ' ' :: (w ++ ' ' :: t))) (s ++ ' ' :: (w ++ ' ' :: t)).length s.length →
      IsJoin (lower w) → Division (lower w) (trim t) cs →
      Division j (s ++ ' ' :: (w ++ ' ' :: t)) ((j, trim s) :: cs)

theorem toLower_of_isBlank {c : Char} (h : isBlank c = true) : c.toLower = c := by
  have hall : ∀ n < 128, isBlank (Char.ofNat n) = true →
      (Char.ofNat n).toLower = Char.ofNat n := by decide
  rcases toLower_cases c with hsame | hle
  · exact hsame
  · have hlower := hall c.toNat (by omega)
    rw [Char.ofNat_toNat] at hlower
    exact hlower h

/-- A joining word in any case starts with a letter. -/
theorem exists_cons_of_isJoin {w : Text} (h : IsJoin (lower w)) :
    ∃ c u, w = c :: u ∧ isBlank c = false := by
  have hletter {c x : Char} (hx : isBlank x = false) (hc : c.toLower = x) : isBlank c = false := by
    by_contra hblank
    rw [toLower_of_isBlank (Bool.not_eq_false _ ▸ hblank)] at hc
    exact hblank (hc ▸ hx)
  rcases isJoin_lower_iff.1 h with hw | hw
  · obtain ⟨c, u, rfl, hc, -⟩ := List.map_eq_cons_iff.1 (hw : w.map Char.toLower = 'o' :: ['r'])
    exact ⟨c, u, rfl, hletter (by decide) hc⟩
  · obtain ⟨c, u, rfl, hc, -⟩ :=
      List.map_eq_cons_iff.1 (hw : w.map Char.toLower = 'a' :: ['n', 'd'])
    exact ⟨c, u, rfl, hletter (by decide) hc⟩

/-- One step of reading: the clause in front of a joining word is read, and reading goes on behind
the word. -/
theorem readFrom_cut {first : Bool} {r j s w t : Text}
    (hstart : clauseStart first r = (j, s ++ ' ' :: (w ++ ' ' :: t)))
    (hcut : joinIndex (s ++ ' ' :: (w ++ ' ' :: t)) = s.length) :
    readFrom first r = reading (trim s) j :: readFrom false (' ' :: (w ++ ' ' :: t)) := by
  rw [readFrom_eq, hstart]
  simp only [hcut, List.take_left', List.drop_left']
  rw [if_neg (by simp)]

/-- Behind a clause stands its joining word, and then the next clause. -/
theorem clauseStart_rest {s w t : Text}
    (htrim : trim (s ++ ' ' :: (w ++ ' ' :: t)) = s ++ ' ' :: (w ++ ' ' :: t))
    (hw : IsJoin (lower w)) :
    clauseStart false (' ' :: (w ++ ' ' :: t)) = (lower w, trim t) := by
  have hrest : trim (' ' :: (w ++ ' ' :: t)) = w ++ ' ' :: t := by
    obtain ⟨c, u, rfl, hc⟩ := exists_cons_of_isJoin hw
    have hright := trimRight_of_append (trimLeft_trimRight_of_trim_eq htrim).2
    rw [← List.singleton_append] at hright ⊢
    rw [trim_blank_append (by decide), trim, List.cons_append, trimLeft_cons hc]
    exact trimRight_of_append hright
  rw [clauseStart, if_neg Bool.false_ne_true, hrest, splitJoin_word hw]

/-- The last step of reading: what has no joining word outside quoted strings is one clause. -/
theorem readFrom_last {first : Bool} {r j s : Text} (hstart : clauseStart first r = (j, s))
    (hne : s ≠ []) (htrim : trim s = s) (hcut : joinIndex s = s.length) :
    readFrom first r = [reading s j] := by
  have hnone : readFrom false [] = [] := by
    rw [readFrom_eq]
    rfl
  rw [readFrom_eq, hstart]
  simp only [hcut, List.take_length, List.drop_length, htrim, hnone, if_neg hne]

/-- Reading conditions without a dotted I reads the clauses of their division. -/
theorem exists_division {first : Bool} {r j s : Text} (hstart : clauseStart first r = (j, s))
    (htrim : trim s = s) (hdot : dottedI ∉ s) :
    ∃ cs, Division j s cs ∧ readFrom first r = cs.map fun c => reading c.2 c.1 := by
  induction hn : s.length using Nat.strongRecOn generalizing first r j s with
  | _ n ih =>
    have hfirst := isFirst_cutsAt_joinIndex hdot
    by_cases hnil : s = []
    · subst hnil
      exact ⟨[], .nothing, by rw [readFrom_eq, hstart]; rfl⟩
    by_cases hcut : joinIndex s < s.length
    · obtain ⟨w, t, hdrop, hw⟩ := (hfirst.holds hcut).2.exists_word
      have hs : s = s.take (joinIndex s) ++ ' ' :: (w ++ ' ' :: t) := by
        rw [← hdrop, List.take_append_drop]
      have hlength : joinIndex s = (s.take (joinIndex s)).length :=
        (List.length_take_of_le (Nat.le_of_lt hcut)).symm
      generalize s.take (joinIndex s) = u at hs hlength
      subst hs
      rw [hlength] at hfirst
      have hstart' := clauseStart_rest htrim hw
      have hshorter : (trim t).length < n := by
        have htail := length_trim_le t
        simp only [List.length_append, List.length_cons] at hn
        omega
      have hdot' : dottedI ∉ trim t := fun hmem => hdot (by simp [trim_subset t hmem])
      obtain ⟨cs, hcs, hread⟩ := ih _ hshorter hstart' (trim_trim t) hdot' rfl
      refine ⟨(j, trim u) :: cs, .cut hfirst hw hcs, ?_⟩
      rw [readFrom_cut hstart hlength, hread, List.map_cons]
    · have hend : joinIndex s = s.length := Nat.le_antisymm hfirst.le (Nat.le_of_not_lt hcut)
      rw [hend] at hfirst
      exact ⟨[(j, s)], .last hnil hfirst, readFrom_last hstart hnil htrim hend⟩

/-- The search for a joining word outside quoted strings finds the first one, or the end of the
text, unless a dotted I stands in front of it: it stops where a joining word stands in the
lower-case form. The first joining word of all, if it is outside quoted strings, is missed whenever
there is a dotted I in front of it. Conditions without a dotted I are cut into clauses as they
should be. -/
theorem joinIndex_and_readAll (s : Text) :
    IsFirst (fun i => Outside s i ∧ s[i]? ≠ some '"' ∧ ∃ j, JoinsAt s j ∧ i = lowerPosition s j)
      s.length (joinIndex s) ∧
    (∀ i, IsFirst (CutsAt s) s.length i → dottedI ∉ s.take i → joinIndex s = i) ∧
    (∀ i, (∀ j < i, ¬JoinsAt s j) → CutsAt s i → (joinIndex s = i ↔ dottedI ∉ s.take i)) ∧
    (dottedI ∉ s → ∃ cs, Division "or".toList (trim s) cs ∧
      readAll s = cs.map fun c => reading c.2 c.1) := by
  refine ⟨isFirst_joinIndex s, fun i => joinIndex_eq, fun i => joinIndex_eq_iff, fun hdot => ?_⟩
  exact exists_division rfl (trim_trim s) fun hmem => hdot (trim_subset s hmem)

/-- Two clauses, the first of which has two dotted Is in its value. -/
def dottedClauses : Text :=
  "$header_subject: contains \"\u0130\u0130\" and $header_from: is \"x\"".toList

/-- The joining word is found two characters too late. The first clause takes its blank and its
first letter, and the rest of it becomes a part of the second clause, which is marked with `or`. -/
theorem joinIndex_dottedClauses :
    IsFirst (CutsAt dottedClauses) dottedClauses.length 30 ∧ joinIndex dottedClauses = 32 ∧
      (Rule.parse dottedClauses).map (fun r => (r.part, r.join)) =
        [("$header_subject:".toList, "or".toList), ("nd $header_from:".toList, "or".toList)] := by
  decide +kernel

end MailFilter.Clause
