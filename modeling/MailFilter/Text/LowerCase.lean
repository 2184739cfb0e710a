import MailFilter.Text.Case

/-!
# Lower case and positions

Lower case replaces every character by one, with a single exception: the capital I with a dot
becomes two characters, and everything behind it moves. As far as the lower-case form starts with
given ASCII characters, it is enough to look at the capital letters A to Z, because no other
character becomes one of them; the exceptions are `i` and `k`, to which the dotted I and the Kelvin
sign give rise.
-/
namespace MailFilter.Text

def dottedI : Char := Char.ofNat 0x130

/-- The lower-case form of one character between the text before it, in reverse, and the text after
it. -/
def lowerPiece (before : Text) (c : Char) (after : Text) : Text :=
  if c == capitalSigma then
    [if nextIsCased before && !nextIsCased after then finalSigma else smallSigma]
  else lowerChar c

@[simp] theorem lowerAfter_cons (before : Text) (c : Char) (s : Text) :
    lowerAfter before (c :: s) = lowerPiece before c s ++ lowerAfter (c :: before) s := rfl

theorem toNat_ofNat_cases (n : Nat) : (Char.ofNat n).toNat = n ∨ (Char.ofNat n).toNat = 0 := by
  by_cases hn : n.isValidChar
  · left
    rw [Char.ofNat, dif_pos hn]
    rfl
  · right
    rw [Char.ofNat, dif_neg hn]
    rfl

theorem lowerChar_of_isAscii {c : Char} (h : isAscii c = true) : lowerChar c = [c.toLower] := by
  have hall : ∀ n < 128, lowerChar (Char.ofNat n) = [(Char.ofNat n).toLower] := by decide
  have hlt : c.toNat < 128 := by simpa [isAscii] using h
  simpa using hall c.toNat hlt

/-- An ASCII character that is the lower-case form of no character outside ASCII. -/
def IsSteady (x : Char) : Prop := 0 < x.toNat ∧ x.toNat < 128 ∧ x ≠ 'i' ∧ x ≠ 'k'

instance (x : Char) : Decidable (IsSteady x) := inferInstanceAs (Decidable (_ ∧ _))

/-- The lower-case form of a run is outside ASCII, or it is the letter k. -/
theorem lowerRuns_shift :
    ∀ r ∈ CaseTable.lowerRuns, 128 ≤ (r.first : Int) + r.shift ∨
      (r.first : Int) + r.shift = 107 ∧ r.last = r.first := by decide +kernel

theorem lowerChar_of_not_isAscii {c : Char} (h : isAscii c = false) (hc : c ≠ dottedI) :
    ∃ d, lowerChar c = [d] ∧ ∀ x, IsSteady x → d ≠ x := by
  have hlarge : 128 ≤ c.toNat := by simpa [isAscii] using h
  have hspecial : CaseTable.lowerSpecial.find? (·.1 == c.toNat) = none := by
    have hne : c.toNat ≠ 304 := by
      intro heq
      apply hc
      rw [dottedI, ← heq, Char.ofNat_toNat]
    simp [CaseTable.lowerSpecial, Ne.symm hne]
  rw [lowerChar, if_neg (by simp [h]), CaseTable.find?, hspecial]
  cases hrun : CaseTable.lowerRuns.find? (·.covers c.toNat) with
  | none =>
    refine ⟨c, rfl, ?_⟩
    rintro x ⟨-, hx, -⟩ rfl
    omega
  | some r =>
    have hcovers := List.find?_some hrun
    simp only [CaseTable.Run.covers, Bool.and_eq_true, decide_eq_true_eq] at hcovers
    have hshift := lowerRuns_shift r (List.mem_of_find?_eq_some hrun)
    refine ⟨_, rfl, ?_⟩
    rintro x ⟨hpos, hx, -, hk⟩ rfl
    rcases toNat_ofNat_cases (Int.toNat (c.toNat + r.shift)) with hvalue | hvalue
    · rw [hvalue] at hx
      have hletter : Int.toNat (c.toNat + r.shift) = 107 := by omega
      exact hk (by rw [hletter])
    · omega

/-- Only capital letters A to Z are changed. -/
theorem toLower_cases (c : Char) : c.toLower = c ∨ c.toNat ≤ 90 := by
  by_cases hcapital : c.val ≥ 'A'.val ∧ c.val ≤ 'Z'.val
  · exact .inr hcapital.2
  · exact .inl (dif_neg hcapital)

/-- One character becomes one character, unless it is the dotted I, and a steady character comes
only from itself and its capital. -/
theorem lowerPiece_cases (before : Text) (c : Char) (after : Text) :
    c = dottedI ∧ lowerPiece before c after = ['i', Char.ofNat 775] ∨
      c ≠ dottedI ∧ ∃ d, lowerPiece before c after = [d] ∧
        ∀ x, IsSteady x → (d = x ↔ c.toLower = x) := by
  by_cases hdot : c = dottedI
  · subst hdot
    exact .inl ⟨rfl, rfl⟩
  refine .inr ⟨hdot, ?_⟩
  unfold lowerPiece
  cases hascii : isAscii c with
  | true =>
    have hsigma : (c == capitalSigma) = false := by
      rw [beq_eq_false_iff_ne]
      rintro rfl
      exact absurd hascii (by decide)
    rw [hsigma, if_neg Bool.false_ne_true, lowerChar_of_isAscii hascii]
    exact ⟨_, rfl, fun x _ => Iff.rfl⟩
  | false =>
    have hupper : ∀ x, IsSteady x → c.toLower ≠ x := by
      have hlarge : 128 ≤ c.toNat := by simpa [isAscii] using hascii
      have hsame : c.toLower = c := (toLower_cases c).resolve_right (by omega)
      rintro x ⟨-, hx, -⟩ rfl
      rw [hsame] at hx
      omega
    split
    · refine ⟨_, rfl, fun x hx => iff_of_false ?_ (hupper x hx)⟩
      rintro rfl
      revert hx
      split <;> decide
    · obtain ⟨d, hd, hne⟩ := lowerChar_of_not_isAscii hascii hdot
      exact ⟨d, hd, fun x hx => iff_of_false (hne x hx) (hupper x hx)⟩

/-- Whether a lower-case form starts with steady characters is decided by the capital letters A to
Z, wherever the text stands. -/
theorem startsWith_lowerAfter {p : Text} (hp : ∀ x ∈ p, IsSteady x) (before s : Text) :
    startsWith (lowerAfter before s) p = startsWith (s.map Char.toLower) p := by
  induction p generalizing before s with
  | nil => simp [startsWith]
  | cons x p ih =>
    have hx := hp x (by simp)
    cases s with
    | nil => rfl
    | cons c s =>
      have hrest := ih (fun y hy => hp y (by simp [hy])) (c :: before) s
      unfold startsWith at hrest ⊢
      rw [lowerAfter_cons, List.map_cons, List.isPrefixOf_cons_cons]
      rcases lowerPiece_cases before c s with ⟨rfl, hpiece⟩ | ⟨-, d, hpiece, hd⟩
      · have hi : (x == 'i') = false := by simpa using hx.2.2.1
        have hdot : (x == dottedI.toLower) = false := by
          rw [beq_eq_false_iff_ne]
          rintro rfl
          exact absurd hx (by decide)
        rw [hpiece, hdot, List.cons_append, List.isPrefixOf_cons_cons, hi]
        rfl
      · have heq : (x == d) = (x == c.toLower) := by
          rw [Bool.eq_iff_iff, beq_iff_eq, beq_iff_eq, eq_comm, hd x hx, eq_comm]
        rw [hpiece, List.singleton_append, List.isPrefixOf_cons_cons, heq, hrest]

/-- A lower-case form of steady characters is due to the capital letters A to Z alone. -/
theorem lowerAfter_eq_iff {t : Text} (ht : ∀ x ∈ t, IsSteady x) {before s : Text} :
    lowerAfter before s = t ↔ s.map Char.toLower = t := by
  induction s generalizing before t with
  | nil => rfl
  | cons c s ih =>
    rw [lowerAfter_cons, List.map_cons]
    cases t with
    | nil =>
      rcases lowerPiece_cases before c s with ⟨-, hpiece⟩ | ⟨-, d, hpiece, -⟩
      · simp [hpiece]
      · simp [hpiece]
    | cons x t =>
      obtain ⟨hx, ht⟩ := List.forall_mem_cons.1 ht
      have hrest : lowerAfter (c :: before) s = t ↔ s.map Char.toLower = t := ih ht
      rw [List.cons.injEq, ← hrest]
      rcases lowerPiece_cases before c s with ⟨rfl, hpiece⟩ | ⟨-, d, hpiece, hd⟩
      · have hi : 'i' ≠ x := fun h => hx.2.2.1 h.symm
        have hdot : dottedI.toLower ≠ x := by
          rintro rfl
          exact absurd hx (by decide)
        rw [hpiece, List.cons_append, List.cons.injEq]
        exact iff_of_false (fun h => hi h.1) fun h => hdot h.1
      · rw [hpiece, List.singleton_append, List.cons.injEq, hd x hx]

/-- No other character becomes a space. -/
theorem toLower_ne_space {c : Char} (hc : c ≠ ' ') : c.toLower ≠ ' ' := by
  have hall : ∀ n < 128, Char.ofNat n ≠ ' ' → (Char.ofNat n).toLower ≠ ' ' := by decide
  rcases toLower_cases c with hsame | hle
  · rwa [hsame]
  · have hlower := hall c.toNat (by omega)
    rw [Char.ofNat_toNat] at hlower
    exact hlower hc

/-- Without the dotted I, positions in the lower-case form are positions in the text. -/
theorem drop_lowerAfter {s : Text} (h : dottedI ∉ s) (before t : Text) :
    (lowerAfter before (s ++ t)).drop s.length = lowerAfter (s.reverse ++ before) t := by
  induction s generalizing before with
  | nil => rfl
  | cons c s ih =>
    rw [List.mem_cons, not_or] at h
    rcases lowerPiece_cases before c (s ++ t) with ⟨hdot, -⟩ | ⟨-, d, hpiece, -⟩
    · exact absurd hdot.symm h.1
    · rw [List.cons_append, lowerAfter_cons, hpiece, List.singleton_append, List.length_cons,
        List.drop_succ_cons, ih h.2]
      simp

/-- The character is its own lower-case form wherever it stands. -/
def IsLower (c : Char) : Prop := c ≠ capitalSigma ∧ lowerChar c = [c]

instance (c : Char) : Decidable (IsLower c) := inferInstanceAs (Decidable (_ ∧ _))

/-- A text that is its own lower-case form consists of characters that are. -/
theorem isLower_of_lowerAfter_eq {before s : Text} (h : dottedI ∉ s)
    (hs : lowerAfter before s = s) : ∀ c ∈ s, IsLower c := by
  induction s generalizing before with
  | nil => simp
  | cons c s ih =>
    rw [List.mem_cons, not_or] at h
    rcases lowerPiece_cases before c s with ⟨hdot, -⟩ | ⟨-, d, hpiece, -⟩
    · exact absurd hdot.symm h.1
    · rw [lowerAfter_cons, hpiece, List.singleton_append, List.cons.injEq] at hs
      obtain ⟨rfl, hrest⟩ := hs
      have hsigma : d ≠ capitalSigma := by
        rintro rfl
        have hforms : lowerPiece before capitalSigma s = [finalSigma] ∨
            lowerPiece before capitalSigma s = [smallSigma] := by
          unfold lowerPiece
          cases nextIsCased before && !nextIsCased s with
          | true => exact .inl rfl
          | false => exact .inr rfl
        rw [hpiece] at hforms
        exact absurd hforms (by decide)
      have hlower : lowerChar d = [d] := by
        rw [← hpiece, lowerPiece, if_neg (by simpa using hsigma)]
      exact List.forall_mem_cons.2 ⟨⟨hsigma, hlower⟩, ih h.2 hrest⟩

/-- Characters that are their own lower-case forms stay as they are in front of any text. -/
theorem lowerAfter_append_of_isLower {s : Text} (h : ∀ c ∈ s, IsLower c) (before t : Text) :
    lowerAfter before (s ++ t) = s ++ lowerAfter (s.reverse ++ before) t := by
  induction s generalizing before with
  | nil => rfl
  | cons c s ih =>
    obtain ⟨hsigma, hlower⟩ := h c (by simp)
    rw [List.cons_append, lowerAfter_cons, lowerPiece, if_neg (by simpa using hsigma), hlower,
      ih fun d hd => h d (by simp [hd])]
    simp

end MailFilter.Text
