import MailFilter.Text.Blank
import MailFilter.Text.Case

/-!
# Where characters come from

Trimming, cutting, unescaping and joining text bring in no characters of their own, and neither
does a change of case as far as the characters before the capital letters are concerned. Lines
hold no line ends. Together these facts say which characters the parts of a filter can have.
-/
namespace MailFilter.Text

theorem trimRight_subset (s : Text) : trimRight s ⊆ s := by
  intro c hc
  exact List.mem_reverse.1 ((List.dropWhile_sublist _).subset (List.mem_reverse.1 hc))

theorem trim_subset (s : Text) : trim s ⊆ s := by
  intro c hc
  exact (List.dropWhile_sublist _).subset (trimRight_subset _ hc)

theorem trimChar_subset (c : Char) (s : Text) : trimChar c s ⊆ s := by
  intro d hd
  have hrest := (List.dropWhile_sublist _).subset (List.mem_reverse.1 hd)
  exact (List.dropWhile_sublist _).subset (List.mem_reverse.1 hrest)

theorem before_subset (stop : Char) (s : Text) : before stop s ⊆ s :=
  (List.takeWhile_sublist _).subset

theorem subset_of_after? {stop : Char} {s t : Text} (h : after? stop s = some t) : t ⊆ s := by
  have hsub : s.dropWhile (· != stop) ⊆ s := (List.dropWhile_sublist _).subset
  unfold after? at h
  split at h
  · cases h
  next c r hr =>
    obtain rfl := Option.some.inj h
    intro d hd
    exact hsub (by rw [hr]; exact List.mem_cons_of_mem c hd)

theorem afterLast_subset (stop : Char) (s : Text) : afterLast stop s ⊆ s := by
  intro c hc
  exact List.mem_reverse.1 ((List.takeWhile_sublist _).subset (List.mem_reverse.1 hc))

theorem subset_of_afterMarker? {marker s t : Text} (h : afterMarker? marker s = some t) :
    t ⊆ s := by
  induction s with
  | nil =>
    unfold afterMarker? at h
    split at h
    · rw [← Option.some.inj h]
      exact List.Subset.refl _
    · cases h
  | cons c s ih =>
    unfold afterMarker? at h
    split at h
    · rw [← Option.some.inj h]
      exact List.drop_subset _ _
    · exact fun d hd => List.mem_cons_of_mem c (ih h hd)

/-- No line of a text holds a character that ends lines. -/
theorem isLineEnd_of_mem_lines {s l : Text} (h : l ∈ lines s) : ∀ c ∈ l, isLineEnd c = false := by
  fun_induction lines s generalizing l with
  | case1 => cases h
  | case2 s ih =>
    rcases List.mem_cons.1 h with rfl | h
    · simp
    · exact ih h
  | case3 c s _ hc ih =>
    rcases List.mem_cons.1 h with rfl | h
    · simp
    · exact ih h
  | case4 c s _ hc hnil _ =>
    rw [List.mem_singleton.1 h]
    simpa using hc
  | case5 c s _ hc m ms hlines ih =>
    rcases List.mem_cons.1 h with rfl | h
    · have hm := ih (l := m) (by simp [hlines])
      intro d hd
      rcases List.mem_cons.1 hd with rfl | hd
      · simpa using hc
      · exact hm d hd
    · exact ih (by simp [hlines, h])

/-! A change of case produces letters and characters after them. -/

/-- The character comes before the capital letters and is not the null character. -/
def IsPlain (c : Char) : Prop := 0 < c.toNat ∧ c.toNat < 65

instance (c : Char) : Decidable (IsPlain c) := inferInstanceAs (Decidable (_ ∧ _))

theorem not_isPlain_ofNat {n : Nat} (h : 65 ≤ n) : ¬IsPlain (Char.ofNat n) := by
  by_cases hn : n.isValidChar
  · have hvalue : (Char.ofNat n).toNat = n := by
      rw [Char.ofNat, dif_pos hn]
      rfl
    rw [IsPlain, hvalue]
    omega
  · have hvalue : (Char.ofNat n).toNat = 0 := by
      rw [Char.ofNat, dif_neg hn]
      rfl
    rw [IsPlain, hvalue]
    omega

/-- The tables give no plain character. -/
theorem not_isPlain_of_find? {special : List (Nat × List Nat)} {runs : List CaseTable.Run}
    (hspecial : ∀ p ∈ special, ∀ m ∈ p.2, 65 ≤ m)
    (hruns : ∀ r ∈ runs, 65 ≤ (r.first : Int) + r.shift) {n : Nat} {form : Text}
    (h : CaseTable.find? special runs n = some form) : ∀ c ∈ form, ¬IsPlain c := by
  unfold CaseTable.find? at h
  split at h
  next p hp =>
    rw [← Option.some.inj h]
    intro c hc
    obtain ⟨m, hm, rfl⟩ := List.mem_map.1 hc
    exact not_isPlain_ofNat (hspecial _ (List.mem_of_find?_eq_some hp) m hm)
  next =>
    obtain ⟨r, hr, rfl⟩ := Option.map_eq_some_iff.1 h
    have hcovers := List.find?_some hr
    simp only [CaseTable.Run.covers, Bool.and_eq_true, decide_eq_true_eq] at hcovers
    have hshift := hruns r (List.mem_of_find?_eq_some hr)
    intro c hc
    rw [List.mem_singleton.1 hc]
    exact not_isPlain_ofNat (by omega)

theorem mem_of_find?_getD {special : List (Nat × List Nat)} {runs : List CaseTable.Run}
    (hspecial : ∀ p ∈ special, ∀ m ∈ p.2, 65 ≤ m)
    (hruns : ∀ r ∈ runs, 65 ≤ (r.first : Int) + r.shift) {n : Nat} {d : Char} {form : Text}
    (hd : IsPlain d) (h : d ∈ (CaseTable.find? special runs n).getD form) : d ∈ form := by
  cases hfind : CaseTable.find? special runs n with
  | none => simpa [hfind] using h
  | some t =>
    rw [hfind, Option.getD_some] at h
    exact absurd hd (not_isPlain_of_find? hspecial hruns hfind d h)

theorem mem_of_mem_lowerChar {c d : Char} (hd : IsPlain d) (h : d ∈ lowerChar c) : d = c := by
  unfold lowerChar at h
  split at h
  · rw [List.mem_singleton] at h
    split at h
    next hupper =>
      simp only [isAsciiUpper, Bool.and_eq_true, decide_eq_true_eq] at hupper
      have hc : 65 ≤ c.toNat := hupper.1
      exact absurd (h ▸ hd) (not_isPlain_ofNat (by omega))
    · exact h
  · have hmem := mem_of_find?_getD (by decide +kernel) (by decide +kernel) hd h
    exact List.mem_singleton.1 hmem

theorem mem_of_mem_upperChar {c d : Char} (hd : IsPlain d) (h : d ∈ upperChar c) : d = c := by
  unfold upperChar at h
  split at h
  · rw [List.mem_singleton] at h
    split at h
    next hlower =>
      simp only [isAsciiLower, Bool.and_eq_true, decide_eq_true_eq] at hlower
      have hc : 97 ≤ c.toNat := hlower.1
      exact absurd (h ▸ hd) (not_isPlain_ofNat (by omega))
    · exact h
  · have hmem := mem_of_find?_getD (by decide +kernel) (by decide +kernel) hd h
    exact List.mem_singleton.1 hmem

theorem mem_of_mem_titleChar {c d : Char} (hd : IsPlain d) (h : d ∈ titleChar c) : d = c := by
  unfold titleChar at h
  split at h
  · exact mem_of_mem_upperChar hd h
  · exact mem_of_mem_upperChar hd (mem_of_find?_getD (by decide +kernel) (by decide +kernel) hd h)

theorem mem_of_mem_lowerAfter {d : Char} (hd : IsPlain d) {before s : Text}
    (h : d ∈ lowerAfter before s) : d ∈ s := by
  induction s generalizing before with
  | nil => exact h
  | cons c s ih =>
    rw [lowerAfter, List.mem_append] at h
    rcases h with h | h
    · split at h
      · rw [List.mem_singleton] at h
        split at h
        · exact absurd (h ▸ hd) (by decide)
        · exact absurd (h ▸ hd) (by decide)
      · rw [mem_of_mem_lowerChar hd h]
        exact List.mem_cons_self
    · exact List.mem_cons_of_mem c (ih h)

theorem mem_of_mem_lower {d : Char} (hd : IsPlain d) {s : Text} (h : d ∈ lower s) : d ∈ s :=
  mem_of_mem_lowerAfter hd h

theorem mem_of_mem_capitalize {d : Char} (hd : IsPlain d) {s : Text} (h : d ∈ capitalize s) :
    d ∈ s := by
  cases s with
  | nil => exact h
  | cons c s =>
    rw [capitalize, List.mem_append] at h
    rcases h with h | h
    · rw [mem_of_mem_titleChar hd h]
      exact List.mem_cons_self
    · exact List.mem_cons_of_mem c (mem_of_mem_lowerAfter hd h)

end MailFilter.Text
